import TunnelRelay.Text.Decimal
import TunnelRelay.Text.Reader

/-!
# Numbers

A whole number has 64 bits with a sign. In decimal it has no superfluous zero in front; with a mark
in front it is hexadecimal, octal or binary and has no sign. A number with a fraction or an exponent
is a double, of which only infinity by overflow is refused. Between two digits one underscore may
stand.
-/

namespace TunnelRelay.Toml

open Text (Reader)

/-- Digits that satisfy `p` with single underscores between them, which are left out. -/
def digits (p : Char → Bool) : Reader (List Char) := do
  let c ← Reader.one p
  let cs ← Reader.many ((Reader.word "_" *> Reader.one p) <|> Reader.one p)
  return c :: cs

/-- The digits of a base. -/
def isDigitOf (base : Nat) (c : Char) : Bool :=
  match Text.hexDigit? c with
  | some d => d < base
  | none => false

/-- The value of digits of a base. -/
def valueOf (base : Nat) (cs : List Char) : Nat := (Text.numeral? base 0 cs).getD 0

/-- Whether a minus sign stands in front; a plus sign may stand there too. -/
def sign : Reader Bool :=
  (Reader.word "-" *> pure true) <|> (Reader.word "+" *> pure false) <|> pure false

/-- Decimal digits without a superfluous zero in front. -/
def decimalDigits : Reader (List Char) := do
  let cs ← digits (isDigitOf 10)
  if cs.head? = some '0' ∧ cs.length ≠ 1 then failure else return cs

/-- A whole number after the mark of its base. -/
def marked (mark : String) (base : Nat) : Reader Int := do
  Reader.word mark
  return valueOf base (← digits (isDigitOf base))

/-- A whole number in decimal. -/
def decimal : Reader Int := do
  let negative ← sign
  let n := valueOf 10 (← decimalDigits)
  return if negative then -n else n

/-- A whole number of 64 bits. -/
def integer : Reader Int := do
  let n ← marked "0x" 16 <|> marked "0o" 8 <|> marked "0b" 2 <|> decimal
  if -0x8000000000000000 ≤ n ∧ n < 0x8000000000000000 then return n else failure

/-- The exponent of a number. -/
def exponent : Reader Int := do
  Reader.word "e" <|> Reader.word "E"
  let negative ← sign
  let n := valueOf 10 (← digits (isDigitOf 10))
  return if negative then -n else n

/-- The fraction of a number. -/
def fraction : Reader (List Char) := Reader.word "." *> digits (isDigitOf 10)

/-- Half a unit above the largest double, from where on a number rounds to infinity. -/
def overflow : Nat := 0x3FFFFFFFFFFFFF <<< 970

/-- Whether the decimal with these digits and that exponent rounds to infinity. An exponent that is
far from the number of digits decides by itself, so no large power is taken. -/
def isTooLarge (cs : List Char) (exponent : Int) : Bool :=
  let n := valueOf 10 cs
  match exponent with
  | .ofNat k => n ≠ 0 && (309 < k || overflow ≤ n * Nat.pow 10 k)
  | .negSucc k => k < cs.length && overflow * Nat.pow 10 (k + 1) ≤ n

/-- A number with a fraction or an exponent. -/
def float : Reader Unit := do
  let negative ← sign
  let whole ← decimalDigits
  let (part, e) ← (return ([], ← exponent)) <|> (return (← fraction, (← optional exponent).getD 0))
  if !negative && isTooLarge (whole ++ part) (e - part.length) then failure else return ()

/-- Infinity or no number at all. -/
def special : Reader Unit := do
  let _ ← sign
  Reader.word "inf" <|> Reader.word "nan"

end TunnelRelay.Toml
