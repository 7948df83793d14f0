import TunnelRelay.Text.Decimal
import TunnelRelay.Text.Reader

/-!
# Quoted texts

A text stands in double quotes, where a backslash starts an escape sequence, or in single quotes,
where it is an ordinary character. Three quotes on each side make a text over several lines. Such a
text may hold one or two quotes together, also just before its end, and a line break right after its
beginning is not part of it.
-/

namespace TunnelRelay.Toml

open Text (Reader)

/-- A character that may stand for itself: no control character but the tab. -/
def isPlain (c : Char) : Bool := c = '\t' || (' ' ≤ c && c ≠ '\x7f')

/-- The blanks within a line. -/
def isGap (c : Char) : Bool := c = ' ' || c = '\t'

/-- A line break, with or without a carriage return. -/
def newline : Reader Unit := Reader.word "\n" <|> Reader.word "\r\n"

/-- The characters of a line break. -/
def brokenLine : Reader (List Char) := newline *> pure ['\n']

/-- The character with a code point of so many hexadecimal digits. -/
def codePoint (digits : Nat) : Reader Char := fun cs =>
  match Text.numeral? 16 0 (cs.take digits) with
  | some n =>
    if cs.length < digits ∨ ¬ n.isValidChar then none else some (Char.ofNat n, cs.drop digits)
  | none => none

/-- An escape sequence. -/
def escape : Reader Char := do
  Reader.word "\\"
  match ← Reader.one (fun _ => true) with
  | 'b' => return '\x08'
  | 't' => return '\t'
  | 'n' => return '\n'
  | 'f' => return '\x0c'
  | 'r' => return '\r'
  | '"' => return '"'
  | '\\' => return '\\'
  | 'u' => codePoint 4
  | 'U' => codePoint 8
  | _ => failure

/-- A backslash at the end of a line, which joins the next line that is not blank. -/
def joinedLine : Reader (List Char) := do
  Reader.word "\\"
  let _ ← Reader.run isGap
  newline
  let _ ← Reader.many (newline <|> (Reader.run1 isGap *> pure ()))
  return []

/-- Characters of a text in double quotes that do not stand for a line break. -/
def escapedPiece : Reader (List Char) :=
  Reader.run1 (fun c => isPlain c && c ≠ '"' && c ≠ '\\') <|> (return [← escape])

/-- Characters of a text in single quotes that do not stand for a line break. -/
def literalPiece : Reader (List Char) := Reader.run1 (fun c => isPlain c && c ≠ '\'')

/-- One or two quotes with something behind them. -/
def looseQuotes (quote : Char) : Reader (List Char) := fun cs =>
  let (quotes, r) := cs.span (· = quote)
  if 1 ≤ quotes.length ∧ quotes.length ≤ 2 ∧ r ≠ [] then some (quotes, r) else none

/-- The three quotes at the end and the one or two before them that belong to the text. -/
def lastQuotes (quote : Char) : Reader (List Char) := fun cs =>
  let (quotes, r) := cs.span (· = quote)
  if 3 ≤ quotes.length ∧ quotes.length ≤ 5 then some (quotes.drop 3, r) else none

/-- A text within one line. -/
def shortText (quote : String) (piece : Reader (List Char)) : Reader String := do
  Reader.word quote
  let pieces ← Reader.many piece
  Reader.word quote
  return String.ofList pieces.flatten

/-- A text over several lines. -/
def longText (quote : Char) (piece : Reader (List Char)) : Reader String := do
  Reader.word (String.ofList [quote, quote, quote])
  let _ ← optional newline
  let pieces ← Reader.many (piece <|> brokenLine <|> looseQuotes quote)
  let quotes ← lastQuotes quote
  return String.ofList (pieces.flatten ++ quotes)

/-- A text of either kind within one line, as it may be a key. -/
def quotedKey : Reader String := shortText "\"" escapedPiece <|> shortText "'" literalPiece

/-- A text of any kind. -/
def quoted : Reader String :=
  longText '"' (joinedLine <|> escapedPiece) <|> longText '\'' literalPiece <|> quotedKey

end TunnelRelay.Toml
