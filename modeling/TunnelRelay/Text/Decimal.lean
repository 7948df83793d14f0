/-!
# Whole numbers in decimal

Reading is strict about everything but a leading plus sign and leading zeros: at least one digit,
nothing else, and a value within the limit of the field.
-/

namespace TunnelRelay.Text

/-- The value of a hexadecimal digit in either case. -/
def hexDigit? (c : Char) : Option Nat :=
  if '0' ≤ c ∧ c ≤ '9' then some (c.toNat - 48)
  else if 'a' ≤ c ∧ c ≤ 'f' then some (c.toNat - 87)
  else if 'A' ≤ c ∧ c ≤ 'F' then some (c.toNat - 55)
  else none

/-- The value of a run of digits in the base, appended to the digits of `n`. -/
def numeral? (base : Nat) (n : Nat) : List Char → Option Nat
  | [] => some n
  | c :: cs =>
    match hexDigit? c with
    | some d => if d < base then numeral? base (n * base + d) cs else none
    | none => none

/-- The number that the whole text spells, when it is at most `limit`. -/
def unsigned? (limit : Nat) (cs : List Char) : Option Nat :=
  let digits := match cs with
    | '+' :: r => r
    | _ => cs
  if digits = [] then none
  else (numeral? 10 0 digits).filter (· ≤ limit)

theorem le_of_unsigned? {limit n : Nat} {cs : List Char} (h : unsigned? limit cs = some n) :
    n ≤ limit := by
  unfold unsigned? at h
  extract_lets digits at h
  split at h
  · cases h
  · obtain ⟨-, hle⟩ := Option.filter_eq_some_iff.mp h
    exact of_decide_eq_true hle

end TunnelRelay.Text
