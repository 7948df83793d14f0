/-!
# Properties of characters

A property that gives every character one of a few values is the same over long runs of characters.
`Runs` keeps where each run starts and what its value is, and finds the run of a character by
halving. A table is written as the lengths of its runs in hexadecimal, each followed by a word for
its value, from the first character on.
-/

namespace TunnelRelay.Domain

/-- Where each run of characters starts and what its value is. -/
abbrev Runs (ρ : Type) := Array (Nat × ρ)

namespace Runs

variable {ρ : Type}

/-- The last of the runs from `lo` to before `hi` that starts no later than `c`, or that at `lo`. -/
def search (runs : Runs ρ) (c lo hi : Nat) : Nat :=
  if _h : lo + 1 < hi then
    let mid := (lo + hi) / 2
    match runs[mid]? with
    | some (first, _) => if first ≤ c then search runs c mid hi else search runs c lo mid
    | none => lo
  else lo
termination_by hi - lo

/-- The value of a character, which is `default` where a table has no runs. -/
def value (runs : Runs ρ) (default : ρ) (c : Char) : ρ :=
  match runs[search runs c.toNat 0 runs.size]? with
  | some (_, v) => v
  | none => default

end Runs

/-- The value of an upper-case hexadecimal digit. -/
def hexValue? (c : Char) : Option Nat :=
  if '0' ≤ c ∧ c ≤ '9' then some (c.toNat - 48)
  else if 'A' ≤ c ∧ c ≤ 'F' then some (c.toNat - 55)
  else none

/-- The number at the front of a text, and what follows it. -/
def leadingHex (n : Nat) : List Char → Nat × List Char
  | [] => (n, [])
  | c :: cs =>
    match hexValue? c with
    | some d => leadingHex (16 * n + d) cs
    | none => (n, c :: cs)

/-- The words of a text: everything between its spaces and line ends. -/
def words (text : List Char) : List (List Char) :=
  let step (c : Char) (state : List Char × List (List Char)) : List Char × List (List Char) :=
    if c = ' ' ∨ c = '\n' then ([], state.1 :: state.2) else (c :: state.1, state.2)
  let (first, rest) := text.foldr step ([], [])
  (first :: rest).filter (!·.isEmpty)

/-- The table that a text spells, with `read` for the word of a value. -/
def Runs.ofText {ρ : Type} (read : List Char → ρ) (text : String) : Runs ρ :=
  let step (state : Runs ρ × Nat) (word : List Char) : Runs ρ × Nat :=
    let (length, value) := leadingHex 0 word
    (state.1.push (state.2, read value), state.2 + length)
  ((words text.toList).foldl step (#[], 0)).1

end TunnelRelay.Domain
