/-!
# Reading a text from its front

A reader takes characters off the front of a text and gives what they stand for, or nothing, and
then it has taken nothing either: of two alternatives the second starts where the first did.
-/

namespace TunnelRelay.Text

/-- Reads something off the front of a text. -/
abbrev Reader := StateT (List Char) Option

namespace Reader

variable {α : Type}

/-- One character that satisfies `p`. -/
def one (p : Char → Bool) : Reader Char
  | c :: r => if p c then some (c, r) else none
  | [] => none

/-- These characters. -/
def word (w : String) : Reader Unit := fun cs =>
  if w.toList.isPrefixOf cs then some ((), cs.drop w.length) else none

/-- The longest run of characters that satisfy `p`. -/
def run (p : Char → Bool) : Reader (List Char) := fun cs => some (cs.span p)

/-- The longest run of characters that satisfy `p`, of which there is at least one. -/
def run1 (p : Char → Bool) : Reader (List Char) := do
  let cs ← run p
  if cs = [] then failure else return cs

/-- The end of the text. -/
def atEnd : Reader Unit := fun cs => if cs = [] then some ((), []) else none

/-- What the option holds. -/
def ofOption : Option α → Reader α
  | some a => pure a
  | none => failure

/-- As many items as there are; one that takes no characters ends them. -/
def many (item : Reader α) : Reader (List α) := fun cs =>
  match item cs with
  | none => some ([], cs)
  | some (a, r) =>
    if r.length < cs.length then (many item r).map fun (as, r) => (a :: as, r)
    else some ([], cs)
termination_by cs => cs.length

/-- Items with separators between them, possibly none. -/
def sepBy (item : Reader α) (separator : Reader Unit) : Reader (List α) :=
  (do
    let a ← item
    let as ← many (separator *> item)
    return a :: as) <|> pure []

/-- All of a text. -/
def readAll (r : Reader α) (cs : List Char) : Option α :=
  match r cs with
  | some (a, []) => some a
  | _ => none

end Reader

end TunnelRelay.Text
