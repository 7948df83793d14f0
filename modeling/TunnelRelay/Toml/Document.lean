import TunnelRelay.Toml.Quoted
import TunnelRelay.Toml.Time
import TunnelRelay.Toml.Value

/-!
# Documents

A document is a sequence of lines: keys with their values, and headers, each of which opens a table
for the keys below it. The lines are read first, with every value complete; the tables are then put
together section by section, which fails when a key or a table would be defined twice. Values are
nested less than 80 deep, and a key has less than 80 parts.
-/

namespace TunnelRelay.Toml

open Text (Reader)

/-- The number of levels that values and keys stay below. -/
def depthLimit : Nat := 80

/-! ## Between values -/

/-- Blanks within a line. -/
def gap : Reader Unit := Reader.run isGap *> pure ()

/-- A comment, up to the end of its line. -/
def comment : Reader Unit := Reader.word "#" *> Reader.run isPlain *> pure ()

/-- The end of a line or of the text. -/
def lineEnd : Reader Unit := newline <|> Reader.atEnd

/-- Blanks, line breaks and comments. -/
def gaps : Reader Unit :=
  Reader.many ((Reader.run1 isGap *> pure ()) <|> newline <|> (comment *> lineEnd)) *> pure ()

/-- The rest of a line behind what it holds. -/
def lineRest : Reader Unit := gap *> optional comment *> lineEnd

/-! ## Keys -/

/-- A key without quotes. -/
def bareKey : Reader String := do
  return String.ofList
    (← Reader.run1 fun c => c.isAlphanum || c = '_' || c = '-')

/-- A dotted key: the way to the value and the last part. -/
def key : Reader (List String × String) := do
  let parts ← Reader.sepBy (gap *> (quotedKey <|> bareKey) <* gap) (Reader.word ".")
  if depthLimit ≤ parts.length then failure
  else
    match parts.getLast? with
    | some last => return (parts.dropLast, last)
    | none => failure

/-! ## Values -/

/-- A value that holds no other values. -/
def scalar : Reader Value :=
  (return .text (← quoted))
    <|> (time *> pure .time)
    <|> (float *> pure .float)
    <|> (special *> pure .float)
    <|> (return .integer (← integer))
    <|> (Reader.word "true" *> pure (.boolean true))
    <|> (Reader.word "false" *> pure (.boolean false))

/-- Values in brackets; a comma may follow the last. -/
def array (item : Reader Value) : Reader Value := do
  Reader.word "["
  let items ← Reader.sepBy (gaps *> item <* gaps) (Reader.word ",")
  if items ≠ [] then
    let _ ← optional (Reader.word ",")
  gaps
  Reader.word "]"
  return .array items

/-- A key with its value. -/
def pair (item : Reader Value) : Reader (List String × String × Value) := do
  let (path, last) ← key
  Reader.word "="
  gap
  return (path, last, ← item)

/-- Keys with values in braces, within one line. -/
def braces (item : Reader Value) : Reader Value := do
  Reader.word "\x7b"
  let pairs ← Reader.sepBy (pair item <* gap) (Reader.word ",")
  gap
  Reader.word "\x7d"
  return .table .braces (← Reader.ofOption (Entries.addAll [] pairs))

/-- A value that holds others at most so many levels deep. -/
def value : Nat → Reader Value
  | 0 => scalar
  | n + 1 => scalar <|> array (value n) <|> braces (value n)

/-! ## Lines and sections -/

/-- How a header opens its table. -/
inductive Header where
  | table (path : List String) (key : String)
  | row (path : List String) (key : String)
  deriving DecidableEq, Repr

/-- The header of a section. -/
def header : Reader Header :=
  (do
    Reader.word "[["
    let (path, last) ← key
    Reader.word "]]"
    lineRest
    return .row path last) <|>
  (do
    Reader.word "["
    let (path, last) ← key
    Reader.word "]"
    lineRest
    return .table path last)

/-- The keys of a section with their values. -/
def pairs : Reader (List (List String × String × Value)) :=
  Reader.many (gaps *> pair (value (depthLimit - 1)) <* lineRest)

/-- Adds a section to the tables. -/
def Entries.addSection (es : Entries) :
    Header × List (List String × String × Value) → Option Entries
  | (.table path key, below) => es.addTable path key below
  | (.row path key, below) => es.addRow path key below

/-- A document. A byte order mark may stand in front. -/
def document : Reader Entries := do
  let _ ← optional (Reader.word "\uFEFF")
  let top ← pairs
  let sections ← Reader.many (do return (← gaps *> header, ← pairs))
  gaps
  Reader.atEnd
  Reader.ofOption do
    let es ← Entries.addAll [] top
    sections.foldlM Entries.addSection es

/-- The table that a text describes. -/
def ofText? (s : String) : Option Entries := document.readAll s.toList

end TunnelRelay.Toml
