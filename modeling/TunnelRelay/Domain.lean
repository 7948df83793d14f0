import TunnelRelay.Bytes
import TunnelRelay.Domain.Composition
import TunnelRelay.Domain.Direction
import TunnelRelay.Domain.Joining
import TunnelRelay.Domain.Mapping
import TunnelRelay.Domain.Punycode
import TunnelRelay.Text.Split

/-!
# Domain names

A domain name is looked up in lower-case ASCII. A name that has only ASCII and no encoded label is
its own lower case. Any other name is first brought into the one form that names are written in, and
then each label with other characters is encoded. Some characters of ASCII are in no name at all.
-/

namespace TunnelRelay.Domain

/-- The characters of ASCII that no name holds. -/
def isForbidden (c : Char) : Bool :=
  c.toNat ≤ 0x20 || c.toNat == 0x7F || "%#/:<>?@[\\]^|".toList.contains c

/-- Whether a text has ASCII only. -/
def isAscii (cs : List Char) : Bool := cs.all (·.toNat < 0x80)

/-- The start of a label that encodes other characters. -/
def encodedStart : List Char := ['x', 'n', '-', '-']

/-- Whether a label encodes other characters. -/
def isEncoded (label : List Char) : Bool := encodedStart.isPrefixOf label

/-- The name with every character mapped and every letter composed. -/
def normalized? (name : List Char) : Option (List Char) :=
  (name.mapM mapped?).map fun parts => compose parts.flatten

/-- The label that an encoded label stands for: it has other characters than ASCII and is in the
form that names are written in. -/
def decoded? (label : List Char) : Option (List Char) :=
  match Punycode.decode? (label.drop encodedStart.length) with
  | none => none
  | some cs => if !isAscii cs && normalized? cs == some cs then some cs else none

/-- A label as it is shown and as it is looked up. -/
structure Label where
  shown : List Char
  ascii : List Char

/-- The label of a normalized text. -/
def Label.ofText? (cs : List Char) : Option Label :=
  if isEncoded cs then (decoded? cs).map (⟨·, cs⟩)
  else some ⟨cs, if isAscii cs then cs else encodedStart ++ Punycode.encode cs⟩

/-- Whether a label may be in a name: it does not start with a mark, its joiners are in place, and
none of its characters is forbidden. -/
def Label.isValid (l : Label) : Bool :=
  !l.shown.any isForbidden && !(l.shown.head?.any isMark) && areJoinersInPlace [] l.shown

/-- Whether the labels read the same wherever they are shown. -/
def areOrdered (labels : List Label) : Bool :=
  let directions := labels.map fun l => l.shown.map direction
  !directions.any (·.any Direction.turns) || directions.all Direction.isOrdered

/-- The name that has other characters than ASCII, or stands for one that has. -/
def international? (name : List Char) : Option (List Char) := do
  let labels ← (Text.fields '.' (← normalized? name)).mapM Label.ofText?
  if labels.all Label.isValid && areOrdered labels then
    return ['.'].intercalate (labels.map (·.ascii))
  else none

/-- The name in the form in which it is looked up, when there is one. -/
def toAscii? (b : Bytes) : Option (List Char) := do
  let name := (← Bytes.toText? b).toList
  let lower := name.map Char.toLower
  if isAscii name && !(Text.fields '.' lower).any isEncoded then
    if lower.any isForbidden then none else some lower
  else international? name

end TunnelRelay.Domain
