import TunnelRelay.Bytes
import TunnelRelay.Text.Decimal
import TunnelRelay.Text.Split

/-!
# Network addresses

An IPv4 address is four octets, an IPv6 address eight groups of two octets. Both have one text that
is written and a few more that are read: an IPv6 address may leave out one run of zero groups and
may end in an IPv4 address.
-/

namespace TunnelRelay.Ip

/-- An IPv4 address. -/
structure V4 where
  a : UInt8
  b : UInt8
  c : UInt8
  d : UInt8
  deriving DecidableEq, Repr

/-- An IPv6 address. -/
structure V6 where
  groups : List UInt16
  length_groups : groups.length = 8
  deriving DecidableEq, Repr

/-! ## IPv4 -/

namespace V4

/-- The address on the wire. -/
def toBytes (x : V4) : Bytes := [x.a, x.b, x.c, x.d]

/-- The address that four octets are. -/
def ofBytes? : Bytes → Option V4
  | [a, b, c, d] => some ⟨a, b, c, d⟩
  | _ => none

@[simp] theorem ofBytes?_toBytes (x : V4) : ofBytes? x.toBytes = some x := rfl

/-- The address of a number below 2 ^ 32. -/
def ofNat (n : Nat) : V4 :=
  ⟨UInt8.ofNat (n / 0x1000000), UInt8.ofNat (n / 0x10000), UInt8.ofNat (n / 0x100), UInt8.ofNat n⟩

/-- One number of a dotted address: no sign, no leading zero, at most 255. -/
def part? (cs : List Char) : Option UInt8 :=
  if cs = [] ∨ (cs.head? = some '0' ∧ 1 < cs.length) then none
  else ((Text.numeral? 10 0 cs).filter (· < 256)).map UInt8.ofNat

/-- The address that a text spells with four numbers. -/
def ofText? (cs : List Char) : Option V4 :=
  match Text.fields '.' cs with
  | [a, b, c, d] => do return ⟨← part? a, ← part? b, ← part? c, ← part? d⟩
  | _ => none

/-- The four numbers with dots between them. -/
def toText (x : V4) : String := s!"{x.a}.{x.b}.{x.c}.{x.d}"

end V4

/-! ## IPv6 -/

namespace V6

/-- The address on the wire. -/
def toBytes (x : V6) : Bytes := x.groups.flatMap Bytes.bigEndian16

/-- The groups that pairs of octets are. -/
def groupsOf : Bytes → List UInt16
  | x :: y :: r => UInt16.ofNat (x.toNat * 256 + y.toNat) :: groupsOf r
  | _ => []

theorem length_groupsOf (n : Nat) (b : Bytes) (h : b.length = 2 * n) :
    (groupsOf b).length = n := by
  induction n generalizing b with
  | zero => simp_all [groupsOf]
  | succ n ih =>
    match b, h with
    | x :: y :: r, h => simp [groupsOf, ih r (by simp at h; omega)]

/-- The address that sixteen octets are. -/
def ofBytes? (b : Bytes) : Option V6 :=
  if h : b.length = 16 then some ⟨groupsOf b, length_groupsOf 8 b h⟩ else none

/-- One group: up to four hexadecimal digits. -/
def group? (cs : List Char) : Option UInt16 :=
  if cs = [] ∨ 4 < cs.length then none else (Text.numeral? 16 0 cs).map UInt16.ofNat

/-- The two groups that an IPv4 address stands for. -/
def ofV4 (x : V4) : List UInt16 := groupsOf x.toBytes

/-- The groups between colons; an IPv4 address may stand last where `v4Last` allows it. -/
def groups? (v4Last : Bool) : List (List Char) → Option (List UInt16)
  | [] => some []
  | [f] =>
    match group? f with
    | some g => some [g]
    | none => if v4Last then (V4.ofText? f).map ofV4 else none
  | f :: fs => do return (← group? f) :: (← groups? v4Last fs)

/-- The groups of one side of an omitted run; a side may be empty. -/
def side? (v4Last : Bool) (cs : List Char) : Option (List UInt16) :=
  if cs = [] then some [] else groups? v4Last (Text.fields ':' cs)

/-- What stands before and after the first double colon, when there is one. -/
def cutRun? : List Char → Option (List Char × List Char)
  | ':' :: ':' :: r => some ([], r)
  | c :: r => (cutRun? r).map fun (a, b) => (c :: a, b)
  | [] => none

/-- The groups of an address with `l` before an omitted run of zeros and `r` after it. -/
def spread (l r : List UInt16) : List UInt16 := l ++ List.replicate (8 - l.length - r.length) 0 ++ r

/-- The address that a text spells. A double colon stands for one group at least. -/
def ofText? (cs : List Char) : Option V6 :=
  match cutRun? cs with
  | none => do
    let gs ← groups? true (Text.fields ':' cs)
    if h : gs.length = 8 then return ⟨gs, h⟩ else none
  | some (l, r) => do
    let l ← side? false l
    let r ← side? true r
    if h : l.length + r.length ≤ 7 then
      return ⟨spread l r, by simp [spread]; omega⟩
    else none

/-- The run of zeros at the front. -/
def zeros (gs : List UInt16) : Nat := (gs.takeWhile (· == 0)).length

/-- Where the longest run of zeros starts and how long it is; the first of several. -/
def longestRun : List UInt16 → Nat × Nat
  | [] => (0, 0)
  | g :: gs =>
    let (start, length) := longestRun gs
    if length ≤ zeros (g :: gs) then (0, zeros (g :: gs)) else (start + 1, length)

/-- A number in lower-case hexadecimal without leading zeros. -/
def hex (g : UInt16) : String := String.ofList (Nat.toDigits 16 g.toNat)

/-- Groups with colons between them. -/
def join (gs : List UInt16) : String := String.intercalate ":" (gs.map hex)

/-- The address as it is written: an IPv4-mapped address ends in dots, and otherwise the first
longest run of two or more zero groups is left out. -/
def toText (x : V6) : String :=
  match x.groups with
  | [0, 0, 0, 0, 0, 0xFFFF, g, h] =>
    "::ffff:" ++ (V4.ofNat (g.toNat * 65536 + h.toNat)).toText
  | gs =>
    let (start, length) := longestRun gs
    if length < 2 then join gs
    else join (gs.take start) ++ "::" ++ join (gs.drop (start + length))

end V6

end Ip

/-- A network address of either kind. -/
inductive Ip where
  | v4 (address : Ip.V4)
  | v6 (address : Ip.V6)
  deriving DecidableEq, Repr

namespace Ip

/-- The address that a text spells. -/
def ofText? (cs : List Char) : Option Ip :=
  match V4.ofText? cs with
  | some x => some (.v4 x)
  | none => (V6.ofText? cs).map .v6

/-- The address as it is written. -/
def toText : Ip → String
  | v4 x => x.toText
  | v6 x => x.toText

end Ip

end TunnelRelay
