import TunnelRelay.Lz4.Compress

/-!
# Decompression

The declared size is the room for the output. A decoder that copies in wide strides accepts a run
of literals or a copy in the middle of a block only if enough of the input and of the room is left
after it, and which margins it asks for depends on how much room is left. Far from the end it
strides widely; from the first sequence that comes near the end it steps carefully. The margins
below are part of what blocks are accepted.
-/

namespace TunnelRelay.Lz4

/-- Input that is left, with its length. -/
structure Source where
  octets : Bytes
  left : Nat

/-- The continuation of a length: octets up to the first that is not 255, after each of which at
least `margin` octets are left. -/
def extend? (margin : Nat) : Bytes → Nat → Nat → Option (Nat × Source)
  | [], _, _ => none
  | b :: r, left, sum =>
    if left < margin + 1 then none
    else if b = 255 then extend? margin r (left - 1) (sum + 255)
    else some (sum + b.toNat, ⟨r, left - 1⟩)

/-- Moves `n` octets from the source to the output. -/
def literals (out : Array UInt8) : Nat → Source → Array UInt8 × Source
  | 0, s => (out, s)
  | n + 1, ⟨b :: r, left⟩ => literals (out.push b) n ⟨r, left - 1⟩
  | _ + 1, s => (out, s)

/-- Appends `n` octets, each the one `offset` octets back; an offset of 0 gives zeros. -/
def copy (offset : Nat) : Nat → Array UInt8 → Array UInt8
  | 0, out => out
  | n + 1, out => copy offset n (out.push (out.getD (out.size - offset) 0))

/-- What a run of literals leads to. -/
inductive Literals where
  /-- The block is complete. -/
  | done (out : Array UInt8)
  /-- A copy follows, with wide strides or without; `sure` tells that it may end at the very end
  of the room. -/
  | more (wide sure : Bool) (out : Array UInt8) (s : Source)

/-- Takes `n` literals carefully: they are the last of the block, or twelve octets of room and
eight of input are left. -/
def carefulLiterals? (room n : Nat) (out : Array UInt8) (s : Source) : Option Literals :=
  if room < out.size + n + 12 ∨ s.left < n + 8 then
    if s.left = n ∧ out.size + n ≤ room then some (.done (literals out n s).1) else none
  else
    let (out, s) := literals out n s
    some (.more false false out s)

/-- The literals of a sequence whose token announces `n` of them. -/
def literals? (wide : Bool) (room n : Nat) (out : Array UInt8) (s : Source) : Option Literals :=
  if n = 15 then
    if s.left ≤ 15 then none
    else do
      let (n, s) ← extend? 15 s.octets s.left 15
      if wide ∧ out.size + n + 32 ≤ room ∧ n + 32 ≤ s.left then
        let (out, s) := literals out n s
        some (.more true false out s)
      else carefulLiterals? room n out s
  else if wide ∧ 17 ≤ s.left then
    let (out, s) := literals out n s
    some (.more true false out s)
  else if !wide ∧ 16 < s.left ∧ out.size + 32 ≤ room then
    let (out, s) := literals out n s
    some (.more false true out s)
  else carefulLiterals? room n out s

/-- The copy of a sequence whose token announces `n` beyond the shortest. It tells whether wide
strides go on. -/
def copy? (wide sure : Bool) (room n : Nat) (out : Array UInt8) (s : Source) :
    Option (Bool × Array UInt8 × Source) :=
  match s.octets with
  | lo :: hi :: r => do
    let offset := lo.toNat + 256 * hi.toNat
    let s : Source := ⟨r, s.left - 2⟩
    let (long, s) ← if n = 15 then extend? 4 s.octets s.left 15 else some (n, s)
    let length := long + minMatch
    let finish := out.size + length
    if out.size < offset then none
    else if wide ∧ finish + 64 < room then some (true, copy offset length out, s)
    else if sure ∧ n ≠ 15 ∧ 8 ≤ offset then some (false, copy offset length out, s)
    else if finish + 5 ≤ room then some (false, copy offset length out, s)
    else none
  | _ => none

/-- Decodes sequences until the block is complete; `fuel` bounds their number. -/
def sequences? (room : Nat) : Nat → Bool → Array UInt8 → Source → Option (Array UInt8)
  | 0, _, _, _ => none
  | fuel + 1, wide, out, s =>
    match s.octets with
    | [] => none
    | t :: r => do
      match ← literals? wide room (t >>> 4).toNat out ⟨r, s.left - 1⟩ with
      | .done out => some out
      | .more wide sure out s =>
        let (wide, out, s) ← copy? wide sure room (t &&& 15).toNat out s
        sequences? room fuel wide out s

/-- The octets of a block for which there is `room`. -/
def Block.expand? (room : Nat) (block : Bytes) : Option Bytes :=
  if room = 0 then if block = [0] then some [] else none
  else
    let n := block.length
    (sequences? room n (64 ≤ room) #[] ⟨block, n⟩).map Array.toList

/-- Expands a block behind its size in four octets, least significant first. -/
def decompress (b : Bytes) : Except StreamError Bytes :=
  match Bytes.split? 4 b with
  | none => .error ⟨.invalidInput, "Source buffer must at least contain size prefix."⟩
  | some (size, block) =>
    let room := Bytes.ofLittleEndian size
    if 0x80000000 ≤ room then
      .error ⟨.invalidInput, "Parsed size prefix in buffer must not be negative."⟩
    else if maxInput < room then .error ⟨.invalidInput, "Given size parameter is too big"⟩
    else
      match Block.expand? room block with
      | some out => .ok out
      | none => .error ⟨.invalidInput, "Decompression failed. Input invalid or too long?"⟩

end TunnelRelay.Lz4
