import TunnelRelay.Cipher.Ecb

/-!
# AES with keys of 256 bits

A block is four columns of four octets. A round substitutes every octet, shifts the rows, mixes the
columns and adds a round key. The substitution is the multiplicative inverse in the field of 256
elements followed by an affine map; its table is computed from that rule, and the inverse table
from the table.
-/

namespace TunnelRelay.Aes

/-! ## The field of 256 elements -/

/-- The product with `x`, modulo x⁸ + x⁴ + x³ + x + 1. -/
def double (b : UInt8) : UInt8 := if b &&& 0x80 = 0 then b <<< 1 else (b <<< 1) ^^^ 0x1b

/-- The product of two elements, by doubling one and adding where the other has a bit. -/
def product (a b : UInt8) : UInt8 :=
  ((List.range 8).foldl (fun (sum, x) i =>
    (if (b >>> UInt8.ofNat i) &&& 1 = 1 then sum ^^^ x else sum, double x)) ((0 : UInt8), a)).1

/-- The inverse of an element, its power 254; the inverse of 0 is 0. -/
def inverse (a : UInt8) : UInt8 :=
  let square b := product b b
  let a2 := square a
  let a4 := square a2
  let a8 := square a4
  let a16 := square a8
  let a32 := square a16
  let a64 := square a32
  let a128 := square a64
  product a2 (product a4 (product a8 (product a16 (product a32 (product a64 a128)))))

/-- An octet turned to the left. -/
def turn (b : UInt8) (n : UInt8) : UInt8 := (b <<< n) ||| (b >>> (8 - n))

/-- The substitution: the inverse followed by an affine map. -/
def substitution (b : UInt8) : UInt8 :=
  let i := inverse b
  i ^^^ turn i 1 ^^^ turn i 2 ^^^ turn i 3 ^^^ turn i 4 ^^^ 0x63

/-- The substitution of each octet. -/
def substitutes : Array UInt8 := Array.ofFn fun i : Fin 256 => substitution (UInt8.ofNat i)

/-- The octet that each octet is the substitution of. -/
def preimages : Array UInt8 :=
  (List.range 256).foldl (fun t i => t.setIfInBounds (substitutes.getD i 0).toNat (UInt8.ofNat i))
    (Array.replicate 256 0)

/-- Substitutes an octet. -/
def sub (b : UInt8) : UInt8 := substitutes.getD b.toNat 0

/-- Undoes a substitution. -/
def unsub (b : UInt8) : UInt8 := preimages.getD b.toNat 0

/-! ## Columns and blocks -/

/-- Four octets, from the top row to the bottom row. -/
structure Column where
  b0 : UInt8
  b1 : UInt8
  b2 : UInt8
  b3 : UInt8
  deriving DecidableEq

namespace Column

/-- The sum of two columns. -/
def add (x y : Column) : Column := ⟨x.b0 ^^^ y.b0, x.b1 ^^^ y.b1, x.b2 ^^^ y.b2, x.b3 ^^^ y.b3⟩

/-- A function on octets, applied to each row. -/
def map (f : UInt8 → UInt8) (x : Column) : Column := ⟨f x.b0, f x.b1, f x.b2, f x.b3⟩

/-- The column moved up by one row. -/
def rotate (x : Column) : Column := ⟨x.b1, x.b2, x.b3, x.b0⟩

/-- The product with the circulant matrix whose first row is 2 3 1 1. -/
def mix (x : Column) : Column :=
  let row (a b c d : UInt8) := double a ^^^ (double b ^^^ b) ^^^ c ^^^ d
  ⟨row x.b0 x.b1 x.b2 x.b3, row x.b1 x.b2 x.b3 x.b0, row x.b2 x.b3 x.b0 x.b1,
    row x.b3 x.b0 x.b1 x.b2⟩

/-- The product with the circulant matrix whose first row is 14 11 13 9. -/
def unmix (x : Column) : Column :=
  let row (a b c d : UInt8) :=
    let a2 := double a
    let a4 := double a2
    let b2 := double b
    let c4 := double (double c)
    (a2 ^^^ a4 ^^^ double a4) ^^^ (b ^^^ b2 ^^^ double (double b2)) ^^^ (c ^^^ c4 ^^^ double c4)
      ^^^ (d ^^^ double (double (double d)))
  ⟨row x.b0 x.b1 x.b2 x.b3, row x.b1 x.b2 x.b3 x.b0, row x.b2 x.b3 x.b0 x.b1,
    row x.b3 x.b0 x.b1 x.b2⟩

end Column

/-- Four columns: a block, or the key of one round. -/
structure Block where
  c0 : Column
  c1 : Column
  c2 : Column
  c3 : Column
  deriving DecidableEq

namespace Block

/-- A function on columns, applied to each column. -/
def map (f : Column → Column) (s : Block) : Block := ⟨f s.c0, f s.c1, f s.c2, f s.c3⟩

/-- The sum of two blocks. -/
def add (s t : Block) : Block := ⟨s.c0.add t.c0, s.c1.add t.c1, s.c2.add t.c2, s.c3.add t.c3⟩

/-- Row `r` moved left by `r` columns. -/
def shiftRows (s : Block) : Block :=
  ⟨⟨s.c0.b0, s.c1.b1, s.c2.b2, s.c3.b3⟩, ⟨s.c1.b0, s.c2.b1, s.c3.b2, s.c0.b3⟩,
    ⟨s.c2.b0, s.c3.b1, s.c0.b2, s.c1.b3⟩, ⟨s.c3.b0, s.c0.b1, s.c1.b2, s.c2.b3⟩⟩

/-- Row `r` moved right by `r` columns. -/
def unshiftRows (s : Block) : Block :=
  ⟨⟨s.c0.b0, s.c3.b1, s.c2.b2, s.c1.b3⟩, ⟨s.c1.b0, s.c0.b1, s.c3.b2, s.c2.b3⟩,
    ⟨s.c2.b0, s.c1.b1, s.c0.b2, s.c3.b3⟩, ⟨s.c3.b0, s.c2.b1, s.c1.b2, s.c0.b3⟩⟩

/-- The block of sixteen octets, column after column; other strings read as zeros. -/
def ofBytes : Bytes → Block
  | [a0, a1, a2, a3, b0, b1, b2, b3, c0, c1, c2, c3, d0, d1, d2, d3] =>
    ⟨⟨a0, a1, a2, a3⟩, ⟨b0, b1, b2, b3⟩, ⟨c0, c1, c2, c3⟩, ⟨d0, d1, d2, d3⟩⟩
  | _ => ⟨⟨0, 0, 0, 0⟩, ⟨0, 0, 0, 0⟩, ⟨0, 0, 0, 0⟩, ⟨0, 0, 0, 0⟩⟩

/-- The octets of a block, column after column. -/
def toBytes (s : Block) : Bytes :=
  [s.c0.b0, s.c0.b1, s.c0.b2, s.c0.b3, s.c1.b0, s.c1.b1, s.c1.b2, s.c1.b3,
   s.c2.b0, s.c2.b1, s.c2.b2, s.c2.b3, s.c3.b0, s.c3.b1, s.c3.b2, s.c3.b3]

theorem unshiftRows_shiftRows (s : Block) : s.shiftRows.unshiftRows = s := rfl

theorem ofBytes_toBytes (s : Block) : ofBytes s.toBytes = s := rfl

end Block

/-! ## Round keys -/

/-- The keys of all rounds: before the first, of the thirteen mixing rounds, and of the last. -/
structure Schedule where
  first : Block
  middle : List Block
  last : Block

/-- A round key from the one two rounds before and a column that depends on the one before. -/
def nextKey (k : Block) (t : Column) : Block :=
  let c0 := k.c0.add t
  let c1 := k.c1.add c0
  let c2 := k.c2.add c1
  ⟨c0, c1, c2, k.c3.add c2⟩

/-- The round keys after the two halves `a` and `b`, two for each round constant. -/
def laterKeys (a b : Block) : List UInt8 → List Block
  | [] => []
  | r :: rs =>
    let a := nextKey a ((b.c3.rotate.map sub).add ⟨r, 0, 0, 0⟩)
    let b := nextKey b (a.c3.map sub)
    a :: b :: laterKeys a b rs

/-- The round keys of a key of 32 octets. -/
def schedule (key : Bytes) : Schedule :=
  let a := Block.ofBytes (key.take 16)
  let b := Block.ofBytes (key.drop 16)
  let later := laterKeys a b [0x01, 0x02, 0x04, 0x08, 0x10, 0x20, 0x40]
  ⟨a, b :: later.take 12, (later.drop 12).headD a⟩

/-! ## The cipher -/

/-- Enciphers a block. -/
def Schedule.encrypt (k : Schedule) (s : Block) : Block :=
  let s := k.middle.foldl (fun s key =>
    (((s.map (·.map sub)).shiftRows.map Column.mix).add key)) (s.add k.first)
  ((s.map (·.map sub)).shiftRows).add k.last

/-- Deciphers a block. -/
def Schedule.decrypt (k : Schedule) (s : Block) : Block :=
  let s := k.middle.reverse.foldl (fun s key =>
    ((s.unshiftRows.map (·.map unsub)).add key).map Column.unmix) (s.add k.last)
  (s.unshiftRows.map (·.map unsub)).add k.first

/-- AES with keys of 32 octets. -/
def cipher : BlockCipher where
  blockSize := 16
  keyed? key :=
    if key.length = 32 then
      let k := schedule key
      some ⟨fun b => (k.encrypt (Block.ofBytes b)).toBytes,
        fun b => (k.decrypt (Block.ofBytes b)).toBytes⟩
    else none

end TunnelRelay.Aes
