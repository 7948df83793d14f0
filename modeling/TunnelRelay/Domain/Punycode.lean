/-!
# Labels outside ASCII

A label with characters outside ASCII is looked up as ASCII: its ASCII characters come first, and
after a hyphen come the others in the order of their code points, each as the distance from the one
before it. A distance is a number in base 36 whose digits have weights that follow the size of the
distances seen so far.
-/

namespace TunnelRelay.Domain.Punycode

/-- The digit of a number below 36. -/
def digit (n : Nat) : Char := Char.ofNat (if n < 26 then 97 + n else 22 + n)

/-- The value of a digit. -/
def digitValue? (c : Char) : Option Nat :=
  if 'a' ≤ c ∧ c ≤ 'z' then some (c.toNat - 97)
  else if 'A' ≤ c ∧ c ≤ 'Z' then some (c.toNat - 65)
  else if '0' ≤ c ∧ c ≤ '9' then some (c.toNat - 22)
  else none

/-- A digit below the threshold of its place is the last one. -/
def threshold (place bias : Nat) : Nat := min 26 (max 1 (place - bias))

theorem threshold_pos (place bias : Nat) : 1 ≤ threshold place bias := by
  unfold threshold; omega

/-- Divides by 35 until at most 455 are left, counting places. -/
def settle (delta place : Nat) : Nat × Nat :=
  if _h : 455 < delta then settle (delta / 35) (place + 36) else (delta, place)
termination_by delta
decreasing_by omega

/-- The bias after a distance, with so many characters now in place. -/
def adapt (delta count : Nat) (first : Bool) : Nat :=
  let delta := if first then delta / 700 else delta / 2
  let (delta, place) := settle (delta + delta / count) 0
  place + 36 * delta / (delta + 38)

/-! ## Writing -/

/-- The digits of a distance. -/
def digits (bias place n : Nat) : List Char :=
  let t := threshold place bias
  if _h : n < t then [digit n]
  else digit (t + (n - t) % (36 - t)) :: digits bias (place + 36) ((n - t) / (36 - t))
termination_by n
decreasing_by
  have := threshold_pos place bias
  have := Nat.div_le_self (n - threshold place bias) (36 - threshold place bias)
  omega

/-- Where the writer stands: the distance so far, the bias, and how many characters are in place. -/
structure Writer where
  delta : Nat
  bias : Nat
  placed : Nat
  out : List Char

/-- One character of the label while those of code point `n` are being placed. -/
def Writer.see (basic n : Nat) (w : Writer) (c : Char) : Writer :=
  if c.toNat < n then { w with delta := w.delta + 1 }
  else if c.toNat = n then
    ⟨0, adapt w.delta (w.placed + 1) (w.placed == basic), w.placed + 1,
      w.out ++ digits w.bias 36 w.delta⟩
  else w

/-- The distances of the code points from `next` on, smallest first. -/
def place (label : List Char) (basic : Nat) : List Nat → Nat → Writer → Writer
  | [], _, w => w
  | n :: ns, next, w =>
    let w := { w with delta := w.delta + (n - next) * (w.placed + 1) }
    let w := label.foldl (Writer.see basic n) w
    place label basic ns (n + 1) { w with delta := w.delta + 1 }

/-- The label in ASCII. -/
def encode (label : List Char) : List Char :=
  let basic := label.filter (·.toNat < 0x80)
  let others := ((label.map Char.toNat).filter (0x80 ≤ ·)).eraseDups.mergeSort
  let w := place label basic.length others 0x80 ⟨0, 72, basic.length, []⟩
  (if basic = [] then [] else basic ++ ['-']) ++ w.out

/-! ## Reading -/

/-- The distance at the front, added to `i`, and what follows it. -/
def distance? (bias place weight i : Nat) : List Char → Option (Nat × List Char)
  | [] => none
  | c :: cs =>
    match digitValue? c with
    | none => none
    | some d =>
      let t := threshold place bias
      if d < t then some (i + d * weight, cs)
      else distance? bias (place + 36) (weight * (36 - t)) (i + d * weight) cs

theorem length_of_distance? {bias place weight i n : Nat} {cs r : List Char}
    (h : distance? bias place weight i cs = some (n, r)) : r.length < cs.length := by
  induction cs generalizing place weight i with
  | nil => simp [distance?] at h
  | cons c cs ih =>
    unfold distance? at h
    split at h
    · cases h
    · simp only at h
      split at h
      · cases h
        simp
      · have := ih h
        simp only [List.length_cons]
        omega

/-- The code points that are characters. -/
def isCharacter (n : Nat) : Bool := n < 0xD800 || (0xDFFF < n && n < 0x110000)

/-- Puts the characters that the distances name into the label. -/
def fill (bias n i : Nat) (label cs : List Char) : Option (List Char) :=
  if _h : cs = [] then some label
  else
    match _hd : distance? bias 36 1 i cs with
    | none => none
    | some (j, r) =>
      let count := label.length + 1
      let n := n + j / count
      if isCharacter n then
        fill (adapt (j - i) count (i == 0 && label.all (·.toNat < 0x80))) n (j % count + 1)
          (label.insertIdx (j % count) (Char.ofNat n)) r
      else none
termination_by cs.length
decreasing_by exact length_of_distance? _hd

/-- The label that this ASCII stands for. -/
def decode? (cs : List Char) : Option (List Char) :=
  match cs.reverse.dropWhile (· != '-') with
  | [] => fill 72 0x80 0 [] cs
  | _ :: basic =>
    let basic := basic.reverse
    if basic.all (·.toNat < 0x80) then fill 72 0x80 0 basic (cs.drop (basic.length + 1)) else none

end TunnelRelay.Domain.Punycode
