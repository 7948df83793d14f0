import TunnelRelay.Bytes

/-!
# Keys as text

A key file is a block between a BEGIN and an END line that name what the block holds. In between
stands Base64 in lines of exactly 64 characters, the last one possibly shorter. Text before the
block is skipped if the BEGIN line starts a line of its own; after the END line at most one line
end may follow.
-/

namespace TunnelRelay.Pem

/-! ## Base64 -/

/-- The six bits of a Base64 character. -/
def sextet? (c : UInt8) : Option Nat :=
  if 65 ≤ c ∧ c ≤ 90 then some (c.toNat - 65)
  else if 97 ≤ c ∧ c ≤ 122 then some (c.toNat - 71)
  else if 48 ≤ c ∧ c ≤ 57 then some (c.toNat + 4)
  else if c = 43 then some 62
  else if c = 47 then some 63
  else none

/-- The octets of a group of two, three or four characters; bits that no octet takes are zero. -/
def group? (cs : Bytes) : Option Bytes := do
  let n := (← cs.mapM sextet?).foldl (fun n x => 64 * n + x) 0
  match cs.length with
  | 2 => if n % 16 = 0 then some [UInt8.ofNat (n / 16)] else none
  | 3 => if n % 4 = 0 then some [UInt8.ofNat (n / 1024), UInt8.ofNat (n / 4)] else none
  | 4 => some [UInt8.ofNat (n / 65536), UInt8.ofNat (n / 256), UInt8.ofNat n]
  | _ => none

/-- Decodes Base64 whose last group is filled up to four characters with `=`. -/
def base64? : Bytes → Option Bytes
  | [] => some []
  | [a, b, 61, 61] => group? [a, b]
  | [a, b, c, 61] => group? [a, b, c]
  | a :: b :: c :: d :: r => do some ((← group? [a, b, c, d]) ++ (← base64? r))
  | _ => none

/-! ## Lines -/

/-- Removes a line end from the front. -/
def dropLineEnd? : Bytes → Option Bytes
  | 13 :: 10 :: r => some r
  | 13 :: r => some r
  | 10 :: r => some r
  | _ => none

/-- Removes a line end from the back. -/
def chopLineEnd? (b : Bytes) : Option Bytes :=
  match b.reverse with
  | 10 :: 13 :: r => some r.reverse
  | 10 :: r => some r.reverse
  | 13 :: r => some r.reverse
  | _ => none

/-- Removes a string from the front. -/
def dropFront? (s b : Bytes) : Option Bytes :=
  if s.isPrefixOf b then some (b.drop s.length) else none

/-- Removes a string from the back. -/
def chopBack? (s b : Bytes) : Option Bytes :=
  if s.isSuffixOf b then some (b.take (b.length - s.length)) else none

/-- Joins lines of `width` characters; only the last line may be shorter. -/
def unwrap? (width : Nat) (b : Bytes) : Option Bytes :=
  if _h : b.length ≤ width then some b
  else
    match _e : dropLineEnd? (b.drop width) with
    | none => none
    | some r => (unwrap? width r).map (b.take width ++ ·)
termination_by b.length
decreasing_by
  have hr : r.length < (b.drop width).length := by
    revert _e
    generalize b.drop width = t
    intro e
    unfold dropLineEnd? at e
    split at e <;> cases e <;> grind
  simp only [List.length_drop] at hr
  omega

/-! ## Blocks -/

/-- Skips text before the first BEGIN line. -/
def skipPreamble : Bytes → Bytes
  | [] => []
  | 0 :: _ => []
  | c :: r =>
    if c = 10 ∧ (Bytes.ofText "-----BEGIN ").isPrefixOf r then r else skipPreamble r

/-- The octets in the block that the label names. -/
def decode? (label : String) (text : String) : Option Bytes := do
  let b := Bytes.ofText text
  let opening := Bytes.ofText "-----BEGIN "
  let b := if opening.isPrefixOf b then b else skipPreamble b
  let b ← dropFront? (Bytes.ofText s!"-----BEGIN {label}-----") b
  let b ← dropLineEnd? b
  let b := (chopLineEnd? b).getD b
  let b ← chopBack? (Bytes.ofText s!"-----END {label}-----") b
  let b ← chopLineEnd? b
  base64? (← unwrap? 64 b)

end TunnelRelay.Pem
