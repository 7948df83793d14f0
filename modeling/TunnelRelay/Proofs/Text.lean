import TunnelRelay.Text.Blank
import TunnelRelay.Text.Decimal
import TunnelRelay.Text.Split
import Mathlib.Data.List.DropRight
import Mathlib.Tactic.Common

/-!
# Reading what has been written

A number is written in decimal digits and reads back from them. A separator that stands in front of
a part without separators is the last one. Of a text that ends in such a part the blanks at its end
are none, so only its front can be stripped.
-/

namespace TunnelRelay.Text

/-! ## Numbers -/

theorem hexDigit?_of_isDigit {c : Char} (h : c.isDigit = true) :
    hexDigit? c = some (c.toNat - 48) ∧ c.toNat - 48 < 10 := by
  rw [Char.isDigit, Bool.and_eq_true, decide_eq_true_iff, decide_eq_true_iff] at h
  obtain ⟨hlow, hhigh⟩ := h
  have hle : c.toNat ≤ 57 := hhigh
  exact ⟨if_pos ⟨hlow, hhigh⟩, by omega⟩

/-- Decimal digits spell the number that they are the digits of. -/
theorem numeral?_of_digits {cs : List Char} (h : ∀ c ∈ cs, c.isDigit = true) (n : Nat) :
    numeral? 10 n cs = some (Nat.ofDigitChars 10 cs n) := by
  induction cs generalizing n with
  | nil => rfl
  | cons c cs ih =>
    obtain ⟨hvalue, hlt⟩ := hexDigit?_of_isDigit (h c List.mem_cons_self)
    have hzero : '0'.toNat = 48 := rfl
    rw [numeral?, hvalue, Nat.ofDigitChars_cons, hzero, Nat.mul_comm 10 n]
    simp only [hlt, if_true]
    exact ih (fun c hc => h c (List.mem_cons_of_mem _ hc)) _

theorem isDigit_of_mem_digits {n : Nat} {c : Char} (h : c ∈ Nat.toDigits 10 n) :
    c.isDigit = true :=
  Nat.isDigit_of_mem_toDigits (by decide) (by decide) h

/-- **A number reads back from its digits.** -/
theorem unsigned?_digits {limit n : Nat} (h : n ≤ limit) :
    unsigned? limit (Nat.toDigits 10 n) = some n := by
  have hread : numeral? 10 0 (Nat.toDigits 10 n) = some n := by
    rw [numeral?_of_digits fun _ => isDigit_of_mem_digits, Nat.ofDigitChars_ten_toDigits]
  unfold unsigned?
  extract_lets digits
  have hdigits : digits = Nat.toDigits 10 n := by
    simp only [digits]
    split
    · -- a plus sign is no digit
      rename_i hplus
      cases isDigit_of_mem_digits (n := n) (hplus ▸ List.mem_cons_self)
    · rfl
  simp only [hdigits, Nat.toDigits_ne_nil, if_false, hread]
  exact Option.filter_some_pos (decide_eq_true h)

/-! ## Separators -/

section Cut

variable {α : Type} [DecidableEq α] {sep : α}

theorem cut?_append {a : List α} (h : sep ∉ a) (b : List α) :
    cut? sep (a ++ sep :: b) = some (a, b) := by
  induction a with
  | nil => simp [cut?]
  | cons c a ih =>
    rw [List.mem_cons, not_or] at h
    simp [cut?, Ne.symm h.1, ih h.2]

/-- A separator in front of what has none is the last one. -/
theorem cutLast?_append (a : List α) {b : List α} (h : sep ∉ b) :
    cutLast? sep (a ++ sep :: b) = some (a, b) := by
  have hreverse : (a ++ sep :: b).reverse = b.reverse ++ sep :: a.reverse := by simp
  rw [cutLast?, hreverse, cut?_append (by simpa using h)]
  simp

end Cut

/-! ## Ends -/

theorem dropEndWhile_eq_rdropWhile (p : Char → Bool) (cs : List Char) :
    dropEndWhile p cs = cs.rdropWhile p :=
  rfl

/-- A character that stays keeps everything behind it. -/
theorem dropWhile_append_cons {p : Char → Bool} {c : Char} (h : p c = false) (a b : List Char) :
    (a ++ c :: b).dropWhile p = a.dropWhile p ++ c :: b := by
  rw [List.dropWhile_append]
  split
  · rename_i hnil
    rw [List.isEmpty_iff.mp hnil, List.nil_append, List.dropWhile_cons_of_neg (by simp [h])]
  · rfl

/-- The last character stays, so nothing is dropped before it. -/
theorem dropEndWhile_append_of_last {p : Char → Bool} {b : List Char} (hne : b ≠ [])
    (h : p (b.getLast hne) = false) (a : List Char) : dropEndWhile p (a ++ b) = a ++ b := by
  rw [dropEndWhile_eq_rdropWhile, List.rdropWhile_eq_self_iff]
  intro hl
  rw [List.getLast_append_of_ne_nil hl hne, h]
  exact Bool.false_ne_true

theorem isBlank_of_isDigit {c : Char} (h : c.isDigit = true) : isBlank c = false := by
  rw [Char.isDigit, Bool.and_eq_true, decide_eq_true_iff, decide_eq_true_iff] at h
  have hlow : 48 ≤ c.toNat := h.1
  have hhigh : c.toNat ≤ 57 := h.2
  have hblank : ¬(isBlank c = true) := by
    simp only [isBlank, Bool.or_eq_true, Bool.and_eq_true, decide_eq_true_iff, beq_iff_eq]
    omega
  exact Bool.eq_false_iff.mpr hblank

end TunnelRelay.Text
