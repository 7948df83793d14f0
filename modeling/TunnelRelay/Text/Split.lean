/-!
# Fields of a text

A separator cuts a text into fields. There is always one field more than there are separators, so
the empty text has one empty field.
-/

namespace TunnelRelay.Text

variable {α : Type} [DecidableEq α]

/-- The fields between the separators. -/
def fields (sep : α) : List α → List (List α)
  | [] => [[]]
  | c :: cs =>
    if c = sep then [] :: fields sep cs
    else
      match fields sep cs with
      | [] => [[c]]
      | f :: fs => (c :: f) :: fs

theorem fields_ne_nil (sep : α) (cs : List α) : fields sep cs ≠ [] := by
  cases cs with
  | nil => simp [fields]
  | cons c cs =>
    unfold fields
    split
    · simp
    · split <;> simp

/-- What stands before and after the first separator, when there is one. -/
def cut? (sep : α) : List α → Option (List α × List α)
  | [] => none
  | c :: cs =>
    if c = sep then some ([], cs) else (cut? sep cs).map fun (a, b) => (c :: a, b)

/-- What stands before and after the last separator, when there is one. -/
def cutLast? (sep : α) (cs : List α) : Option (List α × List α) :=
  (cut? sep cs.reverse).map fun (a, b) => (b.reverse, a.reverse)

theorem append_of_cut? {sep : α} {cs a b : List α} (h : cut? sep cs = some (a, b)) :
    cs = a ++ sep :: b ∧ sep ∉ a := by
  induction cs generalizing a with
  | nil => simp [cut?] at h
  | cons c cs ih =>
    unfold cut? at h
    split at h
    · cases h
      simp_all
    · rename_i hc
      cases hr : cut? sep cs with
      | none => simp [hr] at h
      | some r =>
        obtain ⟨x, y⟩ := r
        simp only [hr, Option.map_some, Option.some.injEq, Prod.mk.injEq] at h
        obtain ⟨rfl, rfl⟩ := h
        obtain ⟨h₁, h₂⟩ := ih hr
        exact ⟨by simp [h₁], by simp [h₂, Ne.symm hc]⟩

/-- Whether `needle` occurs in a text. -/
def occurs (needle : List α) : List α → Bool
  | [] => needle.isEmpty
  | c :: cs => needle.isPrefixOf (c :: cs) || occurs needle cs

end TunnelRelay.Text
