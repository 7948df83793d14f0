import TunnelRelay.Bytes

/-!
# Reading a stream from its front

A scanner looks at the octets that have come so far and says one of three things: that it needs
more, that no continuation can be right, or what it has read and where that ends. `Stable` says
that only the first answer can change when more octets come. Every scanner built from the pieces
below is stable, so what a reader makes of a stream does not depend on how the stream was cut.
-/

namespace TunnelRelay

/-- What a scanner makes of the octets that have come so far. -/
inductive Scanned (ε α : Type) where
  /-- Nothing can be said before more octets come. -/
  | incomplete
  /-- No continuation can be right. -/
  | invalid (cause : ε)
  /-- The value that stands at the front, and what follows it. -/
  | complete (value : α) (rest : Bytes)
  deriving DecidableEq, Repr

/-- A reader of the front of a stream. -/
abbrev Scan (ε α : Type) := Bytes → Scanned ε α

namespace Scan

variable {ε α β : Type}

/-- The value that stands before any octet. -/
def give (a : α) : Scan ε α := fun b => .complete a b

/-- Nothing can stand here. -/
def fail (e : ε) : Scan ε α := fun _ => .invalid e

/-- One scanner, and then the scanner that its value asks for. -/
def andThen (s : Scan ε α) (f : α → Scan ε β) : Scan ε β := fun b =>
  match s b with
  | .incomplete => .incomplete
  | .invalid e => .invalid e
  | .complete a r => f a r

instance : Monad (Scan ε) where
  pure := give
  bind := andThen

/-- The next octet. -/
def octet : Scan ε UInt8
  | [] => .incomplete
  | x :: r => .complete x r

/-- The next octet, which stays where it is. -/
def peek : Scan ε UInt8
  | [] => .incomplete
  | x :: r => .complete x (x :: r)

/-- Nothing yet, before `n` octets are there. -/
def need (n : Nat) : Scan ε Unit := fun b => if n ≤ b.length then .complete () b else .incomplete

/-- The next `n` octets. -/
def take (n : Nat) : Scan ε Bytes := fun b =>
  match Bytes.split? n b with
  | none => .incomplete
  | some (x, r) => .complete x r

/-- The longest run of octets that satisfy `p`; an octet that does not must follow it. -/
def run (p : UInt8 → Bool) : Scan ε Bytes := fun b =>
  match b.dropWhile p with
  | [] => .incomplete
  | r => .complete (b.takeWhile p) r

/-- The next octet, which has to be `x`. -/
def expect (x : UInt8) (e : ε) : Scan ε Unit :=
  octet.andThen fun y => if y = x then give () else fail e

/-- The octets `xs`, one by one. -/
def expectAll (e : ε) : Bytes → Scan ε Unit
  | [] => give ()
  | x :: xs => (expect x e).andThen fun _ => expectAll e xs

/-! ## Stability -/

/-- More octets change nothing but a demand for more. -/
def Stable (s : Scan ε α) : Prop :=
  ∀ b t, match s b with
    | .incomplete => True
    | .invalid e => s (b ++ t) = .invalid e
    | .complete a r => s (b ++ t) = .complete a (r ++ t)

theorem stable_give (a : α) : Stable (give a : Scan ε α) := fun _ _ => rfl

theorem stable_fail (e : ε) : Stable (fail e : Scan ε α) := fun _ _ => rfl

theorem Stable.andThen {s : Scan ε α} {f : α → Scan ε β} (hs : Stable s)
    (hf : ∀ a, Stable (f a)) : Stable (s.andThen f) := by
  intro b t
  have h := hs b t
  unfold Scan.andThen
  cases hb : s b with
  | incomplete => trivial
  | invalid e => rw [hb] at h; simp [h]
  | complete a r =>
    rw [hb] at h
    have := hf a r t
    simp only [h]
    exact this

theorem Stable.ite {c : Prop} [Decidable c] {s s' : Scan ε α} (hs : Stable s) (hs' : Stable s') :
    Stable (if c then s else s') := by
  split
  · exact hs
  · exact hs'

theorem stable_peek : Stable (peek : Scan ε UInt8) := by
  intro b t
  cases b <;> simp [peek]

theorem stable_octet : Stable (octet : Scan ε UInt8) := by
  intro b t
  cases b <;> simp [octet]

theorem stable_need (n : Nat) : Stable (need n : Scan ε Unit) := by
  intro b t
  unfold need
  by_cases h : n ≤ b.length
  · have h' : n ≤ b.length + t.length := by omega
    simp [h, h']
  · simp [h]

theorem stable_take (n : Nat) : Stable (take n : Scan ε Bytes) := by
  intro b t
  unfold take Bytes.split?
  by_cases h : n ≤ b.length
  · have h' : n ≤ b.length + t.length := by omega
    simp [h, h', List.take_append_of_le_length h, List.drop_append_of_le_length h]
  · simp [h]

/-- A run that is known to end ends there whatever follows. -/
theorem dropWhile_append_of_cons {p : UInt8 → Bool} {b r : Bytes} {x : UInt8} (t : Bytes)
    (h : b.dropWhile p = x :: r) :
    (b ++ t).dropWhile p = x :: (r ++ t) ∧ (b ++ t).takeWhile p = b.takeWhile p := by
  induction b with
  | nil => simp at h
  | cons y b ih =>
    by_cases hy : p y
    · simp only [List.dropWhile_cons, hy, if_true] at h
      simpa [hy] using ih h
    · simp only [List.dropWhile_cons, hy] at h
      injection h with h₁ h₂
      subst h₁ h₂
      simp [hy]

theorem stable_run (p : UInt8 → Bool) : Stable (run p : Scan ε Bytes) := by
  intro b t
  unfold run
  cases h : b.dropWhile p with
  | nil => trivial
  | cons x r =>
    obtain ⟨h₁, h₂⟩ := dropWhile_append_of_cons t h
    simp [h₁, h₂]

theorem stable_expect (x : UInt8) (e : ε) : Stable (expect x e) :=
  stable_octet.andThen fun _ => (stable_give ()).ite (stable_fail e)

theorem stable_expectAll (e : ε) : ∀ xs : Bytes, Stable (expectAll e xs)
  | [] => stable_give ()
  | x :: xs => (stable_expect x e).andThen fun _ => stable_expectAll e xs

/-! ## Where a value ends

A scanner that has found the end of a value may have looked at the octet behind it, as the end of a
run is told by the octet after it. It has looked no further, and where the last thing that it reads
is an octet of its own, it has not looked behind the value at all.
-/

/-- Where one scanner stops, the next one begins. -/
theorem andThen_eq_complete {s : Scan ε α} {f : α → Scan ε β} {b rest : Bytes} {w : β}
    (h : s.andThen f b = .complete w rest) :
    ∃ a behind, s b = .complete a behind ∧ f a behind = .complete w rest := by
  unfold andThen at h
  split at h
  · cases h
  · cases h
  · rename_i a behind ha
    exact ⟨a, behind, ha, h⟩

/-- Where one scanner stops, the next one goes on. -/
theorem andThen_of_complete {s : Scan ε α} {f : α → Scan ε β} {b rest : Bytes} {v : α}
    (h : s b = .complete v rest) : s.andThen f b = f v rest := by
  simp only [andThen, h]

/-- What is found depends on the octets that are taken and on the one behind them. -/
def Near (s : Scan ε α) : Prop :=
  ∀ b a r, s b = .complete a r →
    ∃ front, b = front ++ r ∧ ∀ t : Bytes, t.head? = r.head? → s (front ++ t) = .complete a t

/-- What is found depends on the octets that are taken. -/
def Exact (s : Scan ε α) : Prop :=
  ∀ b a r, s b = .complete a r → ∃ front, b = front ++ r ∧ ∀ t, s (front ++ t) = .complete a t

/-- What is found depends on the octets that are taken, and there is at least one. -/
def Eats (s : Scan ε α) : Prop :=
  ∀ b a r, s b = .complete a r →
    ∃ front, front ≠ [] ∧ b = front ++ r ∧ ∀ t, s (front ++ t) = .complete a t

variable {s s' : Scan ε α} {f : α → Scan ε β}

theorem Exact.near (hs : Exact s) : Near s := by
  intro b a r h
  obtain ⟨front, hb, hfront⟩ := hs b a r h
  exact ⟨front, hb, fun t _ => hfront t⟩

theorem Eats.exact (hs : Eats s) : Exact s := by
  intro b a r h
  obtain ⟨front, -, hb⟩ := hs b a r h
  exact ⟨front, hb⟩

theorem Eats.near (hs : Eats s) : Near s := hs.exact.near

theorem exact_give (a : α) : Exact (give a : Scan ε α) := by
  rintro b _ r ⟨⟩
  exact ⟨[], rfl, fun _ => rfl⟩

theorem eats_fail (e : ε) : Eats (fail e : Scan ε α) := by
  intro b a r h
  cases h

theorem Exact.ite {c : Prop} [Decidable c] (hs : Exact s) (hs' : Exact s') :
    Exact (if c then s else s') := by
  split
  · exact hs
  · exact hs'

theorem Eats.ite {c : Prop} [Decidable c] (hs : Eats s) (hs' : Eats s') :
    Eats (if c then s else s') := by
  split
  · exact hs
  · exact hs'

theorem Eats.andThen (hs : Eats s) (hf : ∀ a, Exact (f a)) : Eats (s.andThen f) := by
  intro b c r h
  obtain ⟨a, mid, hmid, hc⟩ := andThen_eq_complete h
  obtain ⟨x, hne, rfl, hx⟩ := hs b a mid hmid
  obtain ⟨y, rfl, hy⟩ := hf a mid c r hc
  refine ⟨x ++ y, List.append_ne_nil_of_left_ne_nil hne y, (List.append_assoc x y r).symm, ?_⟩
  intro t
  rw [List.append_assoc, andThen_of_complete (hx (y ++ t)), hy t]

/-- The octet at which a scanner looks belongs to the next scanner, if that takes one. -/
theorem Near.eats (hs : Near s) (hf : ∀ a, Eats (f a)) : Eats (s.andThen f) := by
  intro b c r h
  obtain ⟨a, mid, hmid, hc⟩ := andThen_eq_complete h
  obtain ⟨x, rfl, hx⟩ := hs b a mid hmid
  obtain ⟨y, hne, rfl, hy⟩ := hf a mid c r hc
  refine ⟨x ++ y, List.append_ne_nil_of_right_ne_nil x hne, (List.append_assoc x y r).symm, ?_⟩
  intro t
  have hhead : (y ++ t).head? = (y ++ r).head? := by
    rw [List.head?_append, List.head?_append, Option.or_of_isSome, Option.or_of_isSome]
    · exact List.isSome_head?.mpr hne
    · exact List.isSome_head?.mpr hne
  rw [List.append_assoc, andThen_of_complete (hx (y ++ t) hhead), hy t]

theorem near_peek : Near (peek : Scan ε UInt8) := by
  intro b a r h
  cases b with
  | nil => cases h
  | cons x b =>
    cases h
    refine ⟨[], rfl, ?_⟩
    intro t ht
    cases t with
    | nil => cases ht
    | cons y t =>
      cases ht
      rfl

theorem eats_octet : Eats (octet : Scan ε UInt8) := by
  intro b a r h
  cases b with
  | nil => cases h
  | cons x b =>
    cases h
    exact ⟨[a], List.cons_ne_nil a [], rfl, fun _ => rfl⟩

/-- A run of octets is what stands before the first one that is not of its kind. -/
theorem run_append {p : UInt8 → Bool} {w t : Bytes} (hw : ∀ y ∈ w, p y)
    (ht : ∃ x r, t = x :: r ∧ p x = false) : (run p : Scan ε Bytes) (w ++ t) = .complete w t := by
  obtain ⟨x, r, rfl, hx⟩ := ht
  have hnot : ¬p x = true := by simp [hx]
  have hdrop : (w ++ x :: r).dropWhile p = x :: r := by
    rw [List.dropWhile_append_of_pos hw, List.dropWhile_cons_of_neg hnot]
  have htake : (w ++ x :: r).takeWhile p = w := by
    rw [List.takeWhile_append_of_pos hw, List.takeWhile_cons_of_neg hnot, List.append_nil]
  simp only [run, hdrop, htake]

/-- A run that has been found is all of its kind, and another octet stands behind it. -/
theorem run_eq_complete {p : UInt8 → Bool} {b w t : Bytes}
    (h : (run p : Scan ε Bytes) b = .complete w t) :
    b = w ++ t ∧ (∀ y ∈ w, p y) ∧ ∃ x r, t = x :: r ∧ p x = false := by
  unfold run at h
  split at h
  · cases h
  · rename_i hne
    cases h
    refine ⟨List.takeWhile_append_dropWhile.symm, List.all_eq_true.mp List.all_takeWhile, ?_⟩
    cases hdrop : b.dropWhile p with
    | nil => exact absurd hdrop hne
    | cons x r =>
      have hx := List.head_dropWhile_not p hne
      simp only [hdrop, List.head_cons] at hx
      exact ⟨x, r, rfl, hx⟩

theorem near_run (p : UInt8 → Bool) : Near (run p : Scan ε Bytes) := by
  intro b w r h
  obtain ⟨rfl, hw, x, r, rfl, hx⟩ := run_eq_complete h
  refine ⟨w, rfl, ?_⟩
  intro t ht
  cases t with
  | nil => cases ht
  | cons y t =>
    cases ht
    exact run_append hw ⟨x, t, rfl, hx⟩

theorem eats_expect (x : UInt8) (e : ε) : Eats (expect x e) :=
  eats_octet.andThen fun _ => (exact_give ()).ite (eats_fail e).exact

theorem exact_expectAll (e : ε) : ∀ xs : Bytes, Exact (expectAll e xs)
  | [] => exact_give ()
  | x :: xs => ((eats_expect x e).andThen fun _ => exact_expectAll e xs).exact

end Scan

end TunnelRelay
