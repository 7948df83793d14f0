import TunnelRelay.Scan

/-!
# Reading the front of a stream in pieces

A reader holds the octets that have come and have not been taken. Asked for a value, it scans them:
a value that is found is taken off, and otherwise everything is kept. While it is told nothing, the
reader waits for the next piece of the stream, puts it behind what it holds and asks again. What a
stable scanner finds in this way, and what is left then, depends on the stream and not on its
pieces.
-/

namespace TunnelRelay.Scan

variable {ε α : Type}

/-! ## One question -/

/-- What a reader that holds these octets is told, and what it holds then. -/
def next (s : Scan ε α) (held : Bytes) : Except ε (Option α) × Bytes :=
  match s held with
  | .incomplete => (.ok none, held)
  | .invalid e => (.error e, held)
  | .complete a rest => (.ok (some a), rest)

/-- No answer changes with what comes later, but for a demand for more, and only a value is taken
off. -/
structure Steady (s : Scan ε α) : Prop where
  found : ∀ {b rest : Bytes} {a : α}, s.next b = (.ok (some a), rest) →
    ∀ t, s.next (b ++ t) = (.ok (some a), rest ++ t)
  failed : ∀ {b rest : Bytes} {e : ε}, s.next b = (.error e, rest) →
    ∀ t, s.next (b ++ t) = (.error e, rest ++ t)
  kept : ∀ {b rest : Bytes} {answer : Except ε (Option α)}, s.next b = (answer, rest) →
    (∀ a, answer ≠ .ok (some a)) → rest = b

/-- What has been decided of a stream stays, and what comes later is left. -/
theorem Stable.next_append {s : Scan ε α} (hs : Stable s) {b : Bytes} (h : s b ≠ .incomplete)
    (t : Bytes) : s.next (b ++ t) = ((s.next b).1, (s.next b).2 ++ t) := by
  have hmore := hs b t
  unfold next
  cases hb : s b with
  | incomplete => exact absurd hb h
  | invalid e =>
    rw [hb] at hmore
    rw [hmore]
  | complete a rest =>
    rw [hb] at hmore
    rw [hmore]

/-- A reader that is told something needs no more octets. -/
theorem ne_incomplete_of_next {s : Scan ε α} {b rest : Bytes} {answer : Except ε (Option α)}
    (h : s.next b = (answer, rest)) (hanswer : answer ≠ .ok none) : s b ≠ .incomplete := by
  intro hb
  simp only [next, hb] at h
  cases h
  exact hanswer rfl

theorem Stable.steady {s : Scan ε α} (hs : Stable s) : Steady s where
  found h t := by
    rw [hs.next_append (ne_incomplete_of_next h (by simp)), h]
  failed h t := by
    rw [hs.next_append (ne_incomplete_of_next h (by simp)), h]
  kept {b rest answer} h hnot := by
    unfold next at h
    cases hb : s b with
    | complete a r =>
      rw [hb] at h
      cases h
      exact absurd rfl (hnot a)
    | _ =>
      rw [hb] at h
      cases h
      rfl

/-! ## Piece by piece -/

/-- What a reader has come to. -/
structure Reading (ε α : Type) where
  answer : Except ε (Option α)
  held : Bytes
  /-- The pieces that it has read. -/
  taken : List Bytes
  /-- The pieces that it has not read. -/
  unread : List Bytes

/-- All octets that have not been taken off, whether they have been read or not. -/
def Reading.left (r : Reading ε α) : Bytes := r.held ++ r.unread.flatten

/-- A reader that holds these octets asks until it is told something, or until there are no pieces
left. -/
def read (s : Scan ε α) (held : Bytes) : List Bytes → Reading ε α
  | [] => ⟨(s.next held).1, (s.next held).2, [], []⟩
  | piece :: pieces =>
    match s held with
    | .incomplete =>
      let r := read s (held ++ piece) pieces
      { r with taken := piece :: r.taken }
    | _ => ⟨(s.next held).1, (s.next held).2, [], piece :: pieces⟩

variable {s : Scan ε α} {held piece : Bytes}

theorem read_cons (h : s held = .incomplete) (pieces : List Bytes) :
    s.read held (piece :: pieces) =
      { s.read (held ++ piece) pieces with
        taken := piece :: (s.read (held ++ piece) pieces).taken } := by
  rw [read, h]

/-- A reader that is told something reads nothing more. -/
theorem read_of_ne_incomplete (h : s held ≠ .incomplete) (pieces : List Bytes) :
    s.read held pieces = ⟨(s.next held).1, (s.next held).2, [], pieces⟩ := by
  cases pieces with
  | nil => rfl
  | cons piece pieces =>
    unfold read
    split
    · rename_i hincomplete
      exact absurd hincomplete h
    · rfl

/-- Pieces are read in their order, and none is passed over. -/
theorem taken_append_unread (s : Scan ε α) (held : Bytes) (pieces : List Bytes) :
    (s.read held pieces).taken ++ (s.read held pieces).unread = pieces := by
  induction pieces generalizing held with
  | nil => rfl
  | cons piece pieces ih =>
    by_cases hincomplete : s held = .incomplete
    · rw [read_cons hincomplete]
      exact congrArg (piece :: ·) (ih (held ++ piece))
    · rw [read_of_ne_incomplete hincomplete]
      rfl

/-- **Pieces do not matter**: what is found in them and what is left is what there is in the whole
stream. -/
theorem Stable.read_spec (hs : Stable s) (held : Bytes) (pieces : List Bytes) :
    (s.read held pieces).answer = (s.next (held ++ pieces.flatten)).1 ∧
      (s.read held pieces).left = (s.next (held ++ pieces.flatten)).2 := by
  induction pieces generalizing held with
  | nil => simp [read, Reading.left]
  | cons piece pieces ih =>
    by_cases hincomplete : s held = .incomplete
    · rw [read_cons hincomplete, List.flatten_cons, ← List.append_assoc]
      exact ih (held ++ piece)
    · rw [read_of_ne_incomplete hincomplete, hs.next_append hincomplete]
      exact ⟨rfl, rfl⟩

end TunnelRelay.Scan
