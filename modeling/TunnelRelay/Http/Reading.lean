import TunnelRelay.Http.Stream

/-!
# Reading a client's stream in pieces

The octets of a client come in pieces. Each piece is put behind what is held, and then the stream is
read until it needs more octets. A stream that fails is given up, and nothing more is read from it.
What is found is kept with the octets in which it stood. `Course` is a reader of which nothing is
known but that it asks for what it has not got: it may also ask again when it has been refused.
-/

namespace TunnelRelay.Http

/-! ## One question -/

/-- Nothing is found in what is held: octets are missing, or something is wrong with them. -/
inductive Stops (s : Inbound) : Option Error → Prop
  /-- There are no octets, or they are part of a head. -/
  | waits : (s.buffer ≠ [] → s.bodyRemaining = 0 ∧ Http.head s.buffer = .incomplete ∧
      s.buffer.length ≤ maxHeadSize) → Stops s none
  /-- A head has not ended in time. -/
  | tooLarge : s.bodyRemaining = 0 → Http.head s.buffer = .incomplete →
    maxHeadSize < s.buffer.length → Stops s (some .headTooLarge)
  | malformed {e : HeadError} : s.buffer ≠ [] → s.bodyRemaining = 0 →
    Http.head s.buffer = .invalid e → Stops s (some (.malformed e))
  /-- A head is whole and does not say how long its body is. -/
  | refused {h : Head} {r : Bytes} {e : Error} : s.bodyRemaining = 0 →
    Http.head s.buffer = .complete h r → h.request = .error e → Stops s (some e)

/-- What a reader that holds `s` is told, and what it holds then. -/
inductive Answers (size : Nat) (s : Inbound) : Except Error (Option Frame) × Inbound → Prop
  | nothing : Stops s none → Answers size s (.ok none, s)
  | failure {e : Error} : Stops s (some e) → Answers size s (.error e, s)
  | piece {b : Bytes} {t : Inbound} : b ≠ [] → b.length ≤ max size 1 → s.buffer = b ++ t.buffer →
    s.bodyRemaining = b.length + t.bodyRemaining → Answers size s (.ok (some (.body b)), t)
  | head {front : Bytes} {q : Request} {t : Inbound} : front ≠ [] →
    Http.head front = .complete q.head [] → q.head.request = .ok q →
    s.buffer = front ++ t.buffer → s.bodyRemaining = 0 → t.bodyRemaining = q.contentLength →
    Answers size s (.ok (some (.head q)), t)

/-- A request is its head and what that says. -/
theorem Head.head_of_request {h : Head} {q : Request} (hq : h.request = .ok q) : q.head = h := by
  unfold Head.request at hq
  split at hq
  · cases hq
    rfl
  · cases hlength : h.declaredLength with
    | error e =>
      rw [hlength] at hq
      cases hq
    | ok n =>
      rw [hlength] at hq
      cases hq
      rfl

theorem nextHead_answers (size : Nat) {s : Inbound} (hbuffer : s.buffer ≠ [])
    (hbody : s.bodyRemaining = 0) : Answers size s (nextHead s) := by
  unfold nextHead
  cases hscan : Http.head s.buffer with
  | incomplete =>
    by_cases hlarge : maxHeadSize < s.buffer.length
    · simp only [if_pos hlarge]
      exact .failure (.tooLarge hbody hscan hlarge)
    · simp only [if_neg hlarge]
      exact .nothing (.waits fun _ => ⟨hbody, hscan, Nat.le_of_not_lt hlarge⟩)
  | invalid e => exact .failure (.malformed hbuffer hbody hscan)
  | complete h r =>
    cases hrequest : h.request with
    | error e =>
      simp only [hrequest]
      exact .failure (.refused hbody hscan hrequest)
    | ok q =>
      simp only [hrequest]
      obtain ⟨front, hne, hfront, hexact⟩ := eats_head s.buffer h r hscan
      obtain rfl := Head.head_of_request hrequest
      have halone := hexact []
      rw [List.append_nil] at halone
      exact .head hne halone hrequest hfront hbody rfl

theorem nextPiece_answers (size : Nat) {s : Inbound} (hbuffer : s.buffer ≠ [])
    (hbody : 0 < s.bodyRemaining) :
    Answers size s (.ok (some (nextPiece size s).1), (nextPiece size s).2) := by
  have hlength := List.length_pos_iff.mpr hbuffer
  unfold nextPiece
  generalize hn : min s.bodyRemaining (min (max size 1) s.buffer.length) = n
  have htake : (s.buffer.take n).length = n := by
    rw [List.length_take]
    omega
  refine .piece ?_ ?_ (List.take_append_drop n s.buffer).symm ?_
  · rw [← List.length_pos_iff]
    omega
  · omega
  · rw [htake]
    show s.bodyRemaining = n + (s.bodyRemaining - n)
    omega

/-- What a reader is told is the next piece of the body that is due, or else the next head. -/
theorem next_answers (size : Nat) (s : Inbound) : Answers size s (next size s) := by
  unfold next
  by_cases hbuffer : s.buffer = []
  · rw [if_pos hbuffer]
    exact .nothing (.waits fun hne => absurd hbuffer hne)
  · rw [if_neg hbuffer]
    by_cases hbody : 0 < s.bodyRemaining
    · rw [if_pos hbody]
      exact nextPiece_answers size hbuffer hbody
    · rw [if_neg hbody]
      exact nextHead_answers size hbuffer (by omega)

/-- What is found is taken off what is held. -/
theorem length_of_next {size : Nat} {s t : Inbound} {f : Frame}
    (h : next size s = (.ok (some f), t)) : t.buffer.length < s.buffer.length := by
  have hanswer := next_answers size s
  rw [h] at hanswer
  cases hanswer with
  | piece hne _ hbuffer _ =>
    have hpos := List.length_pos_iff.mpr hne
    rw [hbuffer, List.length_append]
    omega
  | head hne _ _ hbuffer _ _ =>
    have hpos := List.length_pos_iff.mpr hne
    rw [hbuffer, List.length_append]
    omega

/-! ## One piece after the other -/

/-- Something that has been found, and the octets in which it stood. -/
structure Found where
  frame : Frame
  octets : Bytes
  deriving DecidableEq, Repr

/-- The octets that have been taken off `s` when `t` is left. -/
def Inbound.taken (s t : Inbound) : Bytes := s.buffer.take (s.buffer.length - t.buffer.length)

/-- What has been made of a stream. -/
structure Reading where
  found : List Found
  /-- Why the stream has been given up. -/
  failure : Option Error
  /-- What is left. -/
  rest : Inbound
  deriving DecidableEq, Repr

/-- One reading after the other. -/
def Reading.followedBy (r more : Reading) : Reading :=
  ⟨r.found ++ more.found, more.failure, more.rest⟩

/-- What a reader makes of the octets that it holds, until it needs more of them. -/
def drain (size : Nat) (s : Inbound) : Reading :=
  match h : next size s with
  | (.ok none, t) => ⟨[], none, t⟩
  | (.error e, t) => ⟨[], some e, t⟩
  | (.ok (some f), t) =>
    have := length_of_next h
    Reading.followedBy ⟨[⟨f, s.taken t⟩], none, t⟩ (drain size t)
termination_by s.buffer.length

/-- What a reader makes of a stream that comes in pieces. -/
def feed (size : Nat) (s : Inbound) : List Bytes → Reading
  | [] => ⟨[], none, s⟩
  | piece :: pieces =>
    let r := drain size (s.push piece)
    match r.failure with
    | some _ => r
    | none => r.followedBy (feed size r.rest pieces)

/-! ## In any order -/

/-- What has come, what has been found in it and what is left, when octets come and the reader asks
as it likes, after failures too. -/
inductive Course (size : Nat) : Bytes → List Found → Inbound → Prop
  | start : Course size [] [] .empty
  | push {read : Bytes} {found : List Found} {s : Inbound} (b : Bytes) :
    Course size read found s → Course size (read ++ b) found (s.push b)
  | ask {read : Bytes} {found : List Found} {s t : Inbound} {f : Frame} :
    Course size read found s → next size s = (.ok (some f), t) →
    Course size read (found ++ [⟨f, s.taken t⟩]) t
  | askInVain {read : Bytes} {found : List Found} {s t : Inbound}
    {answer : Except Error (Option Frame)} : Course size read found s → next size s = (answer, t) →
    (∀ f, answer ≠ .ok (some f)) → Course size read found t

end TunnelRelay.Http
