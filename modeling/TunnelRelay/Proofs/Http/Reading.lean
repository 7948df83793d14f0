import TunnelRelay.Http.Reading
import TunnelRelay.Proofs.Scan
import Mathlib.Tactic.Common

/-!
# What a reading leaves of a stream

Whatever comes, and whatever is made of it, no octet is lost: those in which something was found and
those that are left are all that has come, in their order. A reader that finds nothing leaves all as
it was, and a reading stops only where the next question is answered by nothing or by a failure.
-/

namespace TunnelRelay.Http

/-- The octets in which all these were found. -/
def octets (found : List Found) : Bytes := found.flatMap (·.octets)

@[simp] theorem octets_nil : octets [] = [] := rfl

@[simp] theorem octets_cons (x : Found) (found : List Found) :
    octets (x :: found) = x.octets ++ octets found := rfl

@[simp] theorem octets_append (found more : List Found) :
    octets (found ++ more) = octets found ++ octets more := List.flatMap_append

variable {size : Nat} {s t : Inbound} {f : Frame} {b read : Bytes} {found : List Found}
  {answer : Except Error (Option Frame)}

/-- The octets that have been taken off stood in front of what is left. -/
theorem Inbound.taken_eq (h : s.buffer = b ++ t.buffer) : s.taken t = b := by
  have hlength : s.buffer.length - t.buffer.length = b.length := by
    rw [h, List.length_append]
    omega
  rw [Inbound.taken, hlength, h, List.take_left]

/-! ## One question -/

/-- **Where nothing is found, nothing is taken and nothing changes.** -/
theorem eq_of_next (h : next size s = (answer, t)) (hnot : ∀ f, answer ≠ .ok (some f)) :
    t = s := by
  have hanswer := next_answers size s
  rw [h] at hanswer
  cases hanswer with
  | piece => exact absurd rfl (hnot _)
  | head => exact absurd rfl (hnot _)
  | nothing => rfl
  | failure => rfl

/-- What is found stands in front. -/
theorem taken_append_of_next (h : next size s = (.ok (some f), t)) :
    s.taken t ++ t.buffer = s.buffer := by
  have hanswer := next_answers size s
  rw [h] at hanswer
  cases hanswer with
  | piece _ _ hbuffer _ => rw [Inbound.taken_eq hbuffer, hbuffer]
  | head _ _ _ hbuffer _ _ => rw [Inbound.taken_eq hbuffer, hbuffer]

/-- The octets in which something was found are all that it was found in. -/
def Found.IsWhole (x : Found) : Prop :=
  match x.frame with
  | .head q => Http.head x.octets = .complete q.head [] ∧ q.head.request = .ok q
  | .body b => x.octets = b

theorem isWhole_of_next (h : next size s = (.ok (some f), t)) : Found.IsWhole ⟨f, s.taken t⟩ := by
  have hanswer := next_answers size s
  rw [h] at hanswer
  cases hanswer with
  | piece _ _ hbuffer _ => exact Inbound.taken_eq hbuffer
  | head _ hhead hrequest hbuffer _ _ =>
    show Http.head (s.taken t) = _ ∧ _
    rw [Inbound.taken_eq hbuffer]
    exact ⟨hhead, hrequest⟩

/-! ## Heads that are due

What a reader holds, as far as it goes, are the octets of a head that it can take.
-/

variable {front front' : Bytes} {q q' : Request} {failure : Option Error}

/-- A reader without octets waits. -/
theorem Stops.eq_none (hs : Stops s failure) (hbuffer : s.buffer = []) : failure = none := by
  cases hs with
  | waits => rfl
  | tooLarge _ _ hlarge =>
    rw [hbuffer] at hlarge
    exact absurd hlarge (Nat.not_lt_zero _)
  | malformed hne => exact absurd hbuffer hne
  | refused _ hcomplete =>
    rw [hbuffer] at hcomplete
    cases hcomplete

/-- No reader stops within a body of which it holds something. -/
theorem Stops.bodyRemaining (hs : Stops s failure) (hbuffer : s.buffer ≠ []) :
    s.bodyRemaining = 0 := by
  cases hs with
  | waits hpart => exact (hpart hbuffer).1
  | tooLarge hbody => exact hbody
  | malformed _ hbody => exact hbody
  | refused hbody => exact hbody

/-- A reader stops before a head that it can take only within that head, and fails if it holds too
much of it. -/
theorem Stops.within_head (hs : Stops s failure) (hbuffer : s.buffer ≠ [])
    (hhead : Http.head front = .complete q.head []) (hrequest : q.head.request = .ok q)
    (hagrees : s.buffer <+: front ∨ front <+: s.buffer) :
    s.buffer <+: front ∧ s.buffer ≠ front ∧
      (failure = none ∨ failure = some .headTooLarge ∧ maxHeadSize < s.buffer.length) := by
  cases hs with
  | waits hpart =>
    obtain ⟨hpart, hne⟩ := stable_head.prefix_of_incomplete hhead hagrees (hpart hbuffer).2.1
    exact ⟨hpart, hne, Or.inl rfl⟩
  | tooLarge _ hincomplete hlarge =>
    obtain ⟨hpart, hne⟩ := stable_head.prefix_of_incomplete hhead hagrees hincomplete
    exact ⟨hpart, hne, Or.inr ⟨rfl, hlarge⟩⟩
  | malformed _ _ hinvalid => exact absurd hinvalid (stable_head.ne_invalid hhead hagrees _)
  | refused _ hcomplete hrefused =>
    obtain ⟨rfl, -⟩ := stable_head.eq_append_of_complete hhead hagrees hcomplete
    rw [hrequest] at hrefused
    cases hrefused

/-- The head that is found is the one that is due. -/
theorem eq_of_heads (hhead : Http.head front = .complete q.head [])
    (hrequest : q.head.request = .ok q) (hagrees : front' <+: front ∨ front <+: front')
    (hhead' : Http.head front' = .complete q'.head []) (hrequest' : q'.head.request = .ok q') :
    q' = q ∧ front' = front := by
  obtain ⟨hsame, hfront⟩ := stable_head.eq_append_of_complete hhead hagrees hhead'
  rw [hsame, hrequest] at hrequest'
  rw [List.append_nil] at hfront
  exact ⟨(Except.ok.inj hrequest').symm, hfront⟩

/-! ## What a reader makes of the octets that it holds -/

theorem drain_of_none (h : next size s = (.ok none, t)) : drain size s = ⟨[], none, t⟩ := by
  rw [drain]
  split <;> simp_all

theorem drain_of_error {e : Error} (h : next size s = (.error e, t)) :
    drain size s = ⟨[], some e, t⟩ := by
  rw [drain]
  split <;> simp_all

theorem drain_of_some (h : next size s = (.ok (some f), t)) :
    drain size s = Reading.followedBy ⟨[⟨f, s.taken t⟩], none, t⟩ (drain size t) := by
  rw [drain]
  split <;> simp_all

/-- What holds of a reader that finds nothing, and of one that finds something if it holds of it
afterwards, holds of every reader. -/
theorem drain_induction {motive : Inbound → Reading → Prop}
    (stops : ∀ s failure, Stops s failure → motive s ⟨[], failure, s⟩)
    (finds : ∀ s f t r, next size s = (.ok (some f), t) → motive t r →
      motive s (Reading.followedBy ⟨[⟨f, s.taken t⟩], none, t⟩ r)) (s : Inbound) :
    motive s (drain size s) := by
  -- what is held becomes less with everything that is found
  induction hn : s.buffer.length using Nat.strongRecOn generalizing s with
  | ind n ih =>
    have hanswer := next_answers size s
    cases hnext : next size s with
    | mk answer t =>
      rw [hnext] at hanswer
      cases answer with
      | error e =>
        cases hanswer with
        | failure hstops =>
          rw [drain_of_error hnext]
          exact stops s _ hstops
      | ok found =>
        cases found with
        | none =>
          cases hanswer with
          | nothing hstops =>
            rw [drain_of_none hnext]
            exact stops s _ hstops
        | some f =>
          rw [drain_of_some hnext]
          exact finds s f t _ hnext (ih _ (hn ▸ length_of_next hnext) t rfl)

/-- A reader stops where it finds nothing, and no octet is lost. -/
theorem drain_spec (size : Nat) (s : Inbound) :
    octets (drain size s).found ++ (drain size s).rest.buffer = s.buffer ∧
      Stops (drain size s).rest (drain size s).failure := by
  refine drain_induction (motive := fun s r => octets r.found ++ r.rest.buffer = s.buffer ∧
    Stops r.rest r.failure) ?_ ?_ s
  · intro s failure hstops
    exact ⟨rfl, hstops⟩
  · rintro s f t r hnext ⟨hoctets, hstops⟩
    refine ⟨?_, hstops⟩
    rw [Reading.followedBy, octets_append, octets_cons, octets_nil, List.append_nil,
      List.append_assoc, hoctets]
    exact taken_append_of_next hnext

theorem isWhole_of_drain : ∀ x ∈ (drain size s).found, x.IsWhole := by
  refine drain_induction (motive := fun _ r => ∀ x ∈ r.found, x.IsWhole) ?_ ?_ s
  · intro s failure _ x hx
    cases hx
  · intro s f t r hnext ih x hx
    rcases List.mem_cons.mp hx with rfl | hx
    · exact isWhole_of_next hnext
    · exact ih x hx

/-- A reader that holds nothing waits. -/
theorem drain_nil (size n : Nat) : drain size ⟨[], n⟩ = ⟨[], none, ⟨[], n⟩⟩ := by
  apply drain_of_none
  rw [next, if_pos rfl]

theorem next_of_ne_nil (size : Nat) (hne : b ≠ []) : next size ⟨b, 0⟩ = nextHead ⟨b, 0⟩ := by
  rw [next, if_neg hne, if_neg (Nat.lt_irrefl 0)]

/-! ## What a reader makes of a stream in pieces -/

variable {pieces : List Bytes}

theorem feed_cons_of_failure {e : Error} (h : (drain size (s.push b)).failure = some e) :
    feed size s (b :: pieces) = drain size (s.push b) := by
  simp only [feed, h]

theorem feed_cons (h : (drain size (s.push b)).failure = none) :
    feed size s (b :: pieces) =
      (drain size (s.push b)).followedBy (feed size (drain size (s.push b)).rest pieces) := by
  simp only [feed, h]

/-- What a reader makes of a head and of nothing else. -/
theorem feed_of_head {h : Head} {q : Request} (hhead : Http.head b = .complete h [])
    (hrequest : h.request = .ok q) :
    feed size .empty [b] = ⟨[⟨.head q, b⟩], none, ⟨[], q.contentLength⟩⟩ := by
  have hne : b ≠ [] := by
    rintro rfl
    cases hhead
  have hnext : next size ⟨b, 0⟩ = (.ok (some (.head q)), ⟨[], q.contentLength⟩) := by
    rw [next_of_ne_nil size hne, nextHead]
    simp only [hhead, hrequest]
  have hdrain : drain size (Inbound.push .empty b) =
      ⟨[⟨.head q, b⟩], none, ⟨[], q.contentLength⟩⟩ := by
    rw [Inbound.push, Inbound.empty, List.nil_append, drain_of_some hnext, drain_nil,
      Inbound.taken_eq (List.append_nil b).symm]
    rfl
  rw [feed_cons (congrArg Reading.failure hdrain), hdrain]
  rfl

/-- What a reader makes of a piece with which it can do nothing. -/
theorem feed_of_error {e : Error} (hne : b ≠ []) (h : nextHead ⟨b, 0⟩ = (.error e, ⟨b, 0⟩)) :
    feed size .empty (b :: pieces) = ⟨[], some e, ⟨b, 0⟩⟩ := by
  have hnext : next size (Inbound.push .empty b) = (.error e, ⟨b, 0⟩) :=
    (next_of_ne_nil size hne).trans h
  rw [feed_cons_of_failure (congrArg Reading.failure (drain_of_error hnext)), drain_of_error hnext]

/-- A reader that has found all that there was to find waits. -/
theorem waits_of_drain (h : (drain size s).failure = none) : Stops (drain size s).rest none := by
  have hstops := (drain_spec size s).2
  rwa [h] at hstops

variable (size) in
/-- A reading stops behind one of the pieces, and behind the last one unless it has failed. No octet
of the pieces up to there is lost. -/
theorem feed_spec (hs : Stops s none) (pieces : List Bytes) :
    ∃ k, octets (feed size s pieces).found ++ (feed size s pieces).rest.buffer =
        s.buffer ++ (pieces.take k).flatten ∧
      ((feed size s pieces).failure = none → pieces.take k = pieces) ∧
        Stops (feed size s pieces).rest (feed size s pieces).failure := by
  induction pieces generalizing s with
  | nil => exact ⟨0, by simp [feed], fun _ => rfl, hs⟩
  | cons b pieces ih =>
    obtain ⟨hoctets, hstops⟩ := drain_spec size (s.push b)
    cases hfailure : (drain size (s.push b)).failure with
    | some e =>
      refine ⟨1, ?_, ?_, ?_⟩
      · rw [feed_cons_of_failure hfailure, hoctets]
        simp [Inbound.push]
      · rw [feed_cons_of_failure hfailure, hfailure]
        rintro ⟨⟩
      · rw [feed_cons_of_failure hfailure]
        exact hstops
    | none =>
      obtain ⟨k, hk, hall, hlast⟩ := ih (waits_of_drain hfailure)
      refine ⟨k + 1, ?_, ?_, ?_⟩
      · rw [feed_cons hfailure, Reading.followedBy, octets_append, List.append_assoc, hk,
          ← List.append_assoc, hoctets, Inbound.push, List.take_succ_cons, List.flatten_cons,
          List.append_assoc]
      · rw [feed_cons hfailure]
        intro hnone
        rw [List.take_succ_cons, hall hnone]
      · rw [feed_cons hfailure]
        exact hlast

theorem isWhole_of_feed (pieces : List Bytes) : ∀ x ∈ (feed size s pieces).found, x.IsWhole := by
  induction pieces generalizing s with
  | nil =>
    intro x hx
    cases hx
  | cons b pieces ih =>
    intro x hx
    cases hfailure : (drain size (s.push b)).failure with
    | some e =>
      rw [feed_cons_of_failure hfailure] at hx
      exact isWhole_of_drain x hx
    | none =>
      rw [feed_cons hfailure] at hx
      rcases List.mem_append.mp hx with hx | hx
      · exact isWhole_of_drain x hx
      · exact ih x hx

/-- A reader waits before any octet has come. -/
theorem stops_empty : Stops .empty none := .waits fun hne => absurd rfl hne

/-! ## In any order -/

/-- No octet is lost on any course. -/
theorem Course.octets_append (h : Course size read found s) : octets found ++ s.buffer = read := by
  induction h with
  | start => rfl
  | push b _ ih => rw [Inbound.push, ← List.append_assoc, ih]
  | ask _ hnext ih =>
    rw [Http.octets_append, octets_cons, octets_nil, List.append_nil, List.append_assoc,
      taken_append_of_next hnext, ih]
  | askInVain _ hnext hnot ih => rw [eq_of_next hnext hnot, ih]

end TunnelRelay.Http
