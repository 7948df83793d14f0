import TunnelRelay.Proofs.Http.Reading

/-!
# What is due in a stream

A stream is requests one after the other, each a head and what stands behind it. A reader of a part
of it holds the rest of what stands behind a head, and then requests. What it finds next is what is
due: a piece of that rest, or the head of the next request.
-/

namespace TunnelRelay.Http

/-- A request as it stands in a stream: its head, and what stands behind that. -/
structure Entry where
  front : Bytes
  request : Request
  behind : Bytes
  isHead : Http.head front = .complete request.head []
  isRequest : request.head.request = .ok request
  isShort : front.length ≤ maxHeadSize

namespace Entry

/-- The octets of requests one after the other. -/
def stream (entries : List Entry) : Bytes := entries.flatMap fun e => e.front ++ e.behind

@[simp] theorem stream_nil : stream [] = [] := rfl

@[simp] theorem stream_cons (e : Entry) (entries : List Entry) :
    stream (e :: entries) = e.front ++ (e.behind ++ stream entries) := by
  simp [stream]

theorem front_ne_nil (e : Entry) : e.front ≠ [] := by
  intro hnil
  have hhead := e.isHead
  rw [hnil] at hhead
  cases hhead

/-- Where nothing is sent, nothing is asked. -/
theorem eq_nil_of_stream {entries : List Entry} (h : stream entries = []) : entries = [] := by
  cases entries with
  | nil => rfl
  | cons e entries =>
    rw [stream_cons] at h
    exact absurd (List.append_eq_nil_iff.mp h).1 e.front_ne_nil

end Entry

/-- What is held and what has not come are the rest of a body and then requests. -/
structure Due (s : Inbound) (unread rest : Bytes) (entries : List Entry) : Prop where
  body : s.bodyRemaining = rest.length
  octets : s.buffer ++ unread = rest ++ Entry.stream entries

/-- What a reader is told when this is due. -/
inductive Continues (size : Nat) (s : Inbound) (unread rest : Bytes) (entries : List Entry) :
    Except Error (Option Frame) × Inbound → Prop
  /-- More octets are needed, and there are more unless all has been found. -/
  | waits : (unread = [] → rest = [] ∧ entries = []) →
    Continues size s unread rest entries (.ok none, s)
  | piece {b rest' : Bytes} {t : Inbound} : rest = b ++ rest' → b ≠ [] → b.length ≤ max size 1 →
    s.buffer = b ++ t.buffer → Due t unread rest' entries →
    Continues size s unread rest entries (.ok (some (.body b)), t)
  | head {e : Entry} {entries' : List Entry} {t : Inbound} : rest = [] → entries = e :: entries' →
    s.buffer = e.front ++ t.buffer → t.bodyRemaining = e.request.contentLength →
    t.buffer ++ unread = e.behind ++ Entry.stream entries' →
    Continues size s unread rest entries (.ok (some (.head e.request)), t)

variable {s : Inbound} {b unread rest : Bytes} {e : Entry} {entries : List Entry}

/-- More octets have come. -/
theorem Due.push (h : Due s (b ++ unread) rest entries) : Due (s.push b) unread rest entries where
  body := h.body
  octets := by
    rw [Inbound.push, List.append_assoc]
    exact h.octets

/-- The octets of a head, as far as they have come. -/
theorem Due.agrees (h : Due s unread [] (e :: entries)) :
    s.buffer <+: e.front ∨ e.front <+: s.buffer := by
  have hoctets := h.octets
  rw [List.nil_append, Entry.stream_cons] at hoctets
  exact List.prefix_or_prefix_of_prefix ⟨unread, hoctets⟩ (List.prefix_append e.front _)

/-- What is held before a head is due begins with that head. -/
theorem Due.exists_cons (h : Due s unread rest entries) (hbody : s.bodyRemaining = 0)
    (hbuffer : s.buffer ≠ []) : rest = [] ∧ ∃ e entries', entries = e :: entries' := by
  have hrest : rest = [] := by
    apply List.length_eq_zero_iff.mp
    rw [← h.body, hbody]
  refine ⟨hrest, ?_⟩
  cases entries with
  | nil =>
    have hoctets := h.octets
    rw [hrest, Entry.stream_nil, List.append_nil] at hoctets
    exact absurd (List.append_eq_nil_iff.mp hoctets).1 hbuffer
  | cons e entries => exact ⟨e, entries, rfl⟩

/-- A reader is not refused, and at the end of the stream nothing is due. -/
theorem Due.stop (h : Due s unread rest entries) {failure : Option Error}
    (hstops : Stops s failure) :
    failure = none ∧ (unread = [] → rest = [] ∧ entries = []) := by
  have hoctets := h.octets
  by_cases hbuffer : s.buffer = []
  · refine ⟨hstops.eq_none hbuffer, ?_⟩
    rintro rfl
    rw [hbuffer, List.append_nil, eq_comm, List.append_eq_nil_iff] at hoctets
    exact ⟨hoctets.1, Entry.eq_nil_of_stream hoctets.2⟩
  · obtain ⟨rfl, e, entries, rfl⟩ := h.exists_cons (hstops.bodyRemaining hbuffer) hbuffer
    obtain ⟨hpart, hne, hfailure⟩ := hstops.within_head hbuffer e.isHead e.isRequest h.agrees
    have hshort := Nat.le_trans hpart.length_le e.isShort
    refine ⟨hfailure.resolve_right fun hlarge => Nat.not_lt.mpr hshort hlarge.2, ?_⟩
    -- a stream that is over has the whole head
    rintro rfl
    rw [List.nil_append, List.append_nil, Entry.stream_cons] at hoctets
    have hback : e.front <+: s.buffer := ⟨_, hoctets.symm⟩
    exact absurd (hpart.eq_of_length_le hback.length_le) hne

/-- **What is found next is what is due.** -/
theorem Due.continues (h : Due s unread rest entries) (size : Nat) :
    Continues size s unread rest entries (next size s) := by
  have hanswer := next_answers size s
  have hoctets := h.octets
  generalize next size s = answer at hanswer
  cases hanswer with
  | nothing hstops => exact .waits (h.stop hstops).2
  | failure hstops => exact absurd (h.stop hstops).1 (Option.some_ne_none _)
  | @piece b _ hne hsize hbuffer hremaining =>
    rw [hbuffer, List.append_assoc] at hoctets
    -- no more than the body is taken, so the piece is the front of the body
    have hle : b.length ≤ rest.length := by
      rw [← h.body, hremaining]
      exact Nat.le_add_right _ _
    obtain ⟨rest', rfl⟩ : b <+: rest :=
      List.prefix_of_prefix_length_le ⟨_, hoctets⟩ (List.prefix_append rest _) hle
    refine .piece rfl hne hsize hbuffer ⟨?_, ?_⟩
    · have hlength := h.body
      rw [hremaining, List.length_append] at hlength
      omega
    · rw [List.append_assoc] at hoctets
      exact List.append_cancel_left hoctets
  | @head front q _ hne hhead hrequest hbuffer hbody hlength =>
    have hfull : s.buffer ≠ [] := by
      rw [hbuffer]
      exact List.append_ne_nil_of_left_ne_nil hne _
    obtain ⟨rfl, e, entries, rfl⟩ := h.exists_cons hbody hfull
    rw [hbuffer, List.nil_append, Entry.stream_cons, List.append_assoc] at hoctets
    have hagrees := List.prefix_or_prefix_of_prefix ⟨_, hoctets⟩ (List.prefix_append e.front _)
    obtain ⟨rfl, rfl⟩ := eq_of_heads e.isHead e.isRequest hagrees hhead hrequest
    exact .head rfl rfl hbuffer hlength (List.append_cancel_left hoctets)

end TunnelRelay.Http
