import TunnelRelay.Agent.Opening
import TunnelRelay.Proofs.Http.Due

/-!
# Requests in a stream

A client's stream is its requests one after the other, and it is read as these requests whatever
part of it has come. What has been read and not used is kept in step with the requests that are
still to come: the next read finds the head or the piece of body that is due, or needs more.
-/

namespace TunnelRelay.Http

/-- A request as it stands in a client's stream, and what stands behind its head. -/
structure Item where
  front : Bytes
  request : Request
  target : Target
  /-- The body, and behind a request of which only the target knows the end, all there is. -/
  behind : Bytes
  isHead : Http.head front = .complete request.head []
  isRequest : request.head.request = .ok request
  resolves : request.head.targetAddress = .ok (target.host, target.port)
  isShort : front.length ≤ maxHeadSize
  isWhole : request.chunked = false → request.head.isConnect = false →
    behind.length = request.contentLength

namespace Item

/-- The end of the request is told by its head. -/
def isPlain (i : Item) : Bool := !i.request.chunked && !i.request.head.isConnect

/-- The octets of the request and of what stands behind it. -/
def octets (i : Item) : Bytes := i.front ++ i.behind

/-- The octets of requests one after the other. -/
def stream (items : List Item) : Bytes := items.flatMap octets

/-- All requests but the last one end. -/
def Sequence (items : List Item) : Prop := ∀ i ∈ items.dropLast, i.isPlain

@[simp] theorem stream_nil : stream [] = [] := rfl

@[simp] theorem stream_cons (i : Item) (items : List Item) :
    stream (i :: items) = i.front ++ (i.behind ++ stream items) := by
  simp [stream, octets]

variable {i : Item} {items : List Item}

/-- The request as it stands in a stream, whatever it is for. -/
def entry (i : Item) : Entry :=
  ⟨i.front, i.request, i.behind, i.isHead, i.isRequest, i.isShort⟩

theorem stream_eq (items : List Item) : stream items = Entry.stream (items.map entry) := by
  rw [stream, Entry.stream, List.flatMap_map]
  rfl

theorem front_ne_nil (i : Item) : i.front ≠ [] := i.entry.front_ne_nil

/-- Where nothing is sent, nothing is asked. -/
theorem eq_nil_of_stream (h : stream items = []) : items = [] := by
  rw [stream_eq] at h
  exact List.map_eq_nil_iff.mp (Entry.eq_nil_of_stream h)

theorem sequence_nil : Sequence [] := by
  intro i hi
  cases hi

theorem Sequence.tail (h : Sequence (i :: items)) : Sequence items := by
  cases items with
  | nil => exact sequence_nil
  | cons j items =>
    intro k hk
    exact h k (List.mem_cons_of_mem i hk)

/-- What follows a request that does not end is no request. -/
theorem Sequence.eq_nil (h : Sequence (i :: items)) (hi : i.isPlain = false) : items = [] := by
  cases items with
  | nil => rfl
  | cons j items =>
    have hplain := h i List.mem_cons_self
    rw [hi] at hplain
    cases hplain

end Item

/-- What has been read and not used, and what will be read, are the rest of a body and then
requests. -/
structure Stands (s : Inbound) (unread rest : Bytes) (items : List Item) : Prop where
  body : s.bodyRemaining = rest.length
  octets : s.buffer ++ unread = rest ++ Item.stream items
  sequence : Item.Sequence items

/-- The head of a request has just been read. -/
structure Begins (s : Inbound) (unread : Bytes) (i : Item) (items : List Item) : Prop where
  body : s.bodyRemaining = i.request.contentLength
  octets : s.buffer ++ unread = i.behind ++ Item.stream items
  sequence : Item.Sequence (i :: items)

variable {s s' : Inbound} {unread rest b : Bytes} {i : Item} {items : List Item}

theorem stands_empty (h : Item.Sequence items) : Stands .empty (Item.stream items) [] items :=
  ⟨rfl, rfl, h⟩

/-- Octets that are read are used later. -/
theorem Stands.push (h : Stands s (b ++ unread) rest items) :
    Stands (s.push b) unread rest items where
  body := h.body
  octets := by
    rw [Inbound.push, List.append_assoc]
    exact h.octets
  sequence := h.sequence

/-- Behind a head that tells its end stands its body. -/
theorem Begins.stands (h : Begins s unread i items) (hplain : i.isPlain) :
    Stands s unread i.behind items where
  body := by
    simp only [Item.isPlain, Bool.and_eq_true, Bool.not_eq_true'] at hplain
    rw [h.body, i.isWhole hplain.1 hplain.2]
  octets := h.octets
  sequence := h.sequence.tail

/-- Behind a head that does not tell its end stands all there is. -/
theorem Begins.last (h : Begins s unread i items) (hplain : i.isPlain = false) :
    items = [] ∧ s.buffer ++ unread = i.behind := by
  have hnil := h.sequence.eq_nil hplain
  have hoctets := h.octets
  rw [hnil, Item.stream_nil, List.append_nil] at hoctets
  exact ⟨hnil, hoctets⟩

/-- What the next read of a client's stream comes to: more octets are needed and will come unless
the stream is over, or the piece of body or the head that is due is there. -/
inductive Comes (s : Inbound) (unread rest : Bytes) (items : List Item) :
    Except Error (Option Frame) × Inbound → Prop
  | needsMore : unread ≠ [] ∨ rest = [] ∧ items = [] → Comes s unread rest items (.ok none, s)
  | piece {b rest' : Bytes} {s' : Inbound} : rest = b ++ rest' → b ≠ [] →
    s'.buffer.length < s.buffer.length → Stands s' unread rest' items →
    Comes s unread rest items (.ok (some (.body b)), s')
  | head {i : Item} {items' : List Item} {s' : Inbound} : rest = [] → items = i :: items' →
    s'.buffer.length < s.buffer.length → Begins s' unread i items' →
    Comes s unread rest items (.ok (some (.head i.request)), s')

/-- What stands in a stream is due. -/
theorem Stands.due (h : Stands s unread rest items) : Due s unread rest (items.map Item.entry) where
  body := h.body
  octets := by
    rw [← Item.stream_eq]
    exact h.octets

/-- **What a client's stream is read as** does not depend on how much of it has come. -/
theorem next_comes (pieceSize : Nat) (h : Stands s unread rest items) :
    Comes s unread rest items (next pieceSize s) := by
  have hcontinues := h.due.continues pieceSize
  generalize next pieceSize s = answer at hcontinues
  cases hcontinues with
  | waits hover =>
    refine .needsMore ?_
    by_cases hunread : unread = []
    · obtain ⟨hrest, hitems⟩ := hover hunread
      exact Or.inr ⟨hrest, List.map_eq_nil_iff.mp hitems⟩
    · exact Or.inl hunread
  | @piece b rest' t hrest hne _ hbuffer hdue =>
    refine .piece hrest hne ?_ ⟨hdue.body, ?_, h.sequence⟩
    · have hpos := List.length_pos_iff.mpr hne
      rw [hbuffer, List.length_append]
      omega
    · rw [Item.stream_eq]
      exact hdue.octets
  | head hrest hentries hbuffer hlength hoctets =>
    obtain ⟨i, items', rfl, rfl, rfl⟩ := List.map_eq_cons_iff.mp hentries
    refine .head hrest rfl ?_ ⟨hlength, ?_, h.sequence⟩
    · have hpos := List.length_pos_iff.mpr i.entry.front_ne_nil
      rw [hbuffer, List.length_append]
      omega
    · rw [Item.stream_eq]
      exact hoctets

end TunnelRelay.Http
