import TunnelRelay.Proofs.Http.Reading
import TunnelRelay.Proofs.Http.Spelling
import TunnelRelay.Proofs.Scan

/-!
# The limit on heads

A head is refused for its size while it is a part of one, and a reader looks at parts only where a
piece of the stream ends. So it is the pieces that decide about a head that is longer than the
limit: it is refused if one of them ends within it and behind the limit, and found otherwise. No
head that is found exceeds the limit by more than the length of a piece.
-/

namespace TunnelRelay.Http

open Head (newLine headerLine)

/-- A piece of a stream ends within the `n` octets at `start`, and behind the first `maxHeadSize` of
them. -/
def EndsLate (pieces : List Bytes) (start n : Nat) : Prop :=
  ∃ k, start + maxHeadSize < (pieces.take k).flatten.length ∧
    (pieces.take k).flatten.length < start + n

variable {size : Nat} {s : Inbound} {b : Bytes} {pieces : List Bytes}

/-- A reader that waits does not hold more than a head may have. -/
theorem Stops.length_le (hs : Stops s none) : s.buffer.length ≤ maxHeadSize := by
  cases hs with
  | waits hpart =>
    by_cases hbuffer : s.buffer = []
    · rw [hbuffer]
      exact Nat.zero_le _
    · exact (hpart hbuffer).2.2

/-- What is found in a piece ends with it at the latest. -/
theorem end_le_of_drain {before after : List Found} {x : Found}
    (h : (drain size (s.push b)).found = before ++ x :: after) :
    (octets before).length + x.octets.length ≤ s.buffer.length + b.length := by
  have hlength := congrArg List.length (drain_spec size (s.push b)).1
  rw [h] at hlength
  simp only [octets_append, octets_cons, Inbound.push, List.length_append] at hlength
  omega

/-- What ends with the second piece has no late end of a piece in it, if the first piece is no
longer than a head may be. -/
theorem not_endsLate_of_le {a : Bytes} {start n : Nat} (ha : a.length ≤ maxHeadSize)
    (hend : start + n ≤ a.length + b.length) : ¬EndsLate (a :: b :: pieces) start n := by
  rintro ⟨k, hlate, hwithin⟩
  rcases k with _ | _ | k
  · exact Nat.not_lt_zero _ hlate
  · simp only [List.take_succ_cons, List.take_zero, List.flatten_cons, List.flatten_nil,
      List.append_nil] at hlate
    omega
  · simp only [List.take_succ_cons, List.flatten_cons, List.length_append] at hwithin
    omega

/-- The late end of a piece is still there when the octets in front of it have been taken off, and
what is left of the first two pieces is `c`. -/
theorem EndsLate.shift {a c : Bytes} {m start n : Nat}
    (h : EndsLate (a :: b :: pieces) (m + start) n) (ha : a.length ≤ maxHeadSize)
    (hc : m + c.length = a.length + b.length) : EndsLate (c :: pieces) start n := by
  obtain ⟨k, hlate, hwithin⟩ := h
  rcases k with _ | _ | k
  · exact absurd hlate (Nat.not_lt_zero _)
  · simp only [List.take_succ_cons, List.take_zero, List.flatten_cons, List.flatten_nil,
      List.append_nil] at hlate
    omega
  · simp only [List.take_succ_cons, List.flatten_cons, List.length_append] at hlate hwithin
    refine ⟨k + 1, ?_, ?_⟩
    · simp only [List.take_succ_cons, List.flatten_cons, List.length_append]
      omega
    · simp only [List.take_succ_cons, List.flatten_cons, List.length_append]
      omega

/-- What stands somewhere in two lists stands in the first one or in the second one. -/
theorem append_eq_append_cons {α : Type} {as bs before after : List α} {x : α}
    (h : as ++ bs = before ++ x :: after) :
    (∃ after', as = before ++ x :: after') ∨
      ∃ before', before = as ++ before' ∧ bs = before' ++ x :: after := by
  rcases List.append_eq_append_iff.mp h with ⟨before', rfl, hbs⟩ | ⟨more, rfl, hmore⟩
  · exact Or.inr ⟨before', rfl, hbs⟩
  · cases more with
    | nil => exact Or.inr ⟨[], by rw [List.append_nil, List.append_nil], hmore.symm⟩
    | cons y more =>
      cases hmore
      exact Or.inl ⟨more, rfl⟩

/-- No piece ends late within anything that is found. What a reader holds at the start counts as a
piece. -/
theorem not_endsLate_of_feed (hs : Stops s none) {before after : List Found}
    {x : Found} (h : (feed size s pieces).found = before ++ x :: after) :
    ¬EndsLate (s.buffer :: pieces) (octets before).length x.octets.length := by
  have hwaits := hs.length_le
  -- what waits is no longer than a head may be, so everything begins at most that much before the
  -- next piece
  induction pieces generalizing s before with
  | nil =>
    rw [feed] at h
    exact absurd h.symm (List.append_ne_nil_of_right_ne_nil _ (List.cons_ne_nil _ _))
  | cons b pieces ih =>
    cases hfailure : (drain size (s.push b)).failure with
    | some e =>
      rw [feed_cons_of_failure hfailure] at h
      exact not_endsLate_of_le hwaits (end_le_of_drain h)
    | none =>
      rw [feed_cons hfailure] at h
      rcases append_eq_append_cons h with ⟨after', hfirst⟩ | ⟨before', rfl, hlater⟩
      · exact not_endsLate_of_le hwaits (end_le_of_drain hfirst)
      · have hnext := waits_of_drain hfailure
        have hlength := congrArg List.length (drain_spec size (s.push b)).1
        rw [List.length_append, Inbound.push, List.length_append] at hlength
        intro hlate
        rw [octets_append, List.length_append] at hlate
        exact ih hnext hlater hnext.length_le (hlate.shift hwaits hlength)

/-- What is found is no longer than a head may be and a piece together. -/
theorem length_le_of_feed (hs : Stops s none) {n : Nat}
    (hpieces : ∀ b ∈ pieces, b.length ≤ n) :
    ∀ x ∈ (feed size s pieces).found, x.octets.length ≤ maxHeadSize + n := by
  have hwaits := hs.length_le
  induction pieces generalizing s with
  | nil =>
    intro x hx
    cases hx
  | cons b pieces ih =>
    have hb := hpieces b List.mem_cons_self
    have hfirst : ∀ x ∈ (drain size (s.push b)).found, x.octets.length ≤ maxHeadSize + n := by
      intro x hx
      obtain ⟨before, after, hfound⟩ := List.append_of_mem hx
      have hend := end_le_of_drain hfound
      omega
    intro x hx
    cases hfailure : (drain size (s.push b)).failure with
    | some e =>
      rw [feed_cons_of_failure hfailure] at hx
      exact hfirst x hx
    | none =>
      rw [feed_cons hfailure] at hx
      have hnext := waits_of_drain hfailure
      rcases List.mem_append.mp hx with hx | hx
      · exact hfirst x hx
      · exact ih hnext (fun p hp => hpieces p (List.mem_cons_of_mem b hp))
          hnext.length_le x hx

/-- A reading that stops in front of a whole head has refused it, and a piece ends late within
it. -/
theorem endsLate_of_stop {front behind : Bytes} {h : Head} {q : Request}
    (hstream : pieces.flatten = octets (feed size .empty pieces).found ++ (front ++ behind))
    (hhead : Http.head front = .complete h []) (hrequest : h.request = .ok q) :
    (feed size .empty pieces).failure = some .headTooLarge ∧
      EndsLate pieces (octets (feed size .empty pieces).found).length front.length := by
  obtain rfl := Head.head_of_request hrequest
  obtain ⟨k, hoctets, hall, hstops⟩ := feed_spec size stops_empty pieces
  generalize feed size .empty pieces = r at *
  rw [Inbound.empty, List.nil_append] at hoctets
  -- what is held is the front of what stands there
  have hcut : r.rest.buffer ++ (pieces.drop k).flatten = front ++ behind := by
    have hsplit := congrArg List.flatten (List.take_append_drop k pieces)
    rw [List.flatten_append, hstream, ← hoctets, List.append_assoc] at hsplit
    exact List.append_cancel_left hsplit
  have hagrees : r.rest.buffer <+: front ∨ front <+: r.rest.buffer :=
    List.prefix_or_prefix_of_prefix ⟨_, hcut⟩ (List.prefix_append front behind)
  have hwithin := fun hbuffer => hstops.within_head hbuffer hhead hrequest hagrees
  have hfailure : r.failure ≠ none := by
    -- otherwise all has come, and the head with it
    intro hnone
    have hdrop : pieces.drop k = [] := by
      have hsplit := List.take_append_drop k pieces
      rw [hall hnone] at hsplit
      exact List.append_right_eq_self.mp hsplit
    rw [hdrop, List.flatten_nil, List.append_nil] at hcut
    have hback : front <+: r.rest.buffer := ⟨behind, hcut.symm⟩
    have hbuffer : r.rest.buffer ≠ [] := by
      intro hnil
      rw [hnil, List.prefix_nil] at hback
      rw [hback] at hhead
      cases hhead
    obtain ⟨hpart, hne, -⟩ := hwithin hbuffer
    exact hne (hpart.eq_of_length_le hback.length_le)
  obtain ⟨hpart, hne, hnone | ⟨hlarge, hlate⟩⟩ :=
    hwithin fun hnil => hfailure (hstops.eq_none hnil)
  · exact absurd hnone hfailure
  · have hlt : r.rest.buffer.length < front.length :=
      Nat.lt_of_le_of_ne hpart.length_le fun heq => hne (hpart.eq_of_length heq)
    have hlength := congrArg List.length hoctets
    rw [List.length_append] at hlength
    refine ⟨hlarge, k, ?_, ?_⟩
    · omega
    · omega

/-! ## Heads -/

/-- A piece ends late within every head that is longer than the limit, wherever a reader comes to
look for one. -/
def CutsLongHeads (size : Nat) (pieces : List Bytes) : Prop :=
  ∀ (before : List Found) (front behind : Bytes) (h : Head),
    before <+: (feed size .empty pieces).found →
    pieces.flatten = octets before ++ (front ++ behind) →
    Http.head front = .complete h [] → maxHeadSize < front.length →
    EndsLate pieces (octets before).length front.length

/-- What the limit on heads comes to, for a stream that comes in these pieces. -/
structure Limited (size : Nat) (pieces : List Bytes) : Prop where
  /-- Pieces that end late within every longer head keep all heads within the limit. -/
  within : CutsLongHeads size pieces → ∀ x ∈ (feed size .empty pieces).found, ∀ q,
    x.frame = .head q → x.octets.length ≤ maxHeadSize
  /-- What is found stood whole where it is said to have stood, and no piece ends late within it. -/
  found : ∀ (before after : List Found) (x : Found),
    (feed size .empty pieces).found = before ++ x :: after →
    x.IsWhole ∧ (∃ behind, pieces.flatten = octets before ++ (x.octets ++ behind)) ∧
      ¬EndsLate pieces (octets before).length x.octets.length
  /-- A reading that stops in front of a head has refused it for its size, and a piece ends late
  within it. -/
  refused : ∀ (front behind : Bytes) (h : Head) (q : Request),
    pieces.flatten = octets (feed size .empty pieces).found ++ (front ++ behind) →
    Http.head front = .complete h [] → h.request = .ok q →
    (feed size .empty pieces).failure = some .headTooLarge ∧
      EndsLate pieces (octets (feed size .empty pieces).found).length front.length
  /-- The limit is exceeded by no more than the length of the longest piece. -/
  bounded : ∀ n, (∀ b ∈ pieces, b.length ≤ n) → ∀ x ∈ (feed size .empty pieces).found,
    x.octets.length ≤ maxHeadSize + n

/-- What is found stood whole in the stream, and no piece ends late within it. -/
theorem found_of_feed {before after : List Found} {x : Found}
    (h : (feed size .empty pieces).found = before ++ x :: after) :
    x.IsWhole ∧ (∃ behind, pieces.flatten = octets before ++ (x.octets ++ behind)) ∧
      ¬EndsLate pieces (octets before).length x.octets.length := by
  have hx : x ∈ (feed size .empty pieces).found := by
    rw [h]
    exact List.mem_append_right before List.mem_cons_self
  refine ⟨isWhole_of_feed pieces x hx, ?_, ?_⟩
  · obtain ⟨k, hoctets, -, -⟩ := feed_spec size stops_empty pieces
    rw [h, Inbound.empty, List.nil_append, octets_append, octets_cons] at hoctets
    refine ⟨octets after ++ ((feed size .empty pieces).rest.buffer ++ (pieces.drop k).flatten), ?_⟩
    have hsplit := congrArg List.flatten (List.take_append_drop k pieces)
    rw [List.flatten_append, ← hoctets] at hsplit
    simpa only [List.append_assoc, Inbound.empty] using hsplit.symm
  · rintro ⟨k, hlate, hwithin⟩
    exact not_endsLate_of_feed stops_empty h ⟨k + 1, hlate, hwithin⟩

/-- **A longer head is refused where a piece ends late within it**, and found everywhere else. -/
theorem heads_limited (size : Nat) (pieces : List Bytes) : Limited size pieces where
  within hcuts x hx q hframe := by
    obtain ⟨before, after, hfound⟩ := List.append_of_mem hx
    obtain ⟨hwhole, ⟨behind, hstream⟩, hnot⟩ := found_of_feed hfound
    rw [Found.IsWhole, hframe] at hwhole
    by_contra hlong
    have hpart : before <+: (feed size .empty pieces).found := ⟨x :: after, hfound.symm⟩
    exact hnot (hcuts before _ behind q.head hpart hstream hwhole.1 (Nat.lt_of_not_le hlong))
  found before after x h := found_of_feed h
  refused front behind h q := endsLate_of_stop
  bounded n hn := length_le_of_feed stops_empty hn

/-! ## A head beyond the limit -/

/-- A head with a header of `n` octets. -/
def wideHead (n : Nat) : Head :=
  ⟨Bytes.ofText "GET", "/", 1,
    [⟨Bytes.ofText "Host", Bytes.ofText "h"⟩, ⟨Bytes.ofText "Cookie", List.replicate n 97⟩]⟩

theorem length_wideHead (n : Nat) : (wideHead n).spell.length = n + 37 := by
  have hmethod : (Bytes.ofText "GET").length = 3 := by decide +kernel
  have htarget : (Bytes.ofText "/").length = 1 := by decide +kernel
  have hversion : (Bytes.ofText "HTTP/1.").length = 7 := by decide +kernel
  have hminor : (Bytes.ofText (toString 1)).length = 1 := by decide +kernel
  have hhost : (headerLine ⟨Bytes.ofText "Host", Bytes.ofText "h"⟩).length = 9 := by
    decide +kernel
  have hcookie : (Bytes.ofText "Cookie").length = 6 := by decide +kernel
  have hcolon : (Bytes.ofText ": ").length = 2 := by decide +kernel
  have hnewLine : newLine.length = 2 := rfl
  simp only [wideHead, Head.spell, List.flatMap_cons, List.flatMap_nil, List.length_append,
    List.length_nil, List.length_cons, ofText_requestLine, hmethod, htarget, hversion, hminor,
    hhost, hnewLine]
  simp only [headerLine, List.length_append, List.length_replicate, hcookie, hcolon, hnewLine]
  omega

theorem wellFormed_wideHead (n : Nat) : (wideHead n).WellFormed := by
  have hmethod : Bytes.ofText "GET" ≠ [] ∧ ∀ y ∈ Bytes.ofText "GET", isToken y := by decide +kernel
  have htarget : ∀ y ∈ Bytes.ofText "/", isTarget y := by decide +kernel
  have hhost : Header.WellFormed ⟨Bytes.ofText "Host", Bytes.ofText "h"⟩ := by
    constructor <;> decide +kernel
  have hname : Bytes.ofText "Cookie" ≠ [] ∧ ∀ y ∈ Bytes.ofText "Cookie", isToken y := by
    decide +kernel
  have hcookie : Header.WellFormed ⟨Bytes.ofText "Cookie", List.replicate n 97⟩ := by
    refine ⟨hname.1, hname.2, ?_, ?_, ?_⟩
    · intro y hy
      rw [List.eq_of_mem_replicate hy]
      rfl
    · intro y hy
      rw [List.eq_of_mem_replicate (List.mem_of_mem_head? hy)]
      rfl
    · intro y hy
      rw [List.eq_of_mem_replicate (List.mem_of_mem_getLast? hy)]
      rfl
  have hnonempty : "/" ≠ "" := by decide
  have hcount : (wideHead n).headers.length ≤ maxHeaders := Nat.le_of_ble_eq_true rfl
  refine ⟨hmethod.1, hmethod.2, hnonempty, htarget, Nat.le_refl 1, hcount, ?_⟩
  intro x hx
  rcases List.mem_pair.mp hx with rfl | rfl
  · exact hhost
  · exact hcookie

theorem request_wideHead (n : Nat) : (wideHead n).request = .ok ⟨wideHead n, 0, false⟩ := by
  -- neither of the two headers is one that says anything of the body
  have hvalues : ∀ name, Text.sameWord (Bytes.ofText "Host") (Bytes.ofText name) = false →
      Text.sameWord (Bytes.ofText "Cookie") (Bytes.ofText name) = false →
      (wideHead n).values name = [] := by
    intro name hhost hcookie
    simp [wideHead, Head.values, hhost, hcookie]
  have hchunked := hvalues "Transfer-Encoding" (by decide +kernel) (by decide +kernel)
  have hlength := hvalues "Content-Length" (by decide +kernel) (by decide +kernel)
  have hconnect : (wideHead n).isConnect = false := by
    show Text.sameWord (Bytes.ofText "GET") (Bytes.ofText "CONNECT") = false
    decide +kernel
  simp only [Head.request, Head.isChunked, Head.declaredLength, hchunked, hlength, hconnect]
  rfl

theorem head_wideHead (n : Nat) : Http.head (wideHead n).spell = .complete (wideHead n) [] := by
  have hspell := head_spell (wellFormed_wideHead n) []
  rwa [List.append_nil] at hspell

/-- A head of this length in two pieces, the first one of which is too long to wait for more. -/
def widePieces : List Bytes :=
  [(wideHead maxHeadSize).spell.take (maxHeadSize + 1),
    (wideHead maxHeadSize).spell.drop (maxHeadSize + 1)]

theorem length_take_wideHead :
    ((wideHead maxHeadSize).spell.take (maxHeadSize + 1)).length = maxHeadSize + 1 := by
  rw [List.length_take, length_wideHead]
  omega

theorem feed_widePieces (size : Nat) : feed size .empty widePieces =
    ⟨[], some .headTooLarge, ⟨(wideHead maxHeadSize).spell.take (maxHeadSize + 1), 0⟩⟩ := by
  have hlength := length_take_wideHead
  have hpart := List.take_prefix (maxHeadSize + 1) (wideHead maxHeadSize).spell
  have hwide := length_wideHead maxHeadSize
  rw [widePieces]
  generalize (wideHead maxHeadSize).spell.take (maxHeadSize + 1) = part at *
  have hincomplete : Http.head part = .incomplete := by
    refine stable_head.incomplete_of_prefix (head_wideHead maxHeadSize) hpart ?_
    rintro rfl
    omega
  have hlarge : maxHeadSize < part.length := by omega
  have hne : part ≠ [] := List.length_pos_iff.mp (Nat.zero_lt_of_lt hlarge)
  refine feed_of_error hne ?_
  rw [nextHead]
  simp only [hincomplete, if_pos hlarge]

/-- In these pieces a head beyond the limit is not found. -/
theorem widePieces_limited : CutsLongHeads defaultPieceSize widePieces ∧
    ∀ x ∈ (feed defaultPieceSize .empty widePieces).found, ∀ q, x.frame = .head q →
      x.octets.length ≤ maxHeadSize := by
  have hcuts : CutsLongHeads defaultPieceSize widePieces := by
    intro before front behind h hbefore hstream hhead _
    rw [feed_widePieces, List.prefix_nil] at hbefore
    subst hbefore
    have hflatten : widePieces.flatten = (wideHead maxHeadSize).spell := by
      simp only [widePieces, List.flatten_cons, List.flatten_nil, List.append_nil,
        List.take_append_drop]
    rw [hflatten, octets_nil, List.nil_append] at hstream
    -- there is one head in the stream, and it is all of it
    obtain ⟨-, hfront⟩ := stable_head.eq_append_of_complete (head_wideHead maxHeadSize)
      (Or.inl ⟨behind, hstream.symm⟩) hhead
    rw [List.append_nil] at hfront
    have hlength := length_take_wideHead
    refine ⟨1, ?_, ?_⟩
    · simp only [widePieces, List.take_succ_cons, List.take_zero, List.flatten_cons,
        List.flatten_nil, List.append_nil, hlength, octets_nil, List.length_nil]
      omega
    · simp only [widePieces, List.take_succ_cons, List.take_zero, List.flatten_cons,
        List.flatten_nil, List.append_nil, hlength, octets_nil, List.length_nil, hfront,
        length_wideHead]
      omega
  exact ⟨hcuts, (heads_limited defaultPieceSize widePieces).within hcuts⟩

/-- The same head is found when it comes in one piece. -/
theorem wide_head_found :
    maxHeadSize < (wideHead maxHeadSize).spell.length ∧
      (feed defaultPieceSize .empty [(wideHead maxHeadSize).spell]).found =
        [⟨.head ⟨wideHead maxHeadSize, 0, false⟩, (wideHead maxHeadSize).spell⟩] ∧
      (feed defaultPieceSize .empty widePieces).found = [] := by
  have hlength := length_wideHead maxHeadSize
  refine ⟨by omega, ?_, ?_⟩
  · rw [feed_of_head (head_wideHead maxHeadSize) (request_wideHead maxHeadSize)]
  · rw [feed_widePieces]

end TunnelRelay.Http
