import TunnelRelay.Proofs.Http.Due

/-!
# Where requests and their bodies end

A request is a head and as many octets of body as that declares. Requests one after the other are
found again as they were sent, whatever pieces their stream comes in: each head with its own octets,
and behind it the body in pieces of a limited size. Of any other stream too, what has been found of
a body and what is still due are always as much as the last head has declared.
-/

namespace TunnelRelay.Http

/-- A request as a client sends it. -/
structure Message where
  front : Bytes
  head : Head
  body : Bytes
  isHead : Http.head front = .complete head []
  isShort : front.length ≤ maxHeadSize
  isPlain : head.isChunked = false ∧ head.isConnect = false
  declares : head.declaredLength = .ok body.length

namespace Message

/-- What is found of the head. -/
def request (m : Message) : Request := ⟨m.head, m.body.length, false⟩

/-- The octets of requests one after the other. -/
def stream (ms : List Message) : Bytes := ms.flatMap fun m => m.front ++ m.body

theorem request_head (m : Message) : m.head.request = .ok m.request := by
  simp only [Head.request, m.isPlain.1, m.isPlain.2, m.declares]
  rfl

/-- The request as it stands in a stream. -/
def entry (m : Message) : Entry :=
  ⟨m.front, m.request, m.body, m.isHead, m.request_head, m.isShort⟩

theorem stream_eq (ms : List Message) : stream ms = Entry.stream (ms.map entry) := by
  rw [stream, Entry.stream, List.flatMap_map]
  rfl

end Message

/-! ## What is found of requests -/

/-- What is found of a body in pieces. -/
def bodies (pieces : List Bytes) : List Found := pieces.map fun b => ⟨.body b, b⟩

/-- These are pieces of the body: none is empty, and none is longer than `size` octets, or than one
octet. -/
def Cuts (size : Nat) (body : Bytes) (pieces : List Bytes) : Prop :=
  pieces.flatten = body ∧ ∀ b ∈ pieces, b ≠ [] ∧ b.length ≤ max size 1

/-- What is to be found of requests: of each its head, and then its body in pieces. -/
inductive Finds (size : Nat) : List Message → List Found → Prop
  | nil : Finds size [] []
  | cons {m : Message} {ms : List Message} {pieces : List Bytes} {found : List Found} :
    Cuts size m.body pieces → Finds size ms found →
    Finds size (m :: ms) (⟨.head m.request, m.front⟩ :: bodies pieces ++ found)

/-- What is to be found when `rest` is due of a body and the requests come after it. -/
def Owed (size : Nat) (rest : Bytes) (ms : List Message) (found : List Found) : Prop :=
  ∃ pieces later, Cuts size rest pieces ∧ Finds size ms later ∧ found = bodies pieces ++ later

variable {size : Nat} {s t : Inbound} {f : Frame} {b unread rest : Bytes} {m : Message}
  {ms : List Message} {found : List Found}

theorem cuts_nil : Cuts size [] [] := ⟨rfl, fun _ hb => absurd hb List.not_mem_nil⟩

theorem Finds.owed (h : Finds size ms found) : Owed size [] ms found :=
  ⟨[], found, cuts_nil, h, rfl⟩

theorem Owed.body (h : Owed size rest ms found) (hne : b ≠ []) (hsize : b.length ≤ max size 1) :
    Owed size (b ++ rest) ms (⟨.body b, b⟩ :: found) := by
  obtain ⟨pieces, later, ⟨rfl, hpieces⟩, hlater, rfl⟩ := h
  refine ⟨b :: pieces, later, ⟨rfl, ?_⟩, hlater, rfl⟩
  intro b' hb'
  rcases List.mem_cons.mp hb' with rfl | hb'
  · exact ⟨hne, hsize⟩
  · exact hpieces b' hb'

theorem Owed.head (h : Owed size m.body ms found) :
    Owed size [] (m :: ms) (⟨.head m.request, m.front⟩ :: found) := by
  obtain ⟨pieces, later, hpieces, hlater, rfl⟩ := h
  exact (Finds.cons hpieces hlater).owed

/-- Where nothing more is due, nothing more is found. -/
theorem Owed.finds (h : Owed size [] ms found) : Finds size ms found := by
  obtain ⟨pieces, later, ⟨hflatten, hpieces⟩, hlater, rfl⟩ := h
  cases pieces with
  | nil => exact hlater
  | cons b pieces =>
    rw [List.flatten_cons] at hflatten
    exact absurd (List.append_eq_nil_iff.mp hflatten).1 (hpieces b List.mem_cons_self).1

/-! ## All pieces of a stream -/

/-- What is found is what is due. -/
theorem find_due (h : Due s unread rest (ms.map Message.entry))
    (hnext : next size s = (.ok (some f), t)) :
    ∃ rest' ms', Due t unread rest' (ms'.map Message.entry) ∧
      ∀ found, Owed size rest' ms' found → Owed size rest ms (⟨f, s.taken t⟩ :: found) := by
  have hcontinues := h.continues size
  rw [hnext] at hcontinues
  cases hcontinues with
  | @piece b rest' _ hrest hne hsize hbuffer hdue =>
    refine ⟨rest', ms, hdue, ?_⟩
    intro found howed
    rw [hrest, Inbound.taken_eq hbuffer]
    exact howed.body hne hsize
  | head hrest hentries hbuffer hlength hoctets =>
    obtain ⟨m, ms', rfl, rfl, rfl⟩ := List.map_eq_cons_iff.mp hentries
    refine ⟨m.body, ms', ⟨hlength, hoctets⟩, ?_⟩
    intro found howed
    rw [hrest, Inbound.taken_eq hbuffer]
    exact howed.head

variable (size) in
/-- What a reader finds in the octets that it holds is what is due, and the rest stays due. -/
theorem drain_due (h : Due s unread rest (ms.map Message.entry)) :
    (drain size s).failure = none ∧
      ∃ rest' ms', Due (drain size s).rest unread rest' (ms'.map Message.entry) ∧
        ∀ found, Owed size rest' ms' found →
          Owed size rest ms ((drain size s).found ++ found) := by
  refine drain_induction (motive := fun s r => ∀ rest ms, Due s unread rest (ms.map Message.entry) →
    r.failure = none ∧ ∃ rest' ms', Due r.rest unread rest' (ms'.map Message.entry) ∧
      ∀ found, Owed size rest' ms' found → Owed size rest ms (r.found ++ found)) ?_ ?_ s rest ms h
  · intro s failure hstops rest ms h
    exact ⟨(h.stop hstops).1, rest, ms, h, fun _ howed => howed⟩
  · rintro s f t r hnext ih rest ms h
    obtain ⟨rest₁, ms₁, hdue, hfind⟩ := find_due h hnext
    obtain ⟨hfailure, rest', ms', hdue', howed⟩ := ih rest₁ ms₁ hdue
    exact ⟨hfailure, rest', ms', hdue', fun found h' => hfind _ (howed found h')⟩

variable (size) in
/-- Pieces of a stream of requests are read as these requests. -/
theorem feed_due (pieces : List Bytes) (hs : Stops s none)
    (h : Due s pieces.flatten rest (ms.map Message.entry)) :
    (feed size s pieces).failure = none ∧ (feed size s pieces).rest = .empty ∧
      Owed size rest ms (feed size s pieces).found := by
  -- what is due before a piece is found in it or due after it
  induction pieces generalizing s rest ms with
  | nil =>
    obtain ⟨rfl, hms⟩ := (h.stop hs).2 rfl
    obtain rfl := List.map_eq_nil_iff.mp hms
    obtain ⟨hbody, hoctets⟩ := h
    rw [List.flatten_nil, List.append_nil] at hoctets
    refine ⟨rfl, ?_, Finds.nil.owed⟩
    show s = ⟨[], 0⟩
    cases s
    cases hoctets
    cases hbody
    rfl
  | cons b pieces ih =>
    rw [List.flatten_cons] at h
    obtain ⟨hfailure, rest', ms', hdue, howed⟩ := drain_due size h.push
    obtain ⟨hnone, hrest, hlater⟩ := ih (waits_of_drain hfailure) hdue
    rw [feed_cons hfailure]
    exact ⟨hnone, hrest, howed _ hlater⟩

/-! ## Accounts -/

/-- What a body comes to: how long it is to be, and how much of it has been found. -/
structure Account where
  declared : Nat
  delivered : Nat
  deriving DecidableEq, Repr

/-- The account when a frame has been found. -/
def Account.enter (a : Account) : Frame → Account
  | .head q => ⟨q.contentLength, 0⟩
  | .body b => ⟨a.declared, a.delivered + b.length⟩

/-- The account of the body behind the last head that has been found. -/
def account (found : List Found) : Account := found.foldl (fun a x => a.enter x.frame) ⟨0, 0⟩

theorem account_append (found : List Found) (x : Found) :
    account (found ++ [x]) = (account found).enter x.frame := by
  rw [account, account, List.foldl_append]
  rfl

/-- A number in eight octets can count a declared body. -/
theorem Head.contentLength_le {h : Head} {q : Request} (hq : h.request = .ok q) :
    q.contentLength ≤ Head.maxContentLength := by
  unfold Head.request at hq
  split at hq
  · cases hq
    exact Nat.zero_le _
  · cases hlength : h.declaredLength with
    | error e =>
      rw [hlength] at hq
      cases hq
    | ok n =>
      rw [hlength] at hq
      cases hq
      show n ≤ Head.maxContentLength
      unfold Head.declaredLength at hlength
      split at hlength
      · cases hlength
        exact Nat.zero_le _
      · split at hlength
        · rename_i hsome
          cases hlength
          obtain ⟨text, -, hunsigned⟩ := Option.bind_eq_some_iff.mp hsome
          exact Text.le_of_unsigned? hunsigned
        · cases hlength

/-- What has been found of a body and what is due of it are what its head has declared. -/
theorem Course.account_spec {read : Bytes} (h : Course size read found s) :
    (account found).delivered + s.bodyRemaining = (account found).declared ∧
      (account found).declared ≤ Head.maxContentLength := by
  induction h with
  | start => exact ⟨rfl, Nat.zero_le _⟩
  | push b _ ih => exact ih
  | askInVain _ hnext hnot ih => rwa [eq_of_next hnext hnot]
  | @ask _ found s t f _ hnext ih =>
    obtain ⟨hsum, hle⟩ := ih
    have hanswer := next_answers size s
    rw [hnext] at hanswer
    rw [account_append]
    cases hanswer with
    | piece _ _ _ hremaining =>
      refine ⟨?_, hle⟩
      simp only [Account.enter]
      omega
    | head _ _ hrequest _ _ hlength =>
      refine ⟨?_, Head.contentLength_le hrequest⟩
      simp only [Account.enter]
      omega

/-! ## Framing -/

/-- How a reader that finds at most `size` octets of a body at once frames a client's stream. -/
structure Framing (size : Nat) : Prop where
  /-- Requests are found as they were sent, in whatever pieces their stream comes. -/
  requests : ∀ (ms : List Message) (pieces : List Bytes), pieces.flatten = Message.stream ms →
    (feed size .empty pieces).failure = none ∧ (feed size .empty pieces).rest = .empty ∧
      Finds size ms (feed size .empty pieces).found
  /-- On any course what has been found of a body and what is due of it are what the last head has
  declared, which eight octets can count, and no octet of the stream is lost. -/
  account : ∀ (read : Bytes) (found : List Found) (s : Inbound), Course size read found s →
    (Http.account found).delivered + s.bodyRemaining = (Http.account found).declared ∧
      (Http.account found).declared ≤ Head.maxContentLength ∧ octets found ++ s.buffer = read
  /-- A question that is answered by a failure or by nothing takes nothing and changes nothing. -/
  inVain : ∀ (s t : Inbound) (answer : Except Error (Option Frame)), next size s = (answer, t) →
    (∀ f, answer ≠ .ok (some f)) → t = s

/-- **Requests are framed** by the lengths of their heads and by the lengths that these declare,
whatever pieces a stream comes in. -/
theorem requests_framed (size : Nat) : Framing size where
  requests ms pieces h := by
    have hdue : Due .empty pieces.flatten [] (ms.map Message.entry) :=
      ⟨rfl, h.trans (Message.stream_eq ms)⟩
    obtain ⟨hfailure, hrest, howed⟩ := feed_due size pieces stops_empty hdue
    exact ⟨hfailure, hrest, howed.finds⟩
  account read found s h := by
    obtain ⟨hsum, hle⟩ := h.account_spec
    exact ⟨hsum, hle, h.octets_append⟩
  inVain s t answer hnext hnot := eq_of_next hnext hnot

/-- A request with a body of five octets. -/
def greeting : Message where
  front := Bytes.ofText "POST / HTTP/1.1\r\nContent-Length: 5\r\n\r\n"
  head := ⟨Bytes.ofText "POST", "/", 1, [⟨Bytes.ofText "Content-Length", Bytes.ofText "5"⟩]⟩
  body := Bytes.ofText "hello"
  isHead := by decide +kernel
  isShort := by decide +kernel
  isPlain := by decide +kernel
  declares := by decide +kernel

/-- Two requests with bodies are framed, octet by octet, with two octets of a body at once. -/
theorem two_greetings_framed :
    let pieces := (Message.stream [greeting, greeting]).map fun x => [x]
    pieces.flatten = Message.stream [greeting, greeting] ∧ (feed 2 .empty pieces).failure = none ∧
      (feed 2 .empty pieces).rest = .empty ∧
        Finds 2 [greeting, greeting] (feed 2 .empty pieces).found := by
  intro pieces
  have hflatten : pieces.flatten = Message.stream [greeting, greeting] := by
    rw [← List.flatMap_def, List.flatMap_singleton']
  exact ⟨hflatten, (requests_framed 2).requests _ pieces hflatten⟩

end TunnelRelay.Http
