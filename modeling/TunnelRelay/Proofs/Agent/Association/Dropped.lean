import TunnelRelay.Proofs.Agent.Association

/-!
# Datagrams that are dropped

A datagram that is not relayed should leave no trace. It leaves one in a single case: a whole
datagram of the client counts as the first one even if it names no host. All replies then go to
where that datagram came from, and not to where the first one came from that was relayed.
`dropped_spec` says when this happens and that nothing else does.
-/

namespace TunnelRelay.Association

variable {c : AgentContext} {client : Ip} {ins : List Input} {all all' : Associations}
  {a a' : Association} {e : Event} {es : List Event} {done effects : List AgentEffect}
  {sender : Endpoint} {b : Bytes}

/-! ## One datagram -/

/-- A datagram that is dropped changes at most the sender that is remembered, and that only if it is
the first whole datagram of the client. -/
theorem receive_of_parcel?_none (proxies : List ProxyAddress)
    (h : (Input.datagram sender b).parcel? a.client = none) :
    ∃ known, receive proxies sender b a = ({ a with sender := known }, []) ∧
      (known = a.sender ↔
        (Input.datagram sender b).whole? a.client = none ∨ a.sender ≠ none) := by
  cases hwhole : (Input.datagram sender b).whole? a.client with
  | none => exact ⟨a.sender, receive_of_whole?_none hwhole, by simp⟩
  | some whole =>
    obtain ⟨dest, d⟩ := whole
    obtain ⟨rfl, hreceive⟩ := receive_of_whole? proxies hwhole
    have hparcel : parcelOf d = none := by simpa [Input.parcel?, hwhole] using h
    refine ⟨a.sender.or (some dest), by rw [hreceive, hparcel], ?_⟩
    cases a.sender <;> simp

/-! ## Where replies go -/

/-- A step leaves alone whom the association answers, and no reply is new. -/
structure Silent (a a' : Association) (effects : List AgentEffect) : Prop where
  client : a'.client = a.client
  sender : a'.sender = a.sender
  replies : ∀ x ∈ AgentEffect.datagrams effects ++ a'.inbound.pending, x ∈ a.inbound.pending

theorem silent_idle (a : Association) : Silent a a [] := ⟨rfl, rfl, fun _ hx => hx⟩

theorem silent_endOutbound (a : Association) : Silent a a.endOutbound.1 a.endOutbound.2 := by
  refine ⟨rfl, rfl, ?_⟩
  unfold endOutbound
  split <;> exact fun x hx => hx

theorem silent_forward (proxies : List ProxyAddress) (p : Parcel) (a : Association) :
    Silent a (forward proxies p a).1 (forward proxies p a).2 := by
  unfold forward
  split
  · exact ⟨rfl, rfl, fun x hx => hx⟩
  split
  · exact silent_endOutbound a
  · exact ⟨rfl, rfl, fun x hx => hx⟩

/-- What a step with the inputs `ins` does to whom an association answers: the first sender is
captured, and a reply was on its way or goes to the sender that is captured. -/
structure Recalls (a : Association) (ins : List Input) (a' : Association)
    (effects : List AgentEffect) : Prop where
  client : a'.client = a.client
  sender : a'.sender = a.sender.or (captured a.client ins)
  replies : ∀ x ∈ AgentEffect.datagrams effects ++ a'.inbound.pending,
    x ∈ a.inbound.pending ∨ a.sender = some x.1

theorem Silent.recalls (h : Silent a a' effects) (hcaptured : captured a.client ins = none) :
    Recalls a ins a' effects where
  client := h.client
  sender := by rw [h.sender, hcaptured, Option.or_none]
  replies x hx := .inl (h.replies x hx)

theorem recalls_receive (proxies : List ProxyAddress) (sender : Endpoint) (b : Bytes)
    (a : Association) :
    Recalls a [.datagram sender b] (receive proxies sender b a).1
      (receive proxies sender b a).2 := by
  cases hwhole : (Input.datagram sender b).whole? a.client with
  | none =>
    rw [receive_of_whole?_none hwhole]
    exact (silent_idle a).recalls (by simp [captured, hwhole])
  | some whole =>
    obtain ⟨dest, d⟩ := whole
    obtain ⟨rfl, hreceive⟩ := receive_of_whole? proxies hwhole
    have hcaptured : captured a.client [.datagram dest b] = some dest := by
      simp [captured, hwhole]
    rw [hreceive]
    cases parcelOf d with
    | none => exact ⟨rfl, by rw [hcaptured], fun x hx => .inl hx⟩
    | some p =>
      have hforward := silent_forward proxies p
        { a with sender := a.sender.or (some dest), recipient := some p.target }
      exact ⟨hforward.client, by rw [hforward.sender, hcaptured],
        fun x hx => .inl (hforward.replies x hx)⟩

theorem recalls_deliver (r : Received ProxyKind) (a : Association) :
    Recalls a (Event.received r).input?.toList (a.deliver r) [] := by
  have hended : Silent a (close { a with inbound := .ended }) [] := ⟨rfl, rfl, nofun⟩
  cases r with
  | ended => exact hended.recalls rfl
  | failed error => exact hended.recalls rfl
  | body m =>
    have hcaptured : captured a.client [.message m] = none := rfl
    change Recalls a [.message m] (a.deliver (.body m)) []
    by_cases hm : m.kind = .okUdp
    · cases hsender : a.sender with
      | none =>
        simp only [deliver, hm, hsender]
        exact (silent_idle a).recalls hcaptured
      | some dest =>
        simp only [deliver, hm, hsender]
        refine ⟨rfl, by rw [hsender, hcaptured]; rfl, fun x hx => .inr ?_⟩
        obtain rfl := List.mem_singleton.mp hx
        exact hsender
    · by_cases hbeat : m.kind = .heartbeat
      · simp only [deliver, hbeat]
        exact (silent_idle a).recalls hcaptured
      · rw [deliver_of_other hbeat hm]
        exact hended.recalls hcaptured

/-- Only what comes in can change whom the association answers. -/
theorem silent_of_step (hdatagram : ∀ sender b, e ≠ .datagram sender b)
    (hreceived : ∀ r, e ≠ .received r) (hstep : a.step c all e = some (all', a', effects)) :
    Silent a a' effects := by
  unfold step at hstep
  split at hstep
  · cases hstep
  cases e with
  | datagram sender b => exact absurd rfl (hdatagram sender b)
  | received r => exact absurd rfl (hreceived r)
  | receiveFailed | outboundClosed =>
    obtain ⟨-, hstep⟩ := Option.ite_none_right_eq_some.mp hstep
    cases hstep
    exact silent_endOutbound a
  | tried accepted =>
    simp only at hstep
    split at hstep
    · cases accepted with
      | true =>
        cases hstep
        exact ⟨rfl, rfl, nofun⟩
      | false =>
        simp only [Bool.false_eq_true, if_false] at hstep
        split at hstep
        · cases hstep
          exact silent_endOutbound a
        · cases hstep
          exact ⟨rfl, rfl, fun x hx => hx⟩
    · cases hstep
  | sent id outcome =>
    simp only at hstep
    split at hstep
    · split at hstep
      · cases hstep
        refine ⟨rfl, rfl, ?_⟩
        rw [AgentEffect.datagrams_map_message]
        exact fun x hx => hx
      · cases hstep
        have hend := silent_endOutbound a
        refine ⟨rfl, rfl, ?_⟩
        rw [AgentEffect.datagrams_append, AgentEffect.datagrams_map_message]
        exact hend.replies
    · cases hstep
  | delivered success =>
    simp only at hstep
    split at hstep
    · rename_i dest b hdelivering
      cases success with
      | true =>
        cases hstep
        refine ⟨rfl, rfl, ?_⟩
        rw [hdelivering]
        exact fun x hx => hx
      | false =>
        cases hstep
        exact ⟨rfl, rfl, nofun⟩
    · cases hstep
  | inboundClosed =>
    obtain ⟨-, hstep⟩ := Option.ite_none_right_eq_some.mp hstep
    cases hstep
    exact ⟨rfl, rfl, nofun⟩
  | chatter | disconnected | unwatched | finished =>
    obtain ⟨-, hstep⟩ := Option.ite_none_right_eq_some.mp hstep
    cases hstep
    exact ⟨rfl, rfl, fun x hx => hx⟩

/-- **A step answers whom the association has captured.** -/
theorem recalls_of_step (hstep : a.step c all e = some (all', a', effects)) :
    Recalls a e.input?.toList a' effects := by
  have hopen := hstep
  unfold step at hopen
  split at hopen
  · cases hopen
  cases e with
  | datagram sender b =>
    obtain ⟨-, hopen⟩ := Option.ite_none_right_eq_some.mp hopen
    obtain ⟨-, hreceive⟩ := Prod.mk.inj (Option.some.inj hopen)
    have hrecalls := recalls_receive c.proxies sender b a
    rwa [hreceive] at hrecalls
  | received r =>
    obtain ⟨-, hopen⟩ := Option.ite_none_right_eq_some.mp hopen
    cases hopen
    exact recalls_deliver r a
  | _ => exact (silent_of_step (by simp) (by simp) hstep).recalls rfl

/-! ## Whole runs -/

/-- What an association goes through, whether or not what it puts out is taken, and whatever others
do to the registry. -/
inductive Goes (c : AgentContext) (a₀ : Association) :
    List Event → Association → List AgentEffect → Prop
  | refl : Goes c a₀ [] a₀ []
  | step {es : List Event} {e : Event} {all all' : Associations} {a a' : Association}
    {done effects : List AgentEffect} : Goes c a₀ es a done →
      a.step c all e = some (all', a', effects) → Goes c a₀ (es ++ [e]) a' (done ++ effects)

/-- Whom an association answers after what has come in. -/
structure Answers (client : Ip) (ins : List Input) (a : Association) (done : List AgentEffect) :
    Prop where
  client_eq : a.client = client
  sender : a.sender = captured client ins
  replies : ∀ x ∈ AgentEffect.datagrams done ++ a.inbound.pending, captured client ins = some x.1

/-- A step keeps it: the sender that has been captured stays. -/
theorem Answers.step {ins' : List Input} (h : Answers client ins a done)
    (hstep : Recalls a ins' a' effects) : Answers client (ins ++ ins') a' (done ++ effects) where
  client_eq := hstep.client.trans h.client_eq
  sender := by rw [hstep.sender, h.sender, h.client_eq, captured_append]
  replies x hx := by
    rw [AgentEffect.datagrams_append, List.append_assoc, List.mem_append] at hx
    rcases hx with hx | hx
    · exact captured_append_of_some (h.replies x (List.mem_append_left _ hx)) ins'
    · rcases hstep.replies x hx with hpending | hsender
      · exact captured_append_of_some (h.replies x (List.mem_append_right _ hpending)) ins'
      · exact captured_append_of_some (h.sender ▸ hsender) ins'

/-- **All replies go to where the first whole datagram came from**, whatever happens. -/
theorem Goes.answers {id : String} {l : Lifecycle} (h : Goes c (start id client l) es a done) :
    Answers client (inputs es) a done := by
  induction h with
  | refl => exact ⟨rfl, rfl, nofun⟩
  | @step es e _ _ _ _ _ _ _ hstep ih =>
    rw [inputs_append, inputs_singleton]
    exact ih.step (recalls_of_step hstep)

/-- The sender of a datagram that is relayed. -/
def Input.relayed? (client : Ip) (i : Input) : Option Endpoint :=
  (i.whole? client).bind fun (sender, d) => (parcelOf d).map fun _ => sender

/-- Where the first datagram came from that is relayed. -/
def relayedFrom (client : Ip) (ins : List Input) : Option Endpoint :=
  ins.findSome? (Input.relayed? client)

/-- Before the first datagram that is relayed no whole one comes that names no host. -/
def HostFirst (client : Ip) (ins : List Input) : Prop :=
  ∀ before i after, ins = before ++ i :: after → parcels client before = [] →
    i.whole? client ≠ none → i.parcel? client ≠ none

/-- Then the sender that is captured is that of the first datagram that is relayed. -/
theorem HostFirst.captured_eq (h : HostFirst client ins) :
    captured client ins = relayedFrom client ins := by
  induction ins with
  | nil => rfl
  | cons i ins ih =>
    unfold captured relayedFrom at *
    rw [List.findSome?_cons, List.findSome?_cons]
    cases hwhole : i.whole? client with
    | none =>
      have hrest : HostFirst client ins := by
        rintro before j after rfl hnone
        refine h (i :: before) j after rfl ?_
        rw [parcels, List.filterMap_cons, Input.parcel?, hwhole]
        exact hnone
      rw [Input.relayed?, hwhole]
      exact ih hrest
    | some whole =>
      obtain ⟨sender, d⟩ := whole
      have hparcel := h [] i ins rfl rfl (by simp [hwhole])
      rw [Input.parcel?, hwhole, Option.bind_some, Option.ne_none_iff_exists'] at hparcel
      obtain ⟨p, hp⟩ := hparcel
      simp only [Input.relayed?, hwhole, Option.bind_some, hp, Option.map_some]

/-- What the datagrams that are dropped leave of an association of a client. -/
structure Drops (c : AgentContext) (client : Ip) : Prop where
  /-- Where a datagram is not relayed, the recipient, the tunnel and all else are as before, and
  nothing is done. The sender is as before too, unless the datagram is whole and the first of those,
  and names no host. -/
  one : ∀ {all all' : Associations} {a a' : Association} {effects sender b},
    a.step c all (.datagram sender b) = some (all', a', effects) →
      (Input.datagram sender b).parcel? a.client = none →
        all' = all ∧ effects = [] ∧ (∃ known, a' = { a with sender := known }) ∧
          (a' = a ↔ (Input.datagram sender b).whole? a.client = none ∨ a.sender ≠ none)
  /-- All replies go to one address. It is that of the first datagram that was relayed just if that
  is where the first whole datagram came from. -/
  replies : ∀ {id l es a done}, Goes c (start id client l) es a done →
    (∀ x ∈ AgentEffect.datagrams done, captured client (inputs es) = some x.1) ∧
      ((∀ x ∈ AgentEffect.datagrams done, relayedFrom client (inputs es) = some x.1) ↔
        AgentEffect.datagrams done = [] ∨
          captured client (inputs es) = relayedFrom client (inputs es))
  /-- So it is if no whole datagram that names no host comes before. -/
  hostFirst : ∀ {ins}, HostFirst client ins → captured client ins = relayedFrom client ins

/-- **A dropped datagram leaves an association as it was**, unless it is whole and the first of
those, and names no host. -/
theorem dropped_spec (c : AgentContext) (client : Ip) : Drops c client where
  one {all all' a a' effects sender b} hstep hdropped := by
    unfold step at hstep
    split at hstep
    · cases hstep
    obtain ⟨-, hstep⟩ := Option.ite_none_right_eq_some.mp hstep
    obtain ⟨known, hreceive, hknown⟩ := receive_of_parcel?_none c.proxies hdropped
    rw [hreceive] at hstep
    cases hstep
    refine ⟨rfl, rfl, ⟨known, rfl⟩, ?_⟩
    rw [← hknown]
    exact ⟨congrArg Association.sender, fun h => by rw [h]⟩
  replies {id l es a done} h := by
    have hanswers := h.answers
    have hall : ∀ x ∈ AgentEffect.datagrams done, captured client (inputs es) = some x.1 :=
      fun x hx => hanswers.replies x (List.mem_append_left _ hx)
    refine ⟨hall, fun hrelayed => ?_, ?_⟩
    · cases hdone : AgentEffect.datagrams done with
      | nil => exact .inl rfl
      | cons x xs =>
        have hx : x ∈ AgentEffect.datagrams done := by simp [hdone]
        exact .inr ((hall x hx).trans (hrelayed x hx).symm)
    · rintro (hnone | heq) x hx
      · simp [hnone] at hx
      · rw [← heq]
        exact hall x hx
  hostFirst h := h.captured_eq

/-- Another address of the client on the machine of the agent. -/
def otherSender : Endpoint := ⟨.v4 ⟨127, 0, 0, 1⟩, 12⟩

/-- A whole datagram for a domain name that is not UTF-8. -/
def nameless : Bytes := [0, 0, 0, 3, 2, 0xff, 0xfe, 0, 53, 1]

/-- It comes before a datagram that is relayed and the echo of that one. -/
def misled : List Input := .datagram otherSender nameless :: echoed

/-- The echo goes to where the datagram came from that was dropped. -/
theorem nameless_captures :
    (Input.datagram otherSender nameless).parcel? localLink.client.ip = none ∧
      (granted localLink).step oneProxy .empty (.datagram otherSender nameless) =
        some (.empty, { granted localLink with sender := some otherSender }, []) ∧
      relayedFrom localLink.client.ip misled = some localSender ∧ localSender ≠ otherSender ∧
      ∃ es a done, Goes oneProxy (granted localLink) es a done ∧ inputs es = misled ∧
        AgentEffect.datagrams done = [(otherSender, (reply echo).toBytes)] := by
  have hsent : (granted localLink).step oneProxy .empty (.datagram otherSender nameless) =
      some (.empty, { granted localLink with sender := some otherSender }, []) := by rfl
  refine ⟨by decide +kernel, hsent, by decide +kernel, by decide, ?_⟩
  let a₁ : Association := { granted localLink with sender := some otherSender }
  let p : Parcel := ⟨⟨"127.0.0.1", 53⟩, [1]⟩
  let a₂ := { a₁ with recipient := some p.target, outbound := .choosing oneProxy.proxies p }
  let a₃ := { a₂ with outbound := .sending p, inbound := .reading }
  let a₄ := { a₃ with outbound := .reading }
  let a₅ := { a₄ with inbound := .delivering otherSender (reply echo).toBytes }
  have hrelayed : a₁.step oneProxy .empty
      (.datagram localSender [0, 0, 0, 1, 127, 0, 0, 1, 0, 53, 1]) = some (.empty, a₂, []) := by rfl
  have htried : a₂.step oneProxy .empty (.tried true) = some (.empty, a₃, [.tunnel "a"]) := by rfl
  have hmessage : a₃.step oneProxy .empty (.sent "1" .done) =
      some (.empty, a₄, [.message (.udpData "1" "user" "127.0.0.1" 53 [1])]) := by rfl
  have hreply : a₄.step oneProxy .empty (.received (.body echo)) = some (.empty, a₅, []) := by rfl
  have hback : a₅.step oneProxy .empty (.delivered true) =
      some (.empty, a₄, [.datagram otherSender (reply echo).toBytes]) := by rfl
  have hgoes : Goes oneProxy (granted localLink) [.datagram otherSender nameless,
      .datagram localSender [0, 0, 0, 1, 127, 0, 0, 1, 0, 53, 1], .tried true, .sent "1" .done,
      .received (.body echo), .delivered true] a₄ [.tunnel "a",
        .message (.udpData "1" "user" "127.0.0.1" 53 [1]),
        .datagram otherSender (reply echo).toBytes] :=
    Goes.refl.step hsent |>.step hrelayed |>.step htried |>.step hmessage |>.step hreply
      |>.step hback
  exact ⟨_, _, _, hgoes, rfl, rfl⟩

end TunnelRelay.Association
