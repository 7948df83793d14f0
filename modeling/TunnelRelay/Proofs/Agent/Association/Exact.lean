import TunnelRelay.Proofs.Agent.Association.Account

/-!
# What an association does is exact

Every event keeps what an association has done exact, as long as what the association puts out in it
is taken: what comes in is accounted for when it is taken, and stays on its way until it is put out.
So whatever an association goes through is exact.
-/

namespace TunnelRelay.Association

/-! ## One event -/

variable {c : AgentContext} {user id : String} {client : Ip} {ins : List Input}
  {all all₀ all' : Associations} {a a₀ a' : Association} {e : Event} {es es' : List Event}
  {done effects : List AgentEffect} {ps : List Parcel} {p : Parcel} {outbound : Outbound}
  {inbound inbound' : Inbound}

namespace Sends

/-- What the leg to the client does is of no matter once there is a tunnel. -/
theorem of_tunnel (h : Sends user id ps done outbound inbound) (hin : inbound ≠ .absent)
    (hin' : inbound' ≠ .absent) : Sends user id ps done outbound inbound' := by
  cases h with
  | unopened h => exact absurd rfl hin
  | opening left p => exact absurd rfl hin
  | opened hms _ _ hout hsome => exact .opened hms hin' _ hout hsome

/-- There is a tunnel only where something is to be relayed. -/
theorem ne_nil (h : Sends user id ps done outbound inbound) (hin : inbound ≠ .absent) :
    ps ≠ [] := by
  cases h with
  | unopened h => exact absurd rfl hin
  | opening left p => exact absurd rfl hin
  | opened hms _ _ hout hsome => exact hsome

/-- Once something has been relayed there is a tunnel. -/
theorem inbound_ne_absent (h : Sends user id ps done .reading inbound) (hps : ps ≠ []) :
    inbound ≠ .absent := by
  cases h with
  | unopened h => exact absurd rfl hps
  | opened hms hin _ hout hsome => exact hin

/-- The leg to the proxy may end where nothing is on its way. -/
theorem end_reading (h : Sends user id ps done .reading inbound) :
    Sends user id ps done .ended inbound := by
  generalize hreading : Outbound.reading = outbound at h
  cases h with
  | unopened h => exact .unopened (.inr rfl)
  | opening left p => cases hreading
  | opened hms hin _ hout hsome =>
    subst hreading
    exact .opened hms hin .ended (by simp) hsome

/-- The first parcel waits for the tunnel. -/
theorem accept_first (h : Sends user id ps done .reading .absent) (left : List ProxyAddress)
    (p : Parcel) : Sends user id (ps ++ [p]) done (.choosing left p) .absent := by
  cases h with
  | unopened h => exact .opening left p
  | opened hms hin _ hout hsome => exact absurd rfl hin

/-- A later parcel is sent at once. -/
theorem accept_later (h : Sends user id ps done .reading inbound) (hin : inbound ≠ .absent)
    (p : Parcel) : Sends user id (ps ++ [p]) done (.sending p) inbound := by
  generalize hreading : Outbound.reading = outbound at h
  cases h with
  | unopened h => exact absurd rfl hin
  | opening left p => cases hreading
  | opened hms _ _ hout hsome =>
    subst hreading
    simp only [Outbound.pending, List.append_nil]
    exact .opened hms hin (.sending p) (by simp) (by simp [Outbound.pending])

/-- Only the first parcel waits for a tunnel. -/
theorem of_choosing {left : List ProxyAddress}
    (h : Sends user id ps done (.choosing left p) inbound) :
    ps = [p] ∧ done = [] ∧ inbound = .absent := by
  cases h with
  | unopened h => simp at h
  | opening left p => exact ⟨rfl, rfl, rfl⟩
  | opened hms hin _ hout hsome => exact absurd rfl (hout left p)

/-- Another proxy may be tried. -/
theorem retry {left : List ProxyAddress} (h : Sends user id ps done (.choosing left p) inbound)
    (left' : List ProxyAddress) : Sends user id ps done (.choosing left' p) inbound := by
  obtain ⟨rfl, rfl, rfl⟩ := h.of_choosing
  exact .opening left' p

/-- A proxy accepts the tunnel. -/
theorem tunnel {left : List ProxyAddress} (h : Sends user id ps done (.choosing left p) inbound) :
    Sends user id ps (done ++ [.tunnel id]) (.sending p) .reading := by
  obtain ⟨rfl, rfl, rfl⟩ := h.of_choosing
  exact .opened .nil (by simp) (.sending p) (by simp) (by simp [Outbound.pending])

/-- The message for a parcel enters the tunnel. -/
theorem sent {m : Body AgentKind} (h : Sends user id ps done (.sending p) inbound)
    (hm : Carries user m p) : Sends user id ps (done ++ [.message m]) .reading inbound := by
  generalize hsending : Outbound.sending p = outbound at h
  cases h with
  | unopened h => simp [← hsending] at h
  | opening left p => cases hsending
  | @opened sent ms _ hms hin _ hout hsome =>
    subst hsending
    have hms' : List.Forall₂ (Carries user) (ms ++ [m]) (sent ++ [p]) :=
      List.rel_append hms (.cons hm .nil)
    have hopened : Sends user id _ _ _ inbound := .opened hms' hin .reading (by simp) (by simp)
    simpa [Outbound.pending] using hopened

end Sends

/-! ### Datagrams of the client -/

/-- A datagram that is not whole, or not the client's, is dropped. -/
theorem receive_of_whole?_none {proxies : List ProxyAddress} {sender : Endpoint} {b : Bytes}
    (h : (Input.datagram sender b).whole? a.client = none) :
    receive proxies sender b a = (a, []) := by
  simp only [Input.whole?] at h
  simp only [receive]
  split
  · rfl
  · rename_i hip
    cases hd : Socks.Datagram.ofBytes? b with
    | error error => rfl
    | ok d =>
      rw [hd] at h
      by_cases hfragment : d.fragment = 0
      · simp [hfragment, not_not.mp hip] at h
      · simp only [if_pos hfragment]

/-- What a whole datagram of the client leads to. -/
theorem receive_of_whole? (proxies : List ProxyAddress) {sender : Endpoint} {b : Bytes}
    {dest : Endpoint} {d : Socks.Datagram}
    (h : (Input.datagram sender b).whole? a.client = some (dest, d)) :
    dest = sender ∧ receive proxies sender b a =
      match parcelOf d with
      | none => ({ a with sender := a.sender.or (some sender) }, [])
      | some p =>
        forward proxies p
          { a with sender := a.sender.or (some sender), recipient := some p.target } := by
  simp only [Input.whole?] at h
  cases hd : Socks.Datagram.ofBytes? b with
  | error error => simp [hd] at h
  | ok d' =>
    simp only [hd] at h
    split at h
    · rename_i hwhole
      cases h
      refine ⟨rfl, ?_⟩
      rw [receive, if_neg (not_not.mpr hwhole.1), hd]
      simp only [parcelOf]
      rw [if_neg (not_not.mpr hwhole.2)]
      cases d.address.hostText <;> rfl
    · cases h

/-- A datagram may change whom the association remembers, and may go on its way. -/
theorem receive_or_forward (proxies : List ProxyAddress) (sender : Endpoint) (b : Bytes)
    (a : Association) :
    ∃ known recipient, receive proxies sender b a = ({ a with sender := known, recipient }, []) ∨
        ∃ p, receive proxies sender b a =
          forward proxies p { a with sender := known, recipient } := by
  cases hwhole : (Input.datagram sender b).whole? a.client with
  | none => exact ⟨a.sender, a.recipient, .inl (receive_of_whole?_none hwhole)⟩
  | some whole =>
    obtain ⟨-, hreceive⟩ := receive_of_whole? proxies hwhole
    cases hparcel : parcelOf whole.2 with
    | none => exact ⟨_, _, .inl (by rw [hreceive, hparcel])⟩
    | some p => exact ⟨_, _, .inr ⟨p, by rw [hreceive, hparcel]⟩⟩

/-- A message that is neither a heartbeat nor carries a datagram ends the association. -/
theorem deliver_of_other {m : Body ProxyKind} (hbeat : m.kind ≠ .heartbeat) (hm : m.kind ≠ .okUdp)
    (a : Association) : a.deliver (.body m) = close { a with inbound := .ended } := by
  simp only [deliver]

/-- What is to be relayed goes on its way. -/
theorem Sends.forward {proxies : List ProxyAddress} (hproxies : proxies ≠ [])
    (h : Sends user id ps done a.outbound a.inbound) (hreading : a.outbound = .reading)
    (p : Parcel) :
    ∃ outbound, Association.forward proxies p a = ({ a with outbound }, []) ∧
      Sends user id (ps ++ [p]) done outbound a.inbound := by
  rw [hreading] at h
  by_cases hin : a.inbound = .absent
  · rw [Association.forward, if_neg (not_not.mpr hin), if_neg hproxies]
    rw [hin] at h ⊢
    exact ⟨_, rfl, h.accept_first proxies p⟩
  · rw [Association.forward, if_pos hin]
    exact ⟨_, rfl, h.accept_later hin p⟩

namespace Exact

theorem start (user id : String) (client : Ip) :
    Exact user id client [] (Association.start id client ⟨.established, false⟩) [] :=
  ⟨rfl, rfl, .inl rfl, rfl, .unopened (.inl rfl), .nil⟩

/-- Nothing has come in, and what is on its way to the client has not become more or less. -/
theorem quiet (h : Exact user id client ins a done) (hid : a'.id = a.id)
    (hclient : a'.client = a.client) (hsender : a'.sender = a.sender)
    (hlifecycle : a'.lifecycle = a.lifecycle ∨ a'.lifecycle = a.lifecycle.close.2)
    (hup : Sends user id (parcels client ins)
      (done.filter AgentEffect.isUpward ++ effects.filter AgentEffect.isUpward) a'.outbound
      a'.inbound)
    (hdown : AgentEffect.datagrams effects ++ a'.inbound.pending = a.inbound.pending) :
    Exact user id client ins a' (done ++ effects) where
  id_eq := hid.trans h.id_eq
  client_eq := hclient.trans h.client_eq
  lifecycle := by
    rcases hlifecycle with heq | heq
    · rw [heq]
      exact h.lifecycle
    · rw [heq]
      rcases h.lifecycle with hopen | hclosed
      · exact .inr (by rw [hopen]; rfl)
      · exact .inr (by rw [hclosed]; rfl)
  sender := hsender.trans h.sender
  up := by
    rw [List.filter_append]
    exact hup
  down := by
    rw [AgentEffect.datagrams_append, List.append_assoc, hdown]
    exact h.down

/-- The lifecycle is closed, and no leg does anything. -/
theorem closes (h : Exact user id client ins a done) (outbound : Outbound) (inbound : Inbound)
    (hup : Sends user id (parcels client ins) (done.filter AgentEffect.isUpward) outbound inbound)
    (hdown : inbound.pending = a.inbound.pending) (watching isOver : Bool) :
    Exact user id client ins (close { a with outbound, inbound, watching, isOver }) done := by
  have hquiet : Exact user id client ins
      (close { a with outbound, inbound, watching, isOver }) (done ++ []) :=
    h.quiet rfl rfl rfl (.inr rfl) (by simpa [close] using hup) hdown
  rwa [List.append_nil] at hquiet

theorem endOutbound (h : Exact user id client ins a done) (hreading : a.outbound = .reading) :
    Exact user id client ins a.endOutbound.1 (done ++ a.endOutbound.2) := by
  refine h.quiet rfl rfl rfl (.inr rfl) ?_ ?_
  · have hup := h.up
    rw [hreading] at hup
    simp only [Association.endOutbound]
    split <;> simpa [close, AgentEffect.isUpward] using hup.end_reading
  · simp only [Association.endOutbound]
    split <;> rfl

/-- A message that carries no datagram says nothing. -/
theorem message {m : Body ProxyKind} (h : Exact user id client ins a done) (hm : m.kind ≠ .okUdp) :
    Exact user id client (ins ++ [.message m]) a done := by
  have hcaptured : captured client (ins ++ [.message m]) = captured client ins := by
    rw [captured_append]
    exact Option.or_none
  refine ⟨h.id_eq, h.client_eq, h.lifecycle, hcaptured ▸ h.sender, ?_, ?_⟩
  · rw [parcels_append]
    exact (List.append_nil _).symm ▸ h.up
  · rw [hcaptured, replies_append]
    simpa [replies, Input.reply?, hm] using h.down

/-- A datagram that has come. -/
theorem receive {proxies : List ProxyAddress} (hproxies : proxies ≠ [])
    (h : Exact user id client ins a done) (hreading : a.outbound = .reading) (sender : Endpoint)
    (b : Bytes) :
    Exact user id client (ins ++ [.datagram sender b]) (receive proxies sender b a).1
      (done ++ (receive proxies sender b a).2) := by
  have hreplies : replies (ins ++ [.datagram sender b]) = replies ins := by
    rw [replies_append]
    exact List.append_nil _
  have hdown {dest : Option Endpoint}
      (hdest : ∀ x, captured client ins = some x → dest = some x) :
      List.Forall₂ (Returns dest) (AgentEffect.datagrams done ++ a.inbound.pending)
        (replies (ins ++ [.datagram sender b])) := by
    rw [hreplies]
    exact h.down.imp fun x m hx => ⟨hdest _ hx.1, hx.2⟩
  cases hwhole : (Input.datagram sender b).whole? client with
  | none =>
    have hcaptured : captured client (ins ++ [.datagram sender b]) = captured client ins := by
      rw [captured_append, captured, captured, List.findSome?_singleton, hwhole]
      exact Option.or_none
    have hparcels : parcels client (ins ++ [.datagram sender b]) = parcels client ins := by
      rw [parcels_append]
      simp [parcels, Input.parcel?, hwhole]
    rw [receive_of_whole?_none (by rw [h.client_eq, hwhole]), List.append_nil]
    exact ⟨h.id_eq, h.client_eq, h.lifecycle, hcaptured ▸ h.sender, hparcels ▸ h.up,
      hdown fun x hx => hcaptured.trans hx⟩
  | some whole =>
    obtain ⟨dest, d⟩ := whole
    obtain ⟨rfl, hreceive⟩ := receive_of_whole? proxies (by rw [h.client_eq, hwhole])
    have hcaptured : captured client (ins ++ [.datagram dest b]) = a.sender.or (some dest) := by
      rw [captured_append, h.sender, captured, captured, List.findSome?_singleton, hwhole]
      rfl
    have hparcels : parcels client (ins ++ [.datagram dest b]) =
        parcels client ins ++ (parcelOf d).toList := by
      rw [parcels_append]
      cases hparcel : parcelOf d <;> simp [parcels, Input.parcel?, hwhole, hparcel]
    have hmore := hdown fun x hx => captured_append_of_some hx [.datagram dest b]
    rw [hreceive]
    cases hparcel : parcelOf d with
    | none =>
      simp only [List.append_nil]
      rw [hparcel, Option.toList_none, List.append_nil] at hparcels
      exact ⟨h.id_eq, h.client_eq, h.lifecycle, hcaptured.symm, hparcels ▸ h.up, hmore⟩
    | some p =>
      obtain ⟨outbound, hforward, hup⟩ := Sends.forward
        (a := { a with sender := a.sender.or (some dest), recipient := some p.target }) hproxies
        h.up hreading p
      simp only [hforward, List.append_nil]
      rw [hparcel, Option.toList_some] at hparcels
      exact ⟨h.id_eq, h.client_eq, h.lifecycle, hcaptured.symm, hparcels ▸ hup, hmore⟩

/-- A message that carries a datagram. There is a tunnel, so there is an address to send it to. -/
theorem reply {m : Body ProxyKind} (h : Exact user id client ins a done)
    (hreading : a.inbound = .reading) (hm : m.kind = .okUdp) :
    Exact user id client (ins ++ [.message m]) (a.deliver (.body m)) done := by
  have htunnel : a.inbound ≠ .absent := by simp [hreading]
  obtain ⟨dest, hdest⟩ := Option.ne_none_iff_exists'.mp (captured_ne_none (h.up.ne_nil htunnel))
  have hcaptured := captured_append_of_some hdest [.message m]
  have hdeliver : a.deliver (.body m) = { a with
      inbound := .delivering dest (Association.reply m).toBytes } := by
    simp only [deliver, hm, h.sender, hdest]
    rfl
  have hsender : a.sender = captured client (ins ++ [.message m]) := by
    rw [h.sender, hdest, hcaptured]
  rw [hdeliver]
  refine ⟨h.id_eq, h.client_eq, h.lifecycle, hsender, ?_, ?_⟩
  · rw [parcels_append]
    exact (List.append_nil _).symm ▸ h.up.of_tunnel htunnel (by simp)
  · have hdown := h.down
    simp only [hreading, Inbound.pending, List.append_nil, hdest] at hdown
    have hreplies : replies [.message m] = [m] := by simp [replies, Input.reply?, hm]
    rw [replies_append, hreplies, hcaptured]
    exact List.rel_append hdown (.cons ⟨rfl, rfl⟩ .nil)

/-- The leg for the proxy's datagrams ends. -/
theorem end_inbound (h : Exact user id client ins a done) (hreading : a.inbound = .reading) :
    Exact user id client ins (close { a with inbound := .ended }) done := by
  have htunnel : a.inbound ≠ .absent := by simp [hreading]
  exact h.closes a.outbound .ended (h.up.of_tunnel htunnel (by simp)) (by rw [hreading]; rfl) _ _

/-- What has been read from the tunnel. -/
theorem deliver (h : Exact user id client ins a done) (hreading : a.inbound = .reading)
    (r : Received ProxyKind) :
    Exact user id client (ins ++ (Event.received r).input?.toList) (a.deliver r) done := by
  have hended := h.end_inbound hreading
  cases r with
  | ended => exact (List.append_nil ins).symm ▸ hended
  | failed error => exact (List.append_nil ins).symm ▸ hended
  | body m =>
    by_cases hm : m.kind = .okUdp
    · exact h.reply hreading hm
    · by_cases hbeat : m.kind = .heartbeat
      · simp only [Association.deliver, hbeat]
        exact h.message hm
      · rw [deliver_of_other hbeat hm]
        exact hended.message hm

/-- An event in which nothing comes in keeps it exact. -/
theorem step_other (hdatagram : ∀ sender b, e ≠ .datagram sender b)
    (hreceived : ∀ r, e ≠ .received r)
    (h : Exact c.userToken id client ins a done) (hworks : e.Works a)
    (hstep : a.step c all e = some (all', a', effects)) :
    Exact c.userToken id client ins a' (done ++ effects) := by
  have hup := h.up
  unfold Association.step at hstep
  split at hstep
  · cases hstep
  cases e with
  | datagram sender b => exact absurd rfl (hdatagram sender b)
  | received r => exact absurd rfl (hreceived r)
  | receiveFailed =>
    obtain ⟨hreading, hstep⟩ := Option.ite_none_right_eq_some.mp hstep
    cases hstep
    exact h.endOutbound hreading
  | outboundClosed =>
    obtain ⟨hreading, hstep⟩ := Option.ite_none_right_eq_some.mp hstep
    cases hstep
    exact h.endOutbound hreading
  | tried accepted =>
    simp only at hstep
    split at hstep
    · rename_i left p hchoosing
      rw [hchoosing] at hup
      cases accepted with
      | true =>
        cases hstep
        refine h.quiet rfl rfl rfl (.inl rfl) (h.id_eq ▸ hup.tunnel) ?_
        rw [hup.of_choosing.2.2]
        rfl
      | false =>
        simp only [Bool.false_eq_true, if_false, hworks left p hchoosing] at hstep
        cases hstep
        exact h.quiet rfl rfl rfl (.inl rfl) (by simpa using hup.retry left.tail) rfl
    · cases hstep
  | sent id outcome =>
    obtain rfl : outcome = .done := hworks
    simp only at hstep
    split at hstep
    · rename_i p hsending
      rw [hsending] at hup
      cases hstep
      exact h.quiet rfl rfl rfl (.inl rfl) (hup.sent rfl) rfl
    · cases hstep
  | delivered success =>
    obtain rfl : success = true := hworks
    simp only at hstep
    split at hstep
    · rename_i dest b hdelivering
      cases hstep
      refine h.quiet rfl rfl rfl (.inl rfl) ?_ (by rw [hdelivering]; rfl)
      simpa [AgentEffect.isUpward] using hup.of_tunnel (by simp [hdelivering]) (by simp)
    · cases hstep
  | inboundClosed =>
    obtain ⟨hreading, hstep⟩ := Option.ite_none_right_eq_some.mp hstep
    cases hstep
    exact (List.append_nil done).symm ▸ h.end_inbound hreading
  | chatter =>
    obtain ⟨-, hstep⟩ := Option.ite_none_right_eq_some.mp hstep
    cases hstep
    exact (List.append_nil done).symm ▸ h
  | disconnected =>
    obtain ⟨-, hstep⟩ := Option.ite_none_right_eq_some.mp hstep
    cases hstep
    exact (List.append_nil done).symm ▸ h.closes a.outbound a.inbound h.up rfl _ _
  | unwatched =>
    obtain ⟨-, hstep⟩ := Option.ite_none_right_eq_some.mp hstep
    cases hstep
    exact (List.append_nil done).symm ▸ h.closes a.outbound a.inbound h.up rfl _ _
  | finished =>
    obtain ⟨-, hstep⟩ := Option.ite_none_right_eq_some.mp hstep
    cases hstep
    exact (List.append_nil done).symm ▸ h.closes a.outbound a.inbound h.up rfl _ _

/-- **An event keeps it exact**, if what the association puts out in it is taken. -/
theorem step (hproxies : c.proxies ≠ []) (h : Exact c.userToken id client ins a done)
    (hworks : e.Works a) (hstep : a.step c all e = some (all', a', effects)) :
    Exact c.userToken id client (ins ++ e.input?.toList) a' (done ++ effects) := by
  have hopen := hstep
  unfold Association.step at hopen
  split at hopen
  · cases hopen
  cases e with
  | datagram sender b =>
    obtain ⟨hreading, hopen⟩ := Option.ite_none_right_eq_some.mp hopen
    simp only [Option.some.injEq, Prod.mk.injEq] at hopen
    simpa [Event.input?, hopen] using h.receive hproxies hreading sender b
  | received r =>
    obtain ⟨hreading, hopen⟩ := Option.ite_none_right_eq_some.mp hopen
    cases hopen
    exact (List.append_nil done).symm ▸ h.deliver hreading r
  | _ => exact (List.append_nil ins).symm ▸ h.step_other (by simp) (by simp) hworks hstep

end Exact

/-! ## Courses -/

theorem inputs_append (es es' : List Event) : inputs (es ++ es') = inputs es ++ inputs es' :=
  List.filterMap_append

theorem inputs_singleton (e : Event) : inputs [e] = e.input?.toList := by
  cases hin : e.input? <;> simp [inputs, hin]

namespace Course

theorem single (hworks : e.Works a) (hstep : a.step c all e = some (all', a', effects)) :
    Course c all a [e] all' a' effects :=
  .step .refl hworks hstep

theorem trans (h : Course c all₀ a₀ es all a done) (h' : Course c all a es' all' a' effects) :
    Course c all₀ a₀ (es ++ es') all' a' (done ++ effects) := by
  induction h' with
  | refl => simpa using h
  | step h' hworks hstep ih => simpa using ih.step hworks hstep

/-- What is being sent to the proxy is sent. -/
theorem exists_sent (hover : a.isOver = false) (hsending : a.outbound = .sending p)
    (c : AgentContext) (all : Associations) :
    ∃ effects, Course c all a [.sent "" .done] all { a with outbound := .reading } effects :=
  ⟨_, single rfl (by simp only [Association.step, visible, hover, hsending]; rfl)⟩

/-- Whatever comes in, and whenever, what is done is exact. -/
theorem exact (hproxies : c.proxies ≠ [])
    (h : Course c all₀ (start id client ⟨.established, false⟩) es all a done) :
    Exact c.userToken id client (inputs es) a done := by
  induction h with
  | refl => exact .start c.userToken id client
  | @step es e _ _ _ _ _ _ _ hworks hstep ih =>
    rw [inputs_append, inputs_singleton]
    exact ih.step hproxies hworks hstep

end Course

end TunnelRelay.Association
