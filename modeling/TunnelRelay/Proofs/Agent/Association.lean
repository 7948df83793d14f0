import TunnelRelay.Proofs.Agent.Association.Ending
import TunnelRelay.Proofs.Agent.Heartbeat
import TunnelRelay.Proofs.Socks.Datagram

/-!
# An association relays exactly

What an association has done is exact in whatever order datagrams and messages come in. It is also
never stuck: whatever is on its way can arrive, and then the next datagram or message is taken. A
message that has no place in an association ends it, and nothing more reaches the client.
-/

namespace TunnelRelay.Association

variable {c : AgentContext} {id : String} {client : Ip} {all all₀ all' : Associations}
  {a a₀ a' : Association} {e : Event} {es es' : List Event} {done effects : List AgentEffect}

/-! ## What is on its way arrives -/

/-- No leg has ended. -/
structure IsOpen (a : Association) : Prop where
  lifecycle : a.lifecycle = ⟨.established, false⟩
  outbound : a.outbound ≠ .ended
  inbound : a.inbound ≠ .ended
  isOver : a.isOver = false

/-- Nothing is on its way. -/
structure IsIdle (a : Association) : Prop where
  lifecycle : a.lifecycle = ⟨.established, false⟩
  outbound : a.outbound = .reading
  inbound : a.inbound = .absent ∨ a.inbound = .reading
  isOver : a.isOver = false

/-- What is on its way to the proxy arrives. -/
theorem IsOpen.exists_reading (h : a.IsOpen) (c : AgentContext) (all : Associations) :
    ∃ es a' effects, Course c all a es all a' effects ∧ inputs es = [] ∧ a'.IsOpen ∧
      a'.outbound = .reading := by
  cases hout : a.outbound with
  | reading => exact ⟨[], a, [], .refl, rfl, h, hout⟩
  | ended => exact absurd hout h.outbound
  | sending p =>
    obtain ⟨effects, hcourse⟩ := Course.exists_sent h.isOver hout c all
    exact ⟨_, _, effects, hcourse, rfl, ⟨h.lifecycle, by simp, h.inbound, h.isOver⟩, rfl⟩
  | choosing left p =>
    have htried : a.step c all (.tried true) =
        some (all, { a with outbound := .sending p, inbound := .reading }, [.tunnel a.id]) := by
      simp only [step, visible, h.isOver, hout]
      rfl
    obtain ⟨effects, hcourse⟩ := Course.exists_sent
      (a := { a with outbound := .sending p, inbound := .reading }) h.isOver rfl c all
    exact ⟨_, _, _, (Course.single (e := .tried true) trivial htried).trans hcourse, rfl,
      ⟨h.lifecycle, by simp, by simp, h.isOver⟩, rfl⟩

/-- Whatever is on its way arrives. -/
theorem IsOpen.exists_idle (h : a.IsOpen) (c : AgentContext) (all : Associations) :
    ∃ es a' effects, Course c all a es all a' effects ∧ inputs es = [] ∧ a'.IsIdle := by
  obtain ⟨es, b, effects, hcourse, hes, hb, hreading⟩ := h.exists_reading c all
  cases hin : b.inbound with
  | absent => exact ⟨es, b, effects, hcourse, hes, hb.lifecycle, hreading, .inl hin, hb.isOver⟩
  | reading => exact ⟨es, b, effects, hcourse, hes, hb.lifecycle, hreading, .inr hin, hb.isOver⟩
  | ended => exact absurd hin hb.inbound
  | delivering dest d =>
    have hdelivered : b.step c all (.delivered true) =
        some (all, { b with inbound := .reading }, [.datagram dest d]) := by
      simp only [step, visible, hb.isOver, hin]
      rfl
    refine ⟨_, _, _, hcourse.trans (.single (e := .delivered true) rfl hdelivered), ?_,
      hb.lifecycle, hreading, .inr rfl, hb.isOver⟩
    rw [inputs_append, hes]
    rfl

/-! ## What comes in is taken -/

theorem IsOpen.forward (hproxies : c.proxies ≠ []) (h : a.IsOpen) (p : Parcel) :
    (Association.forward c.proxies p a).1.IsOpen := by
  by_cases hin : a.inbound = .absent
  · rw [Association.forward, if_neg (not_not.mpr hin), if_neg hproxies]
    exact ⟨h.lifecycle, by simp, h.inbound, h.isOver⟩
  · rw [Association.forward, if_pos hin]
    exact ⟨h.lifecycle, by simp, h.inbound, h.isOver⟩

theorem IsOpen.receive (hproxies : c.proxies ≠ []) (h : a.IsOpen) (sender : Endpoint) (b : Bytes) :
    (Association.receive c.proxies sender b a).1.IsOpen := by
  obtain ⟨known, recipient, hreceive | ⟨p, hreceive⟩⟩ := receive_or_forward c.proxies sender b a
  · rw [hreceive]
    exact ⟨h.lifecycle, h.outbound, h.inbound, h.isOver⟩
  · rw [hreceive]
    exact IsOpen.forward (a := { a with sender := known, recipient }) hproxies
      ⟨h.lifecycle, h.outbound, h.inbound, h.isOver⟩ p

/-- What is read from the tunnel is dealt with. -/
theorem step_received (hreading : a.inbound = .reading) (hover : a.isOver = false)
    (c : AgentContext) (all : Associations) (r : Received ProxyKind) :
    a.step c all (.received r) = some (all, a.deliver r, []) := by
  simp only [step, visible, hover, hreading]
  rfl

namespace IsIdle

theorem isOpen (h : a.IsIdle) : a.IsOpen where
  lifecycle := h.lifecycle
  outbound := by simp [h.outbound]
  inbound := by
    rcases h.inbound with hin | hin <;> simp [hin]
  isOver := h.isOver

/-- A datagram is taken. -/
theorem exists_datagram (hproxies : c.proxies ≠ []) (h : a.IsIdle) (all : Associations)
    (sender : Endpoint) (b : Bytes) :
    ∃ a' effects, Course c all a [.datagram sender b] all a' effects ∧ a'.IsOpen := by
  have hstep : a.step c all (.datagram sender b) = some (all, receive c.proxies sender b a) := by
    simp only [step, visible, h.isOver, h.outbound]
    rfl
  exact ⟨_, _, .single trivial hstep, h.isOpen.receive hproxies sender b⟩

/-- A message that has a place in an association is taken. -/
theorem exists_message (h : a.IsIdle) (hreading : a.inbound = .reading) (c : AgentContext)
    (all : Associations) {m : Body ProxyKind} (hm : m.kind = .heartbeat ∨ m.kind = .okUdp) :
    ∃ a' effects, Course c all a [.received (.body m)] all a' effects ∧ a'.IsOpen := by
  refine ⟨_, _, .single trivial (step_received hreading h.isOver c all (.body m)), ?_⟩
  rcases hm with hm | hm
  · simp only [deliver, hm]
    exact h.isOpen
  · simp only [deliver, hm]
    cases a.sender with
    | none => exact h.isOpen
    | some dest => exact ⟨h.lifecycle, h.isOpen.outbound, by simp, h.isOver⟩

end IsIdle

/-- A message comes only after something has been relayed, since there is no tunnel before. -/
def Timely (client : Ip) (ins : List Input) : Prop :=
  ∀ before m after, ins = before ++ .message m :: after → parcels client before ≠ []

/-- The messages are heartbeats or carry datagrams. -/
def Expected (ins : List Input) : Prop :=
  ∀ m, .message m ∈ ins → m.kind = .heartbeat ∨ m.kind = .okUdp

/-- What comes next is taken, and what it leads to arrives. -/
theorem Course.exists_take (hproxies : c.proxies ≠ [])
    (h : Course c all₀ (start id client ⟨.established, false⟩) es all a done) (hopen : a.IsOpen)
    {i : Input} (htimely : Timely client (inputs es ++ [i])) (hexpected : Expected [i]) :
    ∃ es' a' effects, Course c all₀ (start id client ⟨.established, false⟩) (es ++ es') all a'
      (done ++ effects) ∧ inputs es' = [i] ∧ a'.IsIdle := by
  obtain ⟨es₁, a₁, effects₁, h₁, hes₁, hidle₁⟩ := hopen.exists_idle c all
  obtain ⟨e, a₂, effects₂, h₂, he, hopen₂⟩ : ∃ e a₂ effects₂,
      Course c all a₁ [e] all a₂ effects₂ ∧ inputs [e] = [i] ∧ a₂.IsOpen := by
    cases i with
    | datagram sender b =>
      obtain ⟨a₂, effects₂, h₂, hopen₂⟩ := hidle₁.exists_datagram hproxies all sender b
      exact ⟨_, a₂, effects₂, h₂, rfl, hopen₂⟩
    | message m =>
      have hexact := (h.trans h₁).exact hproxies
      have hup := hexact.up
      rw [hidle₁.outbound, inputs_append, hes₁, List.append_nil] at hup
      have htunnel := hup.inbound_ne_absent (htimely _ m [] rfl)
      obtain ⟨a₂, effects₂, h₂, hopen₂⟩ := hidle₁.exists_message
        (hidle₁.inbound.resolve_left htunnel) c all (hexpected m List.mem_cons_self)
      exact ⟨_, a₂, effects₂, h₂, rfl, hopen₂⟩
  obtain ⟨es₃, a₃, effects₃, h₃, hes₃, hidle₃⟩ := hopen₂.exists_idle c all
  refine ⟨es₁ ++ [e] ++ es₃, a₃, effects₁ ++ effects₂ ++ effects₃, h.trans ((h₁.trans h₂).trans h₃),
    ?_, hidle₃⟩
  rw [inputs_append, inputs_append, hes₁, he, hes₃]
  rfl

/-- **Whatever comes next is taken**, and all that it leads to arrives. -/
theorem Course.exists_takes (hproxies : c.proxies ≠ []) {more : List Input}
    (h : Course c all₀ (start id client ⟨.established, false⟩) es all a done) (hopen : a.IsOpen)
    (htimely : Timely client (inputs es ++ more)) (hexpected : Expected more) :
    ∃ es' a' effects, Course c all₀ (start id client ⟨.established, false⟩) (es ++ es') all a'
      (done ++ effects) ∧ inputs es' = more ∧ a'.IsIdle := by
  induction more generalizing es a done with
  | nil =>
    obtain ⟨es', a', effects, h', hes', hidle⟩ := hopen.exists_idle c all
    exact ⟨es', a', effects, h.trans h', hes', hidle⟩
  | cons i more ih =>
    have htimely₁ : Timely client (inputs es ++ [i]) := by
      intro before m after heq
      exact htimely before m (after ++ more) (by simpa using congrArg (· ++ more) heq)
    obtain ⟨es₁, a₁, effects₁, h₁, hes₁, hidle₁⟩ := h.exists_take hproxies hopen htimely₁
      fun m hm => hexpected m (List.mem_cons.mpr (.inl (List.mem_singleton.mp hm)))
    obtain ⟨es₂, a₂, effects₂, h₂, hes₂, hidle₂⟩ := ih h₁ hidle₁.isOpen
      (by rw [inputs_append, hes₁]; simpa using htimely)
      fun m hm => hexpected m (List.mem_cons_of_mem i hm)
    refine ⟨es₁ ++ es₂, a₂, effects₁ ++ effects₂, by simpa using h₂, ?_, hidle₂⟩
    rw [inputs_append, hes₁, hes₂]
    rfl

/-! ## The whole -/

/-- The association of a client as it is when it is granted. -/
def granted (link : ClientLink) : Association :=
  start link.id link.client.ip ⟨.established, false⟩

/-- The association of a client relays what is to be relayed and nothing else. -/
structure RelaysExactly (c : AgentContext) (all₀ : Associations) (link : ClientLink) : Prop where
  /-- This is how an association is when its client is told where to send datagrams to. -/
  starts : ∀ {rs rs' a bound own}, SocksSession.associate c.userToken link rs bound =
    (rs', .granting a own) → a = granted link
  /-- What has been done is exact, whatever has come in and in whatever order. -/
  exact : ∀ {es all a done}, Course c all₀ (granted link) es all a done →
    Exact c.userToken link.id link.client.ip (inputs es) a done
  /-- Whatever comes next is taken, and all that it leads to arrives. -/
  takes : ∀ {es all a done more}, Course c all₀ (granted link) es all a done → a.IsOpen →
    Timely link.client.ip (inputs es ++ more) → Expected more →
      ∃ es' a' effects, Course c all₀ (granted link) (es ++ es') all a' (done ++ effects) ∧
        inputs es' = more ∧ a'.IsIdle
  /-- The address that is captured is one of the client's host, and stays. -/
  address : ∀ {ins dest}, captured link.client.ip ins = some dest →
    dest.ip = link.client.ip ∧ ∀ more, captured link.client.ip (ins ++ more) = some dest
  /-- What the client is sent for a message says where it comes from and what it is. -/
  reads : ∀ m : Body ProxyKind, (Bytes.ofText m.host).length ≤ 255 →
    Socks.Datagram.ofBytes? (reply m).toBytes = .ok ⟨0, .ofHost m.host m.port, m.payload⟩
  /-- A heartbeat does nothing. -/
  heartbeat : ∀ {all} {a : Association} {m : Body ProxyKind}, a.inbound = .reading →
    a.isOver = false → m.kind = .heartbeat → a.step c all (.received (.body m)) = some (all, a, [])
  /-- Any other message ends the association: the client is sent nothing more, and whatever is
  still done the association can come to its end. -/
  other : ∀ {es all a done} {m : Body ProxyKind}, Course c all₀ (granted link) es all a done →
    a.inbound = .reading → a.isOver = false → m.kind ≠ .heartbeat → m.kind ≠ .okUdp →
      a.step c all (.received (.body m)) = some (all, close { a with inbound := .ended }, []) ∧
        ∀ {es' all' a' effects},
          Course c all (close { a with inbound := .ended }) es' all' a' effects →
            AgentEffect.datagrams effects = [] ∧ a'.inbound = .ended ∧
              (a'.isOver = false → ∃ rest last more,
                Course c all' a' rest (all'.remove link.id) last more ∧ inputs rest = [] ∧
                  last.isOver)

theorem eq_granted {user : String} {link : ClientLink} {rs rs' : AgentRegistries}
    {bound own : Endpoint}
    (h : SocksSession.associate user link rs bound = (rs', .granting a own)) :
    a = granted link := by
  unfold SocksSession.associate at h
  split at h
  · rename_i associations l hcreate htransit
    cases htransit
    cases h
    rfl
  · cases h
  · cases h

/-- **An association relays exactly**, as long as what it puts out is taken and a proxy accepts its
tunnel. -/
theorem relays_exactly (hproxies : c.proxies ≠ []) (all₀ : Associations) (link : ClientLink) :
    RelaysExactly c all₀ link where
  starts := eq_granted
  exact h := h.exact hproxies
  takes h hopen htimely hexpected := h.exists_takes hproxies hopen htimely hexpected
  address h := ⟨ip_of_captured h, captured_append_of_some h⟩
  reads m hhost := Socks.Datagram.ofBytes?_toBytes (Socks.Address.wellFormed_ofHost hhost m.port)
  heartbeat {all a m} hreading hover hm :=
    step_heartbeat (step_received hreading hover c all (.body m)) hm
  other {es all a done m} h hreading hover hbeat hm := by
    have hstep := step_received hreading hover c all (.body m)
    rw [deliver_of_other hbeat hm] at hstep
    have hexact := h.exact hproxies
    refine ⟨hstep, fun {es' all' a' effects} hcourse => ?_⟩
    obtain ⟨hending, hsilent⟩ := (hexact.isEnding hreading).course hcourse
    refine ⟨hsilent, hending.inbound, fun hover' => ?_⟩
    have hwhole := (h.step (e := .received (.body m)) trivial hstep).trans hcourse
    rw [← (hwhole.exact hproxies).id_eq]
    exact hending.exists_over hover' c all'

/-- An agent with one proxy. -/
def oneProxy : AgentContext where
  userToken := "user"
  proxies := [⟨"127.0.0.1", 80⟩]
  proxyConnectTimeout := 20
  responseTimeout := 60
  limits := ⟨false, Frame.defaultMaxFrameSize⟩
  pieceSize := 1024
  retry := .default
  idle := .ofSeconds 90 0 0

/-- The connection of a client on the machine of the agent. -/
def localLink : ClientLink := ⟨"a", ⟨.v4 ⟨127, 0, 0, 1⟩, 9⟩, ⟨.v4 ⟨127, 0, 0, 1⟩, 10⟩⟩

/-- Where this client sends its datagrams from. -/
def localSender : Endpoint := ⟨.v4 ⟨127, 0, 0, 1⟩, 11⟩

/-- What comes back for what a client has sent. -/
def echo : Body ProxyKind := .okUdp "m" "user" "127.0.0.1" 53 [1]

/-- A datagram of a client that is sent back to it. -/
def echoed : List Input :=
  [.datagram localSender [0, 0, 0, 1, 127, 0, 0, 1, 0, 53, 1], .message echo]

/-- A client gets the echo of its datagram, once. -/
theorem echo_relayed :
    oneProxy.proxies ≠ [] ∧ ∃ es a done,
      Course oneProxy .empty (granted localLink) es .empty a done ∧ inputs es = echoed ∧
        AgentEffect.datagrams done = [(localSender, (reply echo).toBytes)] := by
  have hproxies : oneProxy.proxies ≠ [] := by decide
  have hall := relays_exactly hproxies .empty localLink
  have htimely : Timely localLink.client.ip echoed := by
    intro before m after heq
    rcases before with _ | ⟨i, _ | ⟨j, before⟩⟩
    · cases heq
    · cases heq
      decide +kernel
    · simp [echoed] at heq
  have hexpected : Expected echoed := by
    intro m hm
    obtain rfl : m = echo := by simpa [echoed] using hm
    exact .inr rfl
  have hopen : (granted localLink).IsOpen := ⟨rfl, by decide, by decide, rfl⟩
  obtain ⟨es, a, done, hcourse, hes, hidle⟩ := hall.takes .refl hopen htimely hexpected
  rw [List.nil_append, List.nil_append] at hcourse
  change inputs es = echoed at hes
  have hdown := (hall.exact hcourse).down
  have hcaptured : captured localLink.client.ip echoed = some localSender := by decide +kernel
  have hreplies : replies echoed = [echo] := by decide +kernel
  have hpending : a.inbound.pending = [] := by
    rcases hidle.inbound with hin | hin <;> rw [hin] <;> rfl
  rw [hes, hcaptured, hreplies, hpending, List.append_nil] at hdown
  refine ⟨hproxies, es, a, done, hcourse, hes, ?_⟩
  generalize AgentEffect.datagrams done = sent at hdown ⊢
  cases hdown with
  | @cons x _ xs _ hx hxs =>
    cases hxs
    obtain ⟨dest, b⟩ := x
    obtain ⟨rfl, rfl⟩ : localSender = dest ∧ b = (reply echo).toBytes :=
      ⟨Option.some.inj hx.1, hx.2⟩
    rfl

end TunnelRelay.Association
