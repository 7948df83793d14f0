import TunnelRelay.Http.Reading
import TunnelRelay.Proofs.Agent.Passage

/-!
# What the legs of an agent put into one message

The leg to the proxy takes an opaque stream and the body of a request in pieces of a limited size.
It does not cut a head, nor what stands behind a head whose body only the target reads, and a relay
does not cut what it begins with. `uncut` counts the octets of the first two kinds before they go
into a message. As long as they are few and pieces are short, so is every payload (`step_fits`); and
nothing enters a tunnel as data that was not on offer (`offer_of_step`).
-/

namespace TunnelRelay

/-! ## Pieces of a body -/

/-- A piece of a body is no longer than it may be. -/
theorem Http.length_of_next_body {size : Nat} (hsize : 0 < size) {s s' : Http.Inbound} {b : Bytes}
    (h : Http.next size s = (.ok (some (.body b)), s')) : b.length ≤ size := by
  have hanswer := Http.next_answers size s
  rw [h] at hanswer
  cases hanswer with
  | piece _ hlength => omega

/-! ## The leg to the proxy -/

namespace ToProxy

/-- No payload that the leg is sending or is about to send is longer than `n`. -/
def Fits (n : Nat) : ToProxy → Prop
  | sending data rest _ => data.length ≤ n ∧ rest.length ≤ n
  | _ => True

/-- How many octets may go into one message next that are not cut: those of a head, or those behind
it when only the target can read its body. -/
def uncut (size : Nat) (target : Target) : ToProxy → Nat
  | reading (.requests s) =>
    match Http.next size s with
    | (.ok (some (.head q)), s) =>
      match forward target q s with
      | sending data rest _ => max data.length rest.length
      | _ => 0
    | _ => 0
  | _ => 0

variable {n size : Nat} {user : String} {target : Target} {leg leg' : ToProxy} {e : Event}
  {es : List AgentEffect}

theorem decode_fits {s : Http.Inbound} (hpos : 0 < size) (hsize : size ≤ n)
    (hu : (reading (.requests s)).uncut size target ≤ n) (h : decode size target s = some leg') :
    leg'.Fits n := by
  simp only [uncut] at hu
  unfold decode at h
  split at h
  · cases h
  · cases h
    trivial
  · rename_i b s' hnext
    cases h
    have hlength := Http.length_of_next_body hpos hnext
    exact ⟨by omega, Nat.zero_le n⟩
  · rename_i q s' hnext
    cases h
    rw [hnext] at hu
    simp only at hu
    cases hforward : forward target q s' with
    | reading source => trivial
    | ended next => trivial
    | sending data rest source =>
      rw [hforward] at hu
      simp only at hu
      exact ⟨by omega, by omega⟩

/-- Payloads stay short as long as nothing uncut is long. -/
theorem step_fits (h : step size user target leg e = some (leg', es)) (hpos : 0 < size)
    (hsize : size ≤ n) (hfits : leg.Fits n) (hu : leg.uncut size target ≤ n) : leg'.Fits n := by
  unfold step at h
  split at h
  · cases h
    trivial
  · rename_i source b
    split at h
    · rename_i hread
      cases h
      cases source with
      | octets =>
        simp only [fits, Bool.and_eq_true, decide_eq_true_eq] at hread
        exact ⟨by omega, Nat.zero_le n⟩
      | requests s => trivial
    · cases h
  · split at h
    · cases h
      trivial
    · cases h
  · split at h
    · cases h
      trivial
    · cases h
  · rename_i s
    obtain ⟨leg'', hdecode, heq⟩ := Option.map_eq_some_iff.mp h
    cases heq
    exact decode_fits hpos hsize hu hdecode
  · rename_i data rest source id outcome
    simp only at h
    split at h
    · cases h
      trivial
    · cases h
      by_cases hrest : rest = []
      · rw [if_pos hrest]
        trivial
      · rw [if_neg hrest]
        exact ⟨hfits.2, Nat.zero_le n⟩
  · cases h

/-- The leg puts only the payload that it is sending into the tunnel. -/
theorem eq_of_step (h : step size user target leg e = some (leg', es)) {m : Body AgentKind}
    (hm : m ∈ AgentEffect.messages es) :
    ∃ id data rest source, leg = sending data rest source ∧
      m = Body.tcpData id user target.host target.port data := by
  unfold step at h
  split at h
  · cases h
    cases hm
  · split at h
    · cases h
      cases hm
    · cases h
  · split at h
    · cases h
      cases hm
    · cases h
  · split at h
    · cases h
      cases hm
    · cases h
  · obtain ⟨leg'', -, heq⟩ := Option.map_eq_some_iff.mp h
    cases heq
    cases hm
  · rename_i data rest source id outcome
    simp only at h
    refine ⟨id, data, rest, source, rfl, ?_⟩
    split at h
    · cases h
      rw [AgentEffect.messages_map_message] at hm
      exact outcome.eq_of_mem_entered hm
    · cases h
      rw [AgentEffect.messages_map_message] at hm
      exact outcome.eq_of_mem_entered hm
  · cases h

end ToProxy

/-- The leg from the proxy puts nothing into the tunnel. -/
theorem FromProxy.messages_of_step {limit : UInt32} {leg leg' : FromProxy} {e : FromProxy.Event}
    {es : List AgentEffect} (h : step limit leg e = some (leg', es)) :
    AgentEffect.messages es = [] := by
  have hp : Passes leg.undelivered (leg.undelivered.getD []) [] := by
    cases leg.undelivered with
    | none => exact List.prefix_rfl
    | some held => rfl
  exact (step_passes h hp).2

/-! ## A relay -/

namespace Relay

/-- No payload that the relay is sending or is about to send is longer than `n`. -/
def Fits (n : Nat) (r : Relay) : Prop :=
  match r.phase with
  | .starting data _ => data.length ≤ n
  | .running up _ _ => up.Fits n
  | .closed _ => True

/-- How many octets may go into one message next that are not cut. -/
def uncut (size : Nat) (r : Relay) : Nat :=
  match r.phase with
  | .running up _ _ => up.uncut size r.target
  | _ => 0

/-- The data message with this id that the relay is sending. -/
def offer (user id : String) (r : Relay) : Option (Body AgentKind) :=
  match r.phase with
  | .starting data _ | .running (.sending data _ _) _ _ =>
    some (Body.tcpData id user r.target.host r.target.port data)
  | _ => none

variable {n : Nat} {c : AgentContext} {streams streams' : Streams} {r r' : Relay} {e : Event}
  {es : List AgentEffect}

theorem start_fits (user : String) (streams : Streams) (o : Opening) {data : Bytes}
    (source : Source) (h : data.length ≤ n) : (start user streams o data source).2.1.Fits n := by
  unfold start
  split
  · trivial
  · by_cases hdata : data = []
    · simp only [hdata, if_true]
      trivial
    · simp only [hdata, if_false]
      exact h

theorem messages_of_start (user : String) (streams : Streams) (o : Opening) (data : Bytes)
    (source : Source) : AgentEffect.messages (start user streams o data source).2.2 = [] :=
  (start_quiet user streams o data source).1

theorem step_fits (h : step c streams r e = some (streams', r', es)) (hpos : 0 < c.pieceSize)
    (hsize : c.pieceSize ≤ n) (hfits : r.Fits n) (hu : r.uncut c.pieceSize ≤ n) : r'.Fits n := by
  obtain ⟨id, target, lifecycle, phase⟩ := r
  unfold step at h
  split at h
  · cases h
  simp only at h
  split at h
  · split at h <;> (cases h; trivial)
  · -- only the leg to the proxy sends
    rename_i up down watching e _
    obtain ⟨⟨up', es'⟩, hstep, heq⟩ := Option.bind_eq_some_iff.mp h
    cases heq
    exact ToProxy.step_fits hstep hpos hsize hfits hu
  · obtain ⟨⟨down', es'⟩, -, heq⟩ := Option.bind_eq_some_iff.mp h
    cases heq
    exact hfits
  · cases h
    exact hfits
  · cases h
    exact hfits
  · cases h
    trivial
  · cases h

/-- A relay puts only what it is sending into the tunnel. -/
theorem offer_of_step (h : step c streams r e = some (streams', r', es)) {m : Body AgentKind}
    (hm : m ∈ AgentEffect.messages es) : ∃ id, r.offer c.userToken id = some m := by
  obtain ⟨id, target, lifecycle, phase⟩ := r
  unfold step at h
  split at h
  · cases h
  simp only at h
  split at h
  · rename_i data source id' outcome _
    refine ⟨id', ?_⟩
    have hclose : AgentEffect.messages [.closeTunnel] = [] := rfl
    split at h
    · cases h
      rw [AgentEffect.messages_map_message] at hm
      rw [outcome.eq_of_mem_entered hm]
      rfl
    · cases h
      rw [leave, AgentEffect.messages_append, AgentEffect.messages_map_message, hclose,
        List.append_nil] at hm
      rw [outcome.eq_of_mem_entered hm]
      rfl
  · rename_i up down watching e _
    obtain ⟨⟨up', es'⟩, hstep, heq⟩ := Option.bind_eq_some_iff.mp h
    cases heq
    obtain ⟨id', data, rest, source, rfl, rfl⟩ := ToProxy.eq_of_step hstep hm
    exact ⟨id', rfl⟩
  · obtain ⟨⟨down', es'⟩, hstep, heq⟩ := Option.bind_eq_some_iff.mp h
    cases heq
    rw [FromProxy.messages_of_step hstep] at hm
    cases hm
  · cases h
    cases hm
  · cases h
    cases hm
  · cases h
    cases hm
  · cases h

end Relay

/-! ## Other messages -/

/-- An opening puts no data into its tunnel. -/
theorem Opening.kind_of_step {user : String} {o o' : Opening} {e : Opening.Event}
    {es : List AgentEffect} (h : o.step user e = some (o', es)) {m : Body AgentKind}
    (hm : m ∈ AgentEffect.messages es) : m.kind ≠ .tcpData := by
  unfold step at h
  split at h
  · cases h
    cases hm
  · cases h
    cases hm
  · rename_i id outcome _
    have hkind : ∀ n ∈ outcome.entered
        (Body.connect id user o.target.host o.target.port o.keepAlive), n.kind ≠ .tcpData := by
      intro n hn
      rw [outcome.eq_of_mem_entered hn]
      cases o.keepAlive <;> nofun
    have hclose : AgentEffect.messages [.closeTunnel] = [] := rfl
    simp only at h
    split at h
    · cases h
      rw [AgentEffect.messages_map_message] at hm
      exact hkind m hm
    · cases h
      rw [AgentEffect.messages_append, AgentEffect.messages_map_message, hclose,
        List.append_nil] at hm
      exact hkind m hm
  · rename_i r _
    have hquiet := (answer_quiet (o := o) r).1
    simp only [Option.some.injEq] at h
    rw [h] at hquiet
    rw [hquiet] at hm
    cases hm
  · cases h
    cases hm
  · cases h

/-- A tunnel that is not tried yet is not open. -/
theorem Opening.start_ne_opened (id : String) (target : Target) (keepAlive : Bool)
    (proxies : List ProxyAddress) : (start id target keepAlive proxies).phase ≠ .opened := by
  unfold start choose
  split <;> nofun

theorem HttpSession.messages_of_ofOpening (user : String) (streams : Streams) (o : Opening)
    (q : Http.Request) (s : Http.Inbound) :
    AgentEffect.messages (ofOpening user streams o q s).2.2 = [] := by
  unfold ofOpening
  split
  · rfl
  · split
    · rfl
    · exact Relay.messages_of_start _ _ _ _ _
  · rfl

theorem Association.messages_endOutbound (a : Association) :
    AgentEffect.messages a.endOutbound.2 = [] := by
  unfold endOutbound
  by_cases habsent : a.inbound = .absent
  · rw [if_pos habsent]
    rfl
  · rw [if_neg habsent]
    rfl

theorem Association.messages_receive (proxies : List ProxyAddress) (sender : Endpoint) (b : Bytes)
    (a : Association) : AgentEffect.messages (receive proxies sender b a).2 = [] := by
  unfold receive
  split
  · rfl
  · split
    · rfl
    · split
      · rfl
      · simp only
        split
        · rfl
        · unfold forward
          split
          · rfl
          · split
            · exact messages_endOutbound _
            · rfl

/-- An association puts nothing but datagrams into its tunnel. -/
theorem Association.kind_of_step {c : AgentContext} {all all' : Associations} {a a' : Association}
    {e : Association.Event} {es : List AgentEffect} (h : a.step c all e = some (all', a', es))
    {m : Body AgentKind} (hm : m ∈ AgentEffect.messages es) : m.kind = .udpData := by
  have hends : ∀ {x : Association}, m ∉ AgentEffect.messages x.endOutbound.2 := by
    intro x hx
    rw [messages_endOutbound] at hx
    cases hx
  unfold step at h
  split at h
  · cases h
  cases e with
  | datagram sender b =>
    simp only at h
    split at h
    · have hquiet := messages_receive c.proxies sender b a
      simp only [Option.some.injEq, Prod.mk.injEq] at h
      rw [h.2] at hquiet
      rw [hquiet] at hm
      cases hm
    · cases h
  | sent id outcome =>
    simp only at h
    split at h
    · rename_i p _
      have hkind : ∀ n ∈ outcome.entered
          (Body.udpData id c.userToken p.target.host p.target.port p.payload),
          n.kind = .udpData := by
        intro n hn
        rw [outcome.eq_of_mem_entered hn]
        rfl
      split at h
      · cases h
        rw [AgentEffect.messages_map_message] at hm
        exact hkind m hm
      · cases h
        rw [AgentEffect.messages_append, AgentEffect.messages_map_message, messages_endOutbound,
          List.append_nil] at hm
        exact hkind m hm
    · cases h
  | receiveFailed | outboundClosed =>
    simp only at h
    split at h
    · cases h
      exact absurd hm hends
    · cases h
  | tried accepted =>
    simp only at h
    split at h
    · split at h
      · cases h
        cases hm
      · split at h
        · cases h
          exact absurd hm hends
        · cases h
          cases hm
    · cases h
  | delivered success =>
    simp only at h
    split at h
    · split at h <;> (cases h; cases hm)
    · cases h
  | received r | inboundClosed | chatter | disconnected | unwatched | finished =>
    simp only at h
    split at h
    · cases h
      cases hm
    · cases h

end TunnelRelay
