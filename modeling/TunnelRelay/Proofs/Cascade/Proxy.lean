import TunnelRelay.Proofs.Cascade.Handler
import TunnelRelay.Proofs.Proxy.Contact

/-!
# The handlers of a proxy clean up

A proxy serves a connect message until its target has been refused or relayed to the end, and a
first datagram with a `DatagramRelay`. A session forgets the lifecycle of a target that it could not
connect, so what it does between the connect message and the end is said here once more, as a
`StreamService` that keeps the lifecycle in sight (`StreamService.step_session`).

One end of a service leaves the lifecycle as it is: a target that is lost as soon as it has been
connected. Nothing is registered then, and nothing follows, but who holds the lifecycle is not told
(`StreamService.clean_iff`). `step_deserted_iff` says when this comes about.
-/

namespace TunnelRelay

/-! ## Datagrams -/

namespace DatagramRelay

/-- A leg has ended. -/
def ends (r : DatagramRelay) : Prop := r.outbound = .ended ∨ r.inbound = .ended

/-- A relay of datagrams as the handler of the session with an id. -/
def handler (id : String) : Handler DatagramEntry DatagramRelay Event ProxyEffect where
  id := id
  step all r e := r.step all e
  lifecycle := lifecycle
  runs r := r.isOver = false
  ends := ends
  isOver r := r.isOver = true

/-- What is known of a relay of datagrams whose session has an id. -/
structure Fine (id : String) (r : DatagramRelay) : Prop where
  id_eq : r.id = id
  tells : r.lifecycle.Tells (r.ends ∨ r.isOver = true)

variable {id : String} {r r' : DatagramRelay} {all all' : ProxyDatagrams} {e : Event}
  {effects : List ProxyEffect}

/-- A leg that goes on leaves the relay fine. -/
theorem Fine.outbound (h : r.Fine id) {outbound : Outbound} (hne : outbound ≠ .ended) :
    Fine id { r with outbound } :=
  ⟨h.id_eq, h.tells.keep (Or.imp_left fun hends => .inr (hends.resolve_left hne))⟩

theorem Fine.inbound (h : r.Fine id) {inbound : Inbound} (hne : inbound ≠ .ended) :
    Fine id { r with inbound } :=
  ⟨h.id_eq, h.tells.keep (Or.imp_left fun hends => .inl (hends.resolve_right hne))⟩

/-- A leg that ends closes the relay. -/
theorem Fine.close (h : r.Fine id) (outbound : Outbound) (inbound : Inbound) (isOver : Bool) :
    Fine id (close { r with outbound, inbound, isOver }) :=
  ⟨h.id_eq, h.tells.close⟩

theorem Fine.receive (h : r.Fine id) (got : Received AgentKind) : (r.receive got).Fine id := by
  unfold DatagramRelay.receive
  split
  · exact h.close _ _ _
  · exact h.close _ _ _
  · split
    · exact h.outbound (by simp)
    · exact h.close _ _ _

theorem receive_isOver (r : DatagramRelay) (got : Received AgentKind) :
    (r.receive got).isOver = r.isOver := by
  unfold receive
  split
  · rfl
  · rfl
  · split <;> rfl

theorem Fine.passOn (h : r.Fine id) {m : Body AgentKind} {dest : Option Endpoint}
    (hpass : r.passOn m dest = some (r', effects)) : r'.Fine id ∧ r'.isOver = r.isOver := by
  unfold DatagramRelay.passOn at hpass
  split at hpass
  · cases hpass
    exact ⟨h.outbound (by simp), rfl⟩
  · obtain ⟨-, hpass⟩ := Option.ite_none_right_eq_some.mp hpass
    cases hpass
    exact ⟨h.outbound (by simp), rfl⟩

/-- **A relay of datagrams closes the session whenever a leg ends, and removes the entry at the
end.** -/
theorem Fine.step (h : r.Fine id) (hstep : r.step all e = some (all', r', effects)) :
    r'.Fine id ∧ Handler.Books id all all' (!r.isOver) (!r'.isOver) := by
  unfold DatagramRelay.step at hstep
  split at hstep
  · cases hstep
  cases e with
  | passed dest =>
    have hpassed {m : Body AgentKind} {s : DatagramRelay} {es : List ProxyEffect}
        (hpass : r.passOn m dest = some (s, es)) :
        s.Fine id ∧ Handler.Books id all all (!r.isOver) (!s.isOver) := by
      obtain ⟨hfine, hover⟩ := h.passOn hpass
      rw [hover]
      exact ⟨hfine, .stays rfl⟩
    simp only at hstep
    split at hstep
    · obtain ⟨⟨s, es⟩, hpass, heq⟩ := Option.map_eq_some_iff.mp hstep
      cases heq
      exact hpassed hpass
    · obtain ⟨⟨s, es⟩, hpass, heq⟩ := Option.map_eq_some_iff.mp hstep
      cases heq
      exact hpassed hpass
    · cases hstep
  | received got =>
    obtain ⟨-, hstep⟩ := Option.ite_none_right_eq_some.mp hstep
    cases hstep
    rw [receive_isOver]
    exact ⟨h.receive got, .stays rfl⟩
  | outboundClosed =>
    obtain ⟨-, hstep⟩ := Option.ite_none_right_eq_some.mp hstep
    cases hstep
    exact ⟨h.close _ _ _, .stays rfl⟩
  | datagram sender octets =>
    obtain ⟨-, hstep⟩ := Option.ite_none_right_eq_some.mp hstep
    cases hstep
    exact ⟨h.inbound (by simp), .stays rfl⟩
  | receiveFailed =>
    obtain ⟨-, hstep⟩ := Option.ite_none_right_eq_some.mp hstep
    cases hstep
    exact ⟨h, .stays rfl⟩
  | sent messageId outcome =>
    simp only at hstep
    split at hstep
    · split at hstep
      · cases hstep
        exact ⟨h.inbound (by simp), .stays rfl⟩
      · cases hstep
        exact ⟨h.close _ _ _, .stays rfl⟩
    · cases hstep
  | inboundClosed =>
    obtain ⟨-, hstep⟩ := Option.ite_none_right_eq_some.mp hstep
    cases hstep
    exact ⟨h.close _ _ _, .stays rfl⟩
  | finished =>
    obtain ⟨-, hstep⟩ := Option.ite_none_right_eq_some.mp hstep
    cases hstep
    refine ⟨h.close _ _ _, ?_⟩
    rw [h.id_eq]
    exact .leaves rfl

/-- A relay of datagrams starts with its session registered. -/
theorem exists_start {all : ProxyDatagrams} {id : String} (hfree : all.get? id = none)
    (own : Endpoint) (m : Body AgentKind) :
    ∃ all' r, start all id own m = some (all', r) ∧
      (handler id).Right (Fine id) (fun r => !r.isOver) ⟨all', all.get?, r⟩ := by
  obtain ⟨all', hcreate⟩ := Registry.exists_create hfree ⟨m.user, own⟩
  have htransit : Lifecycle.fresh.transit .idle .established = .ok ⟨.established, false⟩ := rfl
  refine ⟨all', ⟨id, m.user, ⟨.established, false⟩, .starting m, .reading, false⟩, ?_, ?_, ?_,
    fun key hkey => ?_⟩
  · simp only [start, hcreate, htransit]
  · exact ⟨rfl, .live (by decide), by simp [ends]⟩
  · simp only [handler, Registry.get?_create hcreate, if_true, Option.isSome_some, Bool.not_false]
  · exact (Registry.get?_create hcreate key).trans (if_neg hkey)

theorem tidy (id : String) : (handler id).Tidy (Fine id) fun r => !r.isOver where
  fine_step hfine _ hstep := hfine.step hstep
  listed_of_runs _ hruns := congrArg Bool.not hruns
  closed_of_ends hfine hends := hfine.tells.closed (.inl hends)
  unlisted_of_over _ hover := congrArg Bool.not hover
  still_of_over all e hover := by
    have hover : isOver _ = true := hover
    simp [handler, step, hover]

theorem closed_of_over {id : String} {r : DatagramRelay} (h : r.Fine id)
    (hover : (handler id).isOver r) : (handler id).lifecycle r = ⟨.closed, true⟩ :=
  h.tells.closed (.inr hover)

end DatagramRelay

/-! ## Streams -/

theorem Heartbeat.closeSession_of_afterSending {limit : UInt32} {failures : Nat} {outcome : Sent}
    (h : (afterSending limit failures outcome).1 = .stopped) :
    .closeSession ∈ (afterSending limit failures outcome).2 := by
  unfold afterSending at h ⊢
  cases herror : outcome.error? with
  | none => simp [herror] at h
  | some e =>
    simp only [herror] at h ⊢
    split
    · exact List.mem_singleton_self _
    · rename_i hopen
      rw [if_neg hopen] at h
      split
      · exact List.mem_singleton_self _
      · rename_i hfew
        rw [if_neg hfew] at h
        cases h

/-- A supervisor stops because the session is closed, has closed it, or does not find it. -/
theorem Heartbeat.of_stopped {user : String} {limit : UInt32} {heart : Heartbeat} {e : Event}
    {effects : List Effect} (h : heart.step user limit e = some (.stopped, effects)) :
    effects.contains .closeSession = true ∨ e = .closed ∨ e = .lookedUp false := by
  cases heart with
  | looking failures =>
    cases e with
    | lookedUp found =>
      cases found with
      | false => exact .inr (.inr rfl)
      | true => cases h
    | _ => cases h
  | waiting failures =>
    cases e with
    | closed => exact .inr (.inl rfl)
    | idle event =>
      cases event with
      | readerIdle =>
        cases h
        exact .inl rfl
      | _ => cases h
    | _ => cases h
  | sending failures =>
    cases e with
    | sent id now outcome =>
      simp only [step, Option.some.injEq, Prod.mk.injEq] at h
      obtain ⟨hstopped, rfl⟩ := h
      left
      simp [closeSession_of_afterSending hstopped]
    | _ => cases h
  | stopped => cases e <;> cases h

namespace ProxyRelay

/-- A leg has ended. -/
def ends (r : ProxyRelay) : Prop :=
  match r.phase with
  | .running up down heart => up = .ended ∨ down = .ended ∨ heart = .stopped
  | _ => False

/-- The relay has returned. -/
def isOver (r : ProxyRelay) : Bool := r.phase = .closed

/-- What is known of a relay whose session has an id. -/
structure Fine (id : String) (r : ProxyRelay) : Prop where
  id_eq : r.id = id
  tells : r.lifecycle.Tells (r.ends ∨ r.isOver = true)

variable {id user : String} {target : Target} {l : Lifecycle} {p : Prop}

theorem fine_running {up : ToTarget} {down : FromTarget} {heart : Heartbeat}
    (h : l.Tells (up = .ended ∨ down = .ended ∨ heart = .stopped)) :
    Fine id ⟨id, target, user, l, .running up down heart⟩ :=
  ⟨rfl, h.keep fun hends => hends.resolve_right (by simp [isOver])⟩

theorem fine_closed (h : l.Tells p) : Fine id ⟨id, target, user, l.close.2, .closed⟩ :=
  ⟨rfl, h.close⟩

/-- **A relay closes the session whenever a leg ends, and removes the entry at the end.** -/
theorem Fine.step {c : ProxyContext} {r r' : ProxyRelay} (h : r.Fine id)
    {streams streams' : ProxyStreams} {e : Event} {effects : List ProxyEffect}
    (hown : (streams.get? id).isSome = true)
    (hstep : r.step c streams e = some (streams', r', effects)) :
    r'.Fine id ∧ Handler.Books id streams streams' (!r.isOver) (!r'.isOver) := by
  obtain ⟨rid, target, user, l, phase⟩ := r
  obtain ⟨rfl, htells⟩ := h
  simp only at htells hown ⊢
  unfold ProxyRelay.step at hstep
  split at hstep
  · cases hstep
  rename_i hvisible
  simp only at hstep
  split at hstep
  · -- the agent is being told that the target is connected
    split at hstep
    · cases hstep
      exact ⟨fine_running (htells.keep (by simp [Heartbeat.start])), .stays rfl⟩
    · cases hstep
      exact ⟨fine_closed htells, .leaves rfl⟩
  · -- the leg to the target
    rename_i up down heart e
    obtain ⟨⟨up', es⟩, -, heq⟩ := Option.bind_eq_some_iff.mp hstep
    cases heq
    refine ⟨fine_running (htells.move fun hends => ?_), .stays rfl⟩
    exact hends.imp decide_eq_true fun hothers => .inl (.inr hothers)
  · -- the leg from the target
    rename_i up down heart e
    obtain ⟨⟨down', es⟩, -, heq⟩ := Option.bind_eq_some_iff.mp hstep
    cases heq
    refine ⟨fine_running (htells.move fun hends => ?_), .stays rfl⟩
    rcases hends with hup | hdown | hheart
    · exact .inr (.inl (.inl hup))
    · exact .inl (decide_eq_true hdown)
    · exact .inr (.inl (.inr (.inr hheart)))
  · -- the supervisor
    rename_i up down heart e
    obtain ⟨⟨heart', es⟩, hheart, heq⟩ := Option.bind_eq_some_iff.mp hstep
    cases heq
    have hstops : heart' = .stopped →
        es.contains .closeSession = true ∨ l = ⟨.closed, true⟩ := by
      rintro rfl
      rcases Heartbeat.of_stopped hheart with hcloses | rfl | rfl
      · exact .inl hcloses
      · exact .inr (htells.whole.of_cancelled (by simpa [visible] using hvisible))
      · -- the entry is there as long as the legs run
        simp [visible, hown] at hvisible
    have htells' : l.Tells (l = ⟨.closed, true⟩) := ⟨htells.whole, fun hclosed => hclosed⟩
    refine ⟨fine_running (htells'.move fun hends => ?_), .stays rfl⟩
    rcases hends with hup | hdown | hheart
    · exact .inr (htells.closed (.inl (.inl hup)))
    · exact .inr (htells.closed (.inl (.inr (.inl hdown))))
    · exact hstops hheart
  · -- all legs have ended
    cases hstep
    exact ⟨fine_closed htells, .leaves rfl⟩
  · cases hstep

theorem step_of_isOver {c : ProxyContext} {r : ProxyRelay} (h : r.isOver = true)
    (streams : ProxyStreams) (e : Event) : r.step c streams e = none := by
  obtain ⟨id, target, user, l, phase⟩ := r
  obtain rfl : phase = .closed := of_decide_eq_true h
  unfold step
  split <;> rfl

/-- A relay to a target starts with its session registered. -/
theorem exists_start {streams : ProxyStreams} {id : String} (hfree : streams.get? id = none)
    (m : Body AgentKind) :
    ∃ info streams' r, streams.create id info = .ok streams' ∧
      start streams id m ⟨.connecting, false⟩ = some (streams', r) ∧ r.Fine id ∧
      r.isOver = false := by
  obtain ⟨streams', hcreate⟩ :=
    Registry.exists_create hfree ⟨⟨m.host, m.port⟩, m.user, m.kind = .connectWithKeepAlive⟩
  have htransit : Lifecycle.transit ⟨.connecting, false⟩ .connecting .established =
      .ok ⟨.established, false⟩ := rfl
  refine ⟨_, streams', ⟨id, ⟨m.host, m.port⟩, m.user, ⟨.established, false⟩, .confirming⟩, hcreate,
    ?_, ⟨rfl, .live (by decide), ?_⟩, rfl⟩
  · simp only [start, hcreate, htransit]
  · simp [ends, isOver]

end ProxyRelay

/-! ## From the connect message to the end -/

/-- How far the service of a connect message is. -/
inductive StreamService where
  /-- The target is being connected. -/
  | connecting (m : Body AgentKind) (l : Lifecycle)
  /-- The agent is being told that the target cannot be reached. -/
  | refusing (m : Body AgentKind) (l : Lifecycle) (cause : RelayError)
  | relaying (r : ProxyRelay)
  /-- The service is over before anything has been relayed. -/
  | returned (cause : Option ProxyError) (l : Lifecycle)

namespace StreamService

/-- How far the tunnel is. -/
def session : StreamService → ProxySession
  | connecting m l => .connecting m l
  | refusing m l cause => .refusing m l cause
  | relaying r => .relaying r
  | returned cause _ => .closed cause

/-- What the attempts to connect lead to. -/
def afterConnecting (c : ProxyContext) (id : String) (streams : ProxyStreams) (m : Body AgentKind)
    (l : Lifecycle) (script : List (Option StreamError)) (address : Option Endpoint) :
    ProxyStreams × StreamService × List ProxyEffect :=
  match ProxySession.contact c.retry.connectRetryLimit m script address with
  | (.lost, tries) => (streams, returned none l, tries ++ [.closeTunnel])
  | (.refused e, tries) => (streams, refusing m l e, tries)
  | (.made, tries) =>
    match ProxyRelay.start streams id m l with
    | none => (streams, returned none l, tries ++ [.closeTunnel])
    | some (streams, r) => (streams, relaying r, tries)

/-- What an event leads to; nothing when the tunnel does not wait for it. -/
def step (c : ProxyContext) (id : String) (streams : ProxyStreams) :
    StreamService → ProxySession.Event → Option (ProxyStreams × StreamService × List ProxyEffect)
  | connecting m l, .connected script address =>
    some (afterConnecting c id streams m l script address)
  | refusing m l cause, .sent messageId outcome =>
    let answer := Body.connectFail messageId m.user m.host m.port
    some (streams, returned (some (.targetUnreachable id cause)) l.close.2,
      (outcome.entered answer).map ProxyEffect.message ++ [.closeTunnel])
  | relaying r, .relay e => do
    let (streams, r, effects) ← r.step c streams e
    return (streams, relaying r, effects)
  | _, _ => none

/-- What a step of a service is for the proxy. -/
def outcome (rs : ProxyRegistries) (next : ProxyStreams × StreamService × List ProxyEffect) :
    ProxyRegistries × ProxySession × List ProxyEffect :=
  ({ rs with streams := next.1 }, next.2.1.session, next.2.2)

/-- A tunnel that has been asked to connect goes the way of a service. -/
theorem step_session (c : ProxyContext) (id : String) (rs : ProxyRegistries) (s : StreamService)
    (e : ProxySession.Event) :
    ProxySession.step c id rs s.session e = (s.step c id rs.streams e).map (outcome rs) := by
  cases s with
  | connecting m l =>
    cases e with
    | connected script address =>
      simp only [session, ProxySession.step, step, ProxySession.afterConnecting, afterConnecting,
        Option.map_some, Option.some.injEq]
      obtain ⟨contact, tries⟩ :=
        ProxySession.contact c.retry.connectRetryLimit m script address
      cases contact with
      | made => cases ProxyRelay.start rs.streams id m l <;> rfl
      | refused cause => rfl
      | lost => rfl
    | _ => rfl
  | refusing m l cause => cases e <;> rfl
  | relaying r =>
    cases e with
    | relay e =>
      simp only [session, ProxySession.step, step]
      cases r.step c rs.streams e <;> rfl
    | _ => rfl
  | returned cause l => cases e <;> rfl

/-- A service as the handler of the session with an id. -/
def handler (c : ProxyContext) (id : String) :
    Handler StreamEntry StreamService ProxySession.Event ProxyEffect where
  id := id
  step streams s e := s.step c id streams e
  lifecycle
    | connecting _ l | refusing _ l _ | returned _ l => l
    | relaying r => r.lifecycle
  runs
    | relaying r => r.isOver = false
    | _ => False
  ends
    | relaying r => r.ends
    | _ => False
  isOver
    | relaying r => r.isOver = true
    | returned _ _ => True
    | _ => False

/-- A service whose target was lost: it has returned without closing the lifecycle. -/
def deserted : StreamService := returned none ⟨.connecting, false⟩

/-- What is known of a service whose session has an id. -/
inductive Fine (id : String) : StreamService → Prop
  | connecting {m : Body AgentKind} : Fine id (connecting m ⟨.connecting, false⟩)
  | refusing {m : Body AgentKind} {cause : RelayError} :
    Fine id (refusing m ⟨.connecting, false⟩ cause)
  | relaying {r : ProxyRelay} (h : r.Fine id) : Fine id (relaying r)
  | returned {cause : Option ProxyError} : Fine id (returned cause ⟨.closed, true⟩)
  | deserted : Fine id deserted

/-- Whether the session is registered. -/
def listed : StreamService → Bool
  | relaying r => !r.isOver
  | _ => false

theorem Fine.afterConnecting {c : ProxyContext} {id : String} {streams streams' : ProxyStreams}
    (hfree : streams.get? id = none) {m : Body AgentKind} {script : List (Option StreamError)}
    {address : Option Endpoint} {s : StreamService} {effects : List ProxyEffect}
    (hafter : afterConnecting c id streams m ⟨.connecting, false⟩ script address =
      (streams', s, effects)) :
    s.Fine id ∧ Handler.Books id streams streams' false s.listed := by
  unfold StreamService.afterConnecting at hafter
  split at hafter
  · cases hafter
    exact ⟨.deserted, .stays rfl⟩
  · cases hafter
    exact ⟨.refusing, .stays rfl⟩
  · obtain ⟨info, entered, r, hcreate, hstart, hfine, hover⟩ := ProxyRelay.exists_start hfree m
    rw [hstart] at hafter
    cases hafter
    simp only [listed, hover]
    exact ⟨.relaying hfine, .enters hcreate⟩

theorem Fine.step {c : ProxyContext} {id : String} {s s' : StreamService}
    {streams streams' : ProxyStreams} {e : ProxySession.Event} {effects : List ProxyEffect}
    (h : s.Fine id) (hown : (streams.get? id).isSome = s.listed)
    (hstep : s.step c id streams e = some (streams', s', effects)) :
    s'.Fine id ∧ Handler.Books id streams streams' s.listed s'.listed := by
  cases h with
  | @connecting m =>
    cases e with
    | connected script address =>
      have hfree : streams.get? id = none := by simpa [listed] using hown
      exact Fine.afterConnecting hfree (Option.some.inj hstep)
    | _ => cases hstep
  | refusing =>
    cases e with
    | sent messageId outcome =>
      cases hstep
      exact ⟨.returned, .stays rfl⟩
    | _ => cases hstep
  | @relaying r h =>
    cases e with
    | relay e =>
      obtain ⟨⟨streams', r', es⟩, hr, heq⟩ := Option.bind_eq_some_iff.mp hstep
      cases heq
      by_cases hover : r.isOver = true
      · rw [ProxyRelay.step_of_isOver hover] at hr
        cases hr
      · have hlisted : (streams.get? id).isSome = true := by simpa [listed, hover] using hown
        obtain ⟨hfine, hbooks⟩ := h.step hlisted hr
        exact ⟨.relaying hfine, hbooks⟩
    | _ => cases hstep
  | returned | deserted => cases hstep

theorem tidy (c : ProxyContext) (id : String) : (handler c id).Tidy (Fine id) listed where
  fine_step hfine hown hstep := hfine.step hown hstep
  listed_of_runs {s} _ hruns := by
    cases s with
    | relaying r => exact congrArg Bool.not hruns
    | _ => cases hruns
  closed_of_ends {s} hfine hends := by
    cases hfine with
    | relaying h => exact h.tells.closed (.inl hends)
    | _ => cases hends
  unlisted_of_over {s} _ hover := by
    cases s with
    | relaying r => exact congrArg Bool.not hover
    | returned cause l => rfl
    | _ => cases hover
  still_of_over {s} streams e hover := by
    cases s with
    | relaying r =>
      cases e with
      | relay e =>
        simp only [handler, step, ProxyRelay.step_of_isOver hover]
        rfl
      | _ => rfl
    | returned cause l => rfl
    | _ => cases hover

/-- The service of a connect message as it starts. -/
def scene (streams : ProxyStreams) (m : Body AgentKind) : Scene StreamEntry StreamService :=
  ⟨streams, streams.get?, connecting m ⟨.connecting, false⟩⟩

/-- A tunnel whose first message asks to connect goes the way of a service from there. -/
theorem scene_session (id : String) (streams : ProxyStreams) {m : Body AgentKind}
    (hconnect : m.kind = .connectWithKeepAlive ∨ m.kind = .connectWithoutKeepAlive) :
    ProxySession.first id (.body m) = ((scene streams m).state.session, []) := by
  rcases hconnect with hkind | hkind <;> (simp only [ProxySession.first, hkind]; rfl)

/-- A service starts with nothing registered. -/
theorem right_scene (c : ProxyContext) {id : String} {streams : ProxyStreams}
    (hfree : streams.get? id = none) (m : Body AgentKind) :
    (handler c id).Right (Fine id) listed (scene streams m) :=
  ⟨.connecting, congrArg Option.isSome hfree, fun _ _ => rfl⟩

/-- **A service is clean** unless its target has been lost. -/
theorem clean_iff {c : ProxyContext} {id : String} {d : Scene StreamEntry StreamService}
    (hd : (handler c id).Right (Fine id) listed d) (hdiscreet : (handler c id).Discreet d) :
    (handler c id).Clean d ↔ d.state ≠ deserted := by
  constructor
  · intro hclean hstate
    have hclosed := hclean.closed (by rw [hstate]; trivial)
    rw [hstate] at hclosed
    cases hclosed
  · intro hkept
    refine ⟨hdiscreet, fun hover => ?_⟩
    obtain ⟨registry, others, s⟩ := d
    cases hd.fine with
    | connecting | refusing => cases hover
    | relaying h => exact h.tells.closed (.inr hover)
    | returned => rfl
    | deserted => exact absurd rfl hkept

/-- **A target is lost** when an attempt to connect it succeeds and the address at the other end
cannot be had, or when the attempts cannot be counted; in no other way does a service come to leave
its lifecycle open. -/
theorem step_deserted_iff {c : ProxyContext} {id : String} {d : Scene StreamEntry StreamService}
    (hd : (handler c id).Right (Fine id) listed d) {e : ProxySession.Event} :
    (∃ streams effects,
        (handler c id).step d.registry d.state e = some (streams, deserted, effects)) ↔
      ∃ m script address, d.state = connecting m ⟨.connecting, false⟩ ∧
        e = .connected script address ∧
        ProxySession.IsLost c.retry.connectRetryLimit script address := by
  obtain ⟨registry, others, s⟩ := d
  have hfine : s.Fine id := hd.fine
  constructor
  · rintro ⟨streams, effects, hstep⟩
    have hstep : s.step c id registry e = some (streams, deserted, effects) := hstep
    cases hfine with
    | @connecting m =>
      cases e with
      | connected script address =>
        refine ⟨m, script, address, rfl, rfl, ?_⟩
        have hfree : registry.get? id = none := by simpa [listed, handler] using hd.own
        obtain ⟨info, entered, r, -, hstart, -⟩ := ProxyRelay.exists_start hfree m
        rw [← ProxySession.contact_eq_lost_iff _ m]
        simp only [step, afterConnecting, hstart, Option.some.injEq] at hstep
        split at hstep
        · rename_i hlost
          rw [hlost]
        · cases hstep
        · cases hstep
      | _ => cases hstep
    | refusing =>
      cases e with
      | sent messageId outcome => cases hstep
      | _ => cases hstep
    | @relaying r h =>
      cases e with
      | relay e =>
        obtain ⟨_, -, heq⟩ := Option.bind_eq_some_iff.mp hstep
        cases heq
      | _ => cases hstep
    | returned | deserted => cases hstep
  · rintro ⟨m, script, address, rfl, rfl, hlost⟩
    have hcontact := (ProxySession.contact_eq_lost_iff _ m _ _).mpr hlost
    refine ⟨registry, (ProxySession.contact c.retry.connectRetryLimit m script address).2 ++
      [.closeTunnel], ?_⟩
    change some (afterConnecting c id registry m _ script address) = _
    unfold afterConnecting
    generalize ProxySession.contact c.retry.connectRetryLimit m script address = contact
      at hcontact ⊢
    obtain ⟨outcome, tries⟩ := contact
    obtain rfl : outcome = .lost := hcontact
    rfl

end StreamService

end TunnelRelay
