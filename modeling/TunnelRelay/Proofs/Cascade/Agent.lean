import TunnelRelay.Agent.SocksSession
import TunnelRelay.Proofs.Cascade.Handler

/-!
# The handlers of an agent clean up

An agent serves a stream with a `Relay`, from the moment in which the tunnel is open, and datagrams
with an association, from the moment in which an address has been bound for it. A session forgets
the association that it could not grant, so what it does between the binding and the end is said
here once more, as a `Grant` that keeps the lifecycle in sight (`Grant.step_session`).
-/

namespace TunnelRelay

/-! ## Opening a tunnel -/

namespace Opening

/-- What an opening can lead to. -/
inductive Reaches (user : String) (o : Opening) : Opening → Prop
  | refl : Reaches user o o
  | step {p q : Opening} {e : Event} {effects : List AgentEffect} :
    Reaches user o p → p.step user e = some (q, effects) → Reaches user o q

/-- The lifecycle keeps step with the phase until the opening fails. -/
def Level (o : Opening) : Prop :=
  match o.phase with
  | .choosing _ => o.lifecycle = .fresh
  | .asking | .waiting => o.lifecycle = ⟨.connecting, false⟩
  | .opened => o.lifecycle = ⟨.established, false⟩
  | .failed _ => True

theorem level_choose {id : String} {target : Target} {keepAlive : Bool} (left : List ProxyAddress) :
    Level ⟨id, target, keepAlive, .fresh, choose id left⟩ := by
  unfold Level choose
  by_cases hleft : left = [] <;> simp [hleft]

theorem Level.answer {o : Opening} (h : o.Level) (hphase : o.phase = .waiting)
    (r : Received ProxyKind) : (o.answer r).1.Level := by
  unfold Opening.answer
  split
  · trivial
  · trivial
  split
  · exact h
  · have hl : o.lifecycle = ⟨.connecting, false⟩ := by simpa [Level, hphase] using h
    simp [move, hl, Lifecycle.transit, Level]
  · trivial
  · trivial

theorem Level.step {user : String} {o o' : Opening} (h : o.Level) {e : Event}
    {effects : List AgentEffect} (hstep : o.step user e = some (o', effects)) : o'.Level := by
  unfold Opening.step at hstep
  split at hstep
  · rename_i left hphase
    cases hstep
    have hl : o.lifecycle = .fresh := by simpa [Level, hphase] using h
    simp [move, hl, Lifecycle.fresh, Lifecycle.transit, Level]
  · rename_i left hphase
    cases hstep
    have hl : o.lifecycle = .fresh := by simpa [Level, hphase] using h
    rw [hl]
    exact level_choose left.tail
  · rename_i id outcome hphase
    simp only at hstep
    split at hstep
    · cases hstep
      simpa [Level, hphase] using h
    · cases hstep
      trivial
  · rename_i r hphase
    have hanswer : (o.answer r).1 = o' := congrArg Prod.fst (Option.some.inj hstep)
    exact hanswer ▸ h.answer hphase r
  · cases hstep
    trivial
  · cases hstep

/-- An opening that has come to its end has an established session. -/
theorem lifecycle_of_opened {user id : String} {target : Target} {keepAlive : Bool}
    {proxies : List ProxyAddress} {o : Opening}
    (h : Reaches user (start id target keepAlive proxies) o) (hopened : o.phase = .opened) :
    o.lifecycle = ⟨.established, false⟩ := by
  have hlevel : o.Level := by
    clear hopened
    induction h with
    | refl => exact level_choose proxies
    | step _ hstep ih => exact ih.step hstep
  simpa [Level, hopened] using hlevel

end Opening

/-! ## Streams -/

namespace Relay

/-- A leg has ended. -/
def ends (r : Relay) : Prop :=
  match r.phase with
  | .running up down watching => up.isEnded = true ∨ down = .ended ∨ watching = false
  | _ => False

/-- The legs run. -/
def runs (r : Relay) : Prop :=
  match r.phase with
  | .running _ _ _ => True
  | _ => False

/-- The relay has returned. -/
def isOver (r : Relay) : Bool :=
  match r.phase with
  | .closed _ => true
  | _ => false

/-- A relay as the handler of the session with an id. -/
def handler (c : AgentContext) (id : String) : Handler StreamEntry Relay Event AgentEffect where
  id := id
  step streams r e := r.step c streams e
  lifecycle := lifecycle
  runs := runs
  ends := ends
  isOver r := r.isOver = true

/-- What is known of a relay whose session has an id. -/
structure Fine (id : String) (r : Relay) : Prop where
  id_eq : r.id = id
  tells : r.lifecycle.Tells (r.ends ∨ r.isOver = true)

variable {id : String} {target : Target} {l : Lifecycle} {p : Prop}

theorem fine_running {up : ToProxy} {down : FromProxy} {watching : Bool}
    (h : l.Tells (up.isEnded = true ∨ down = .ended ∨ watching = false)) :
    Fine id ⟨id, target, l, .running up down watching⟩ :=
  ⟨rfl, h.keep fun hends => hends.resolve_right (fun hover => by cases hover)⟩

theorem fine_closed (h : l.Tells p) (next : Option HandBack) :
    Fine id ⟨id, target, l.close.2, .closed next⟩ :=
  ⟨rfl, h.close⟩

/-- **A relay closes the session whenever a leg ends, and removes the entry at the end.** -/
theorem Fine.step {c : AgentContext} {r r' : Relay} (h : r.Fine id) {streams streams' : Streams}
    {e : Event} {effects : List AgentEffect}
    (hstep : r.step c streams e = some (streams', r', effects)) :
    r'.Fine id ∧ Handler.Books id streams streams' (!r.isOver) (!r'.isOver) := by
  obtain ⟨rid, target, l, phase⟩ := r
  obtain ⟨rfl, htells⟩ := h
  simp only at htells ⊢
  unfold Relay.step at hstep
  split at hstep
  · cases hstep
  rename_i hvisible
  simp only at hstep
  split at hstep
  · -- the first octets are being sent
    split at hstep
    · cases hstep
      exact ⟨fine_running (htells.keep (by simp [ToProxy.isEnded])), .stays rfl⟩
    · cases hstep
      exact ⟨fine_closed htells none, .leaves rfl⟩
  · -- the leg to the proxy
    rename_i up down watching e
    obtain ⟨⟨up', es⟩, -, heq⟩ := Option.bind_eq_some_iff.mp hstep
    cases heq
    refine ⟨fine_running (htells.move fun hends => ?_), .stays rfl⟩
    exact hends.imp_right fun hothers => .inl (.inr hothers)
  · -- the leg from the proxy
    rename_i up down watching e
    obtain ⟨⟨down', es⟩, -, heq⟩ := Option.bind_eq_some_iff.mp hstep
    cases heq
    refine ⟨fine_running (htells.move fun hends => ?_), .stays rfl⟩
    rcases hends with hup | hdown | hwatching
    · exact .inr (.inl (.inl hup))
    · exact .inl (decide_eq_true hdown)
    · exact .inr (.inl (.inr (.inr hwatching)))
  · -- the tunnel is silent
    cases hstep
    exact ⟨fine_running htells.close, .stays rfl⟩
  · -- only the watching leg ends, as the session is closed
    cases hstep
    have hcancelled : l.cancelled = true := by simpa [visible] using hvisible
    have hclosed := htells.whole.of_cancelled hcancelled
    exact ⟨fine_running ⟨htells.whole, fun _ => hclosed⟩, .stays rfl⟩
  · -- all legs have ended
    cases hstep
    exact ⟨fine_closed htells _, .leaves rfl⟩
  · cases hstep

theorem step_of_isOver {c : AgentContext} {r : Relay} (h : r.isOver = true) (streams : Streams)
    (e : Event) : r.step c streams e = none := by
  obtain ⟨id, target, l, phase⟩ := r
  cases phase with
  | closed next => unfold step; split <;> rfl
  | running => cases h
  | starting => cases h

theorem tidy (c : AgentContext) (id : String) :
    (handler c id).Tidy (Fine id) fun r => !r.isOver where
  fine_step hfine _ hstep := hfine.step hstep
  listed_of_runs {r} _ hruns := by
    obtain ⟨id, target, lifecycle, phase⟩ := r
    cases phase with
    | running => rfl
    | starting => cases hruns
    | closed => cases hruns
  closed_of_ends hfine hends := hfine.tells.closed (.inl hends)
  unlisted_of_over _ hover := congrArg Bool.not hover
  still_of_over streams e hover := step_of_isOver hover streams e

theorem closed_of_over {c : AgentContext} {id : String} {r : Relay} (h : r.Fine id)
    (hover : (handler c id).isOver r) : (handler c id).lifecycle r = ⟨.closed, true⟩ :=
  h.tells.closed (.inr hover)

/-- A relay over an open tunnel as it starts. -/
def scene (user : String) (streams : Streams) (o : Opening) (data : Bytes) (source : Source) :
    Scene StreamEntry Relay :=
  let (entered, r, _) := start user streams o data source
  ⟨entered, streams.get?, r⟩

/-- A relay over an open tunnel starts with its session registered. -/
theorem right_scene (c : AgentContext) (user : String) {streams : Streams} {o : Opening}
    (hopen : o.lifecycle = ⟨.established, false⟩) (hfree : streams.get? o.id = none) (data : Bytes)
    (source : Source) :
    (handler c o.id).Right (Fine o.id) (fun r => !r.isOver) (scene user streams o data source) := by
  obtain ⟨streams', hcreate⟩ := Registry.exists_create hfree ⟨o.target, user, o.keepAlive⟩
  have hstart : start user streams o data source = (streams',
      ⟨o.id, o.target, o.lifecycle, if data = [] then legs source else .starting data source⟩,
      []) := by
    simp only [start, hcreate]
  unfold scene
  rw [hstart]
  refine ⟨⟨rfl, ?_⟩, ?_, fun key hkey => ?_⟩
  · simp only [hopen]
    refine ⟨.live (by decide), ?_⟩
    by_cases hdata : data = [] <;> simp [hdata, legs, ends, isOver, ToProxy.isEnded]
  · have hlisted : (!isOver ⟨o.id, o.target, o.lifecycle,
        if data = [] then legs source else .starting data source⟩) = true := by
      by_cases hdata : data = [] <;> simp [hdata, legs, isOver]
    simp only [handler, Registry.get?_create hcreate, if_true, hlisted, Option.isSome_some]
  · exact (Registry.get?_create hcreate key).trans (if_neg hkey)

end Relay

/-! ## Datagrams -/

namespace Association

/-- A leg has ended. -/
def ends (a : Association) : Prop := a.outbound = .ended ∨ a.inbound = .ended ∨ a.watching = false

/-- What a step leaves of an association that is not over: either no leg has ended, or the
association has been closed. -/
structure Follows (a b : Association) : Prop where
  id_eq : b.id = a.id
  goesOn : b.isOver = a.isOver
  told : b.lifecycle = a.lifecycle ∧ (b.ends → a.ends) ∨
    b.lifecycle = a.lifecycle.close.2

variable {id : String} {a b : Association} {c : AgentContext} {all all' : Associations} {e : Event}
  {effects : List AgentEffect}

theorem Follows.refl (a : Association) : Follows a a := ⟨rfl, rfl, .inl ⟨rfl, fun h => h⟩⟩

theorem follows_endOutbound (a : Association) : Follows a a.endOutbound.1 :=
  ⟨rfl, rfl, .inr rfl⟩

/-- A leg that has not ended goes on. -/
theorem follows_outbound {outbound : Outbound} (hne : outbound ≠ .ended) (sender : Option Endpoint)
    (recipient : Option Target) : Follows a { a with sender, recipient, outbound } :=
  ⟨rfl, rfl, .inl ⟨rfl, fun h => .inr (h.resolve_left hne)⟩⟩

theorem follows_inbound {inbound : Inbound} (hne : inbound ≠ .ended) :
    Follows a { a with inbound } :=
  ⟨rfl, rfl, .inl ⟨rfl, fun h => h.imp_right fun h => .inr (h.resolve_left hne)⟩⟩

theorem follows_receive (proxies : List ProxyAddress) (sender : Endpoint) (octets : Bytes)
    (hreading : a.outbound = .reading) : Follows a (receive proxies sender octets a).1 := by
  have hne : a.outbound ≠ .ended := by simp [hreading]
  unfold receive
  split
  · exact .refl a
  split
  · exact .refl a
  split
  · exact .refl a
  simp only
  split
  · exact follows_outbound hne _ _
  unfold forward
  split
  · exact follows_outbound (by simp) _ _
  split
  · exact ⟨rfl, rfl, .inr rfl⟩
  · exact follows_outbound (by simp) _ _

theorem follows_deliver (r : Received ProxyKind) : Follows a (a.deliver r) := by
  unfold deliver
  split
  · exact ⟨rfl, rfl, .inr rfl⟩
  · exact ⟨rfl, rfl, .inr rfl⟩
  split
  · exact .refl a
  · split
    · exact .refl a
    · exact follows_inbound (by simp)
  · exact ⟨rfl, rfl, .inr rfl⟩

/-- An association that is not over goes on, and is closed if a leg ends. -/
theorem follows_of_step (he : e ≠ .finished) (hstep : a.step c all e = some (all', b, effects)) :
    all' = all ∧ Follows a b := by
  unfold Association.step at hstep
  split at hstep
  · cases hstep
  cases e with
  | datagram sender octets =>
    obtain ⟨hreading, hstep⟩ := Option.ite_none_right_eq_some.mp hstep
    obtain ⟨rfl, hreceive⟩ := Prod.mk.inj (Option.some.inj hstep)
    have hb : (receive c.proxies sender octets a).1 = b := congrArg Prod.fst hreceive
    exact ⟨rfl, hb ▸ follows_receive c.proxies sender octets hreading⟩
  | receiveFailed =>
    obtain ⟨-, hstep⟩ := Option.ite_none_right_eq_some.mp hstep
    cases hstep
    exact ⟨rfl, follows_endOutbound a⟩
  | outboundClosed =>
    obtain ⟨-, hstep⟩ := Option.ite_none_right_eq_some.mp hstep
    cases hstep
    exact ⟨rfl, follows_endOutbound a⟩
  | tried accepted =>
    simp only at hstep
    split at hstep
    · cases accepted with
      | true =>
        cases hstep
        refine ⟨rfl, rfl, rfl, .inl ⟨rfl, ?_⟩⟩
        rintro (h | h | h)
        · cases h
        · cases h
        · exact .inr (.inr h)
      | false =>
        simp only [Bool.false_eq_true, if_false] at hstep
        split at hstep
        · cases hstep
          exact ⟨rfl, follows_endOutbound a⟩
        · cases hstep
          exact ⟨rfl, follows_outbound (by simp) _ _⟩
    · cases hstep
  | sent messageId outcome =>
    simp only at hstep
    split at hstep
    · split at hstep
      · cases hstep
        exact ⟨rfl, follows_outbound (by simp) _ _⟩
      · cases hstep
        exact ⟨rfl, follows_endOutbound a⟩
    · cases hstep
  | received r =>
    obtain ⟨-, hstep⟩ := Option.ite_none_right_eq_some.mp hstep
    cases hstep
    exact ⟨rfl, follows_deliver r⟩
  | delivered success =>
    simp only at hstep
    split at hstep
    · cases success with
      | true =>
        cases hstep
        exact ⟨rfl, follows_inbound (by simp)⟩
      | false =>
        cases hstep
        exact ⟨rfl, rfl, rfl, .inr rfl⟩
    · cases hstep
  | inboundClosed =>
    obtain ⟨-, hstep⟩ := Option.ite_none_right_eq_some.mp hstep
    cases hstep
    exact ⟨rfl, rfl, rfl, .inr rfl⟩
  | chatter =>
    obtain ⟨-, hstep⟩ := Option.ite_none_right_eq_some.mp hstep
    cases hstep
    exact ⟨rfl, .refl a⟩
  | disconnected =>
    obtain ⟨-, hstep⟩ := Option.ite_none_right_eq_some.mp hstep
    cases hstep
    exact ⟨rfl, rfl, rfl, .inr rfl⟩
  | unwatched =>
    obtain ⟨-, hstep⟩ := Option.ite_none_right_eq_some.mp hstep
    cases hstep
    exact ⟨rfl, rfl, rfl, .inr rfl⟩
  | finished => exact absurd rfl he

/-- What is known of an association whose session has an id. -/
structure Fine (id : String) (a : Association) : Prop where
  id_eq : a.id = id
  tells : a.lifecycle.Tells (a.ends ∨ a.isOver = true)

theorem fine_start (id : String) (client : Ip) :
    (start id client ⟨.established, false⟩).Fine id where
  id_eq := rfl
  tells := ⟨.live (by decide), by simp [start, ends]⟩

theorem Fine.follow (h : a.Fine id) (hb : Follows a b) : b.Fine id where
  id_eq := hb.id_eq.trans h.id_eq
  tells := by
    rcases hb.told with ⟨hl, hends⟩ | hl
    · rw [hl, hb.goesOn]
      exact h.tells.keep (Or.imp_left hends)
    · rw [hl]
      exact h.tells.close

/-- **An association is closed whenever a leg ends, and removes its entry at the end.** -/
theorem Fine.step (h : a.Fine id) (hstep : a.step c all e = some (all', b, effects)) :
    b.Fine id ∧ Handler.Books id all all' (!a.isOver) (!b.isOver) := by
  by_cases he : e = .finished
  · subst he
    unfold Association.step at hstep
    split at hstep
    · cases hstep
    obtain ⟨-, hstep⟩ := Option.ite_none_right_eq_some.mp hstep
    cases hstep
    refine ⟨⟨h.id_eq, h.tells.close⟩, ?_⟩
    rw [h.id_eq]
    exact .leaves rfl
  · obtain ⟨rfl, hb⟩ := follows_of_step he hstep
    rw [hb.goesOn]
    exact ⟨h.follow hb, .stays rfl⟩

theorem step_of_isOver (h : a.isOver = true) (all : Associations) (e : Event) :
    a.step c all e = none := by
  simp [Association.step, h]

end Association

/-! ## From the binding to the end -/

/-- How far an association is for which an address has been bound. -/
inductive Grant where
  /-- The client is being told the address. -/
  | granting (a : Association) (bound : Endpoint)
  | running (a : Association)
  /-- The client could not be told. -/
  | withdrawn (l : Lifecycle)

namespace Grant

/-- How far the client's session is. -/
def session : Grant → SocksSession
  | granting a bound => .granting a bound
  | running a => .associated a
  | withdrawn _ => .closed

/-- An association is registered at an address. -/
def start (user : String) (link : ClientLink) (all : Associations) (bound : Endpoint) :
    Associations × Grant :=
  match all.create link.id ⟨user, link.client, bound⟩ with
  | .ok all => (all, granting (Association.start link.id link.client.ip ⟨.established, false⟩) bound)
  | .error _ => (all, withdrawn Lifecycle.fresh)

/-- What an event leads to; nothing when the session does not wait for it. -/
def step (c : AgentContext) (all : Associations) :
    Grant → SocksSession.Event → Option (Associations × Grant × List AgentEffect)
  | granting a bound, .wrote true => some (all, running a, [.toClient (SocksSession.grant bound)])
  | granting a _, .wrote false => some (all.remove a.id, withdrawn a.lifecycle.close.2, [])
  | running a, .association e => do
    let (all, a, effects) ← a.step c all e
    return (all, running a, effects)
  | _, _ => none

/-- What a step of a grant is for the agent. -/
def outcome (rs : AgentRegistries) (next : Associations × Grant × List AgentEffect) :
    AgentRegistries × SocksSession × List AgentEffect :=
  ({ rs with associations := next.1 }, next.2.1.session, next.2.2)

theorem step_session (c : AgentContext) (link : ClientLink) (rs : AgentRegistries) (g : Grant)
    (e : SocksSession.Event) :
    SocksSession.step c link rs g.session e = (g.step c rs.associations e).map (outcome rs) := by
  cases g with
  | granting a bound =>
    cases e with
    | wrote success => cases success <;> rfl
    | _ => rfl
  | running a =>
    cases e with
    | association e =>
      simp only [session, SocksSession.step, step]
      cases a.step c rs.associations e <;> rfl
    | _ => rfl
  | withdrawn l => cases e <;> rfl

/-- A grant as the handler of the session with an id. -/
def handler (c : AgentContext) (id : String) :
    Handler AssociationEntry Grant SocksSession.Event AgentEffect where
  id := id
  step all g e := g.step c all e
  lifecycle
    | granting a _ | running a => a.lifecycle
    | withdrawn l => l
  runs
    | running a => a.isOver = false
    | _ => False
  ends
    | running a => a.ends
    | _ => False
  isOver
    | granting _ _ => False
    | running a => a.isOver = true
    | withdrawn _ => True

/-- What is known of a grant whose session has an id. -/
inductive Fine (id : String) : Grant → Prop
  | granting {a : Association} {bound : Endpoint} (h : a.Fine id) (hover : a.isOver = false) :
    Fine id (granting a bound)
  | running {a : Association} (h : a.Fine id) : Fine id (running a)
  | withdrawn : Fine id (withdrawn ⟨.closed, true⟩)

/-- Whether the association is registered. -/
def listed : Grant → Bool
  | granting _ _ => true
  | running a => !a.isOver
  | withdrawn _ => false

theorem Fine.step {c : AgentContext} {id : String} {g g' : Grant} {all all' : Associations}
    {e : SocksSession.Event} {effects : List AgentEffect} (h : g.Fine id)
    (hstep : g.step c all e = some (all', g', effects)) :
    g'.Fine id ∧ Handler.Books id all all' g.listed g'.listed := by
  cases h with
  | @granting a bound h hover =>
    cases e with
    | wrote success =>
      cases success with
      | true =>
        cases hstep
        refine ⟨.running h, ?_⟩
        simp only [listed, hover]
        exact .stays rfl
      | false =>
        cases hstep
        rw [h.tells.whole.close, h.id_eq]
        exact ⟨.withdrawn, .leaves rfl⟩
    | _ => cases hstep
  | @running a h =>
    cases e with
    | association e =>
      obtain ⟨⟨all', a', es⟩, ha, heq⟩ := Option.bind_eq_some_iff.mp hstep
      cases heq
      obtain ⟨hfine, hbooks⟩ := h.step ha
      exact ⟨.running hfine, hbooks⟩
    | _ => cases hstep
  | withdrawn => cases hstep

theorem tidy (c : AgentContext) (id : String) : (handler c id).Tidy (Fine id) listed where
  fine_step hfine _ hstep := hfine.step hstep
  listed_of_runs {g} _ hruns := by
    cases g with
    | granting a bound => cases hruns
    | running a => exact congrArg Bool.not hruns
    | withdrawn l => cases hruns
  closed_of_ends {g} hfine hends := by
    cases hfine with
    | granting h hover => cases hends
    | running h => exact h.tells.closed (.inl hends)
    | withdrawn => cases hends
  unlisted_of_over {g} _ hover := by
    cases g with
    | granting a bound => cases hover
    | running a => exact congrArg Bool.not hover
    | withdrawn l => rfl
  still_of_over {g} all e hover := by
    cases g with
    | granting a bound => cases hover
    | running a =>
      cases e with
      | association e =>
        simp only [handler, step, Association.step_of_isOver hover]
        rfl
      | _ => rfl
    | withdrawn l => rfl

theorem closed_of_over {c : AgentContext} {id : String} {g : Grant} (h : g.Fine id)
    (hover : (handler c id).isOver g) : (handler c id).lifecycle g = ⟨.closed, true⟩ := by
  cases h with
  | granting h hopen => cases hover
  | running h => exact h.tells.closed (.inr hover)
  | withdrawn => rfl

/-- An association that has been bound as it starts. -/
def scene (user : String) (link : ClientLink) (all : Associations) (bound : Endpoint) :
    Scene AssociationEntry Grant :=
  let (entered, g) := start user link all bound
  ⟨entered, all.get?, g⟩

/-- A session that has bound an address goes the way of a grant from there. -/
theorem scene_session (user : String) (link : ClientLink) (rs : AgentRegistries)
    (bound : Endpoint) :
    SocksSession.associate user link rs bound =
      ({ rs with associations := (scene user link rs.associations bound).registry },
        (scene user link rs.associations bound).state.session) := by
  have htransit : Lifecycle.fresh.transit .idle .established = .ok ⟨.established, false⟩ := rfl
  unfold SocksSession.associate scene start
  rw [htransit]
  cases rs.associations.create link.id ⟨user, link.client, bound⟩ <;> rfl

/-- An association that has been bound starts with its session registered. -/
theorem right_scene (c : AgentContext) (user : String) (link : ClientLink) {all : Associations}
    (hfree : all.get? link.id = none) (bound : Endpoint) :
    (handler c link.id).Right (Fine link.id) listed (scene user link all bound) := by
  obtain ⟨all', hcreate⟩ := Registry.exists_create hfree ⟨user, link.client, bound⟩
  have hstart : start user link all bound =
      (all', granting (.start link.id link.client.ip ⟨.established, false⟩) bound) := by
    simp only [start, hcreate]
  unfold scene
  rw [hstart]
  refine ⟨.granting (Association.fine_start _ _) rfl, ?_, fun key hkey => ?_⟩
  · simp only [handler, Registry.get?_create hcreate, if_true, listed, Option.isSome_some]
  · exact (Registry.get?_create hcreate key).trans (if_neg hkey)

end Grant

end TunnelRelay
