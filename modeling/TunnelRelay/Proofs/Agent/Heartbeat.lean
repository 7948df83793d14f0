import TunnelRelay.Proofs.Agent.Session

/-!
# Heartbeats say nothing to a client

Everything of an agent that reads from a tunnel does nothing when it reads a heartbeat, and reads
one whenever it reads at all. So two runs whose messages differ in heartbeats only, and which are
the same otherwise, lead to the same state by the same effects (`HidesHeartbeats.eq_of_run`), and
what happens with some messages happens with any heartbeats put between them or taken out
(`HidesHeartbeats.exists_run`). `heartbeats_invisible` says so of opening a tunnel, of both ways of
relaying, and of a client's whole session.
-/

namespace TunnelRelay

/-- Whether what was read is a heartbeat. -/
def Received.isHeartbeat : Received ProxyKind → Bool
  | .body m => m.kind = .heartbeat
  | _ => false

/-- The same without heartbeats. -/
def Received.withoutHeartbeats (rs : List (Received ProxyKind)) : List (Received ProxyKind) :=
  rs.filter (!·.isHeartbeat)

/-- What waits for events, in some of which it reads from a tunnel. -/
structure Listener (σ ε : Type) where
  /-- What an event leads to; nothing when it is not waited for. -/
  step : σ → ε → Option (σ × List AgentEffect)
  /-- What is read from the tunnel in an event, if anything is. -/
  receives : ε → Option (Received ProxyKind)

namespace Listener

variable {σ ε : Type} (l : Listener σ ε)

/-- What a sequence of events leads to. -/
def run : σ → List ε → Option (σ × List AgentEffect)
  | s, [] => some (s, [])
  | s, e :: es => do
    let (s, effects) ← l.step s e
    let (s, more) ← run s es
    return (s, effects ++ more)

/-- What is read from the tunnel in a sequence of events. -/
def received (es : List ε) : List (Received ProxyKind) := es.filterMap l.receives

/-- Whether a heartbeat is read in an event. -/
def hearsHeartbeat (e : ε) : Bool := (l.receives e).any Received.isHeartbeat

/-- The events in which no heartbeat is read. -/
def others (es : List ε) : List ε := es.filter (!l.hearsHeartbeat ·)

/-- Whoever reads from the tunnel may read a heartbeat instead, which does nothing. -/
def OverlooksHeartbeats : Prop :=
  ∀ s e r next, l.receives e = some r → l.step s e = some next →
    ∀ b : Body ProxyKind, b.kind = .heartbeat →
      ∃ e', l.receives e' = some (.body b) ∧ l.step s e' = some (s, []) ∧ (r = .body b → e' = e)

/-- **Two runs that differ in heartbeats only are the same**, and heartbeats may come at any time.
-/
structure HidesHeartbeats : Prop where
  /-- Runs with the same other events come to the same. -/
  eq_of_run : ∀ s es es' result result', l.others es = l.others es' →
    l.run s es = some result → l.run s es' = some result' → result = result'
  /-- What happens with some messages happens with any heartbeats put between them or taken out;
  those that come after all messages may be left in the tunnel. -/
  exists_run : ∀ s es result rs, l.run s es = some result →
    Received.withoutHeartbeats rs = Received.withoutHeartbeats (l.received es) →
      ∃ es' unread, l.run s es' = some result ∧ l.others es' = l.others es ∧
        l.received es' ++ unread = rs ∧ ∀ r ∈ unread, r.isHeartbeat

/-! ## Runs -/

variable {l} {s s' : σ} {e : ε} {es es' : List ε} {effects : List AgentEffect}
  {result : σ × List AgentEffect}

theorem run_cons (h : l.step s e = some (s', effects)) :
    l.run s (e :: es) = (l.run s' es).map fun (s, more) => (s, effects ++ more) := by
  simp only [run, h, Option.bind_eq_bind, Option.bind_some, Option.map_eq_bind]
  rfl

/-- The first event of a run is waited for. -/
theorem exists_step_of_run (h : l.run s (e :: es) = some result) :
    ∃ s' effects, l.step s e = some (s', effects) := by
  cases hstep : l.step s e with
  | none =>
    rw [run, hstep] at h
    cases h
  | some next => exact ⟨next.1, next.2, rfl⟩

/-- An event that does nothing may come before a run. -/
theorem run_cons_of_silent (h : l.step s e = some (s, [])) : l.run s (e :: es) = l.run s es := by
  rw [run_cons h]
  cases l.run s es <;> rfl

/-- Events that do nothing may come before a run. -/
theorem run_append_of_silent (h : ∀ e ∈ es, l.step s e = some (s, [])) :
    l.run s (es ++ es') = l.run s es' := by
  induction es with
  | nil => rfl
  | cons e es ih =>
    rw [List.cons_append, run_cons_of_silent (h e List.mem_cons_self)]
    exact ih fun e he => h e (List.mem_cons_of_mem _ he)

/-- Taking heartbeats out of the events takes them out of what is read. -/
theorem received_others (l : Listener σ ε) (es : List ε) :
    l.received (l.others es) = Received.withoutHeartbeats (l.received es) := by
  rw [received, others, Received.withoutHeartbeats, received, List.filterMap_filter,
    List.filter_filterMap]
  refine List.filterMap_congr fun e _ => ?_
  rw [hearsHeartbeat]
  cases l.receives e with
  | none => rfl
  | some r => cases hr : r.isHeartbeat <;> simp [hr, Option.filter]

namespace OverlooksHeartbeats

variable (h : l.OverlooksHeartbeats)

include h

/-- A heartbeat does nothing. -/
theorem silent (hears : l.hearsHeartbeat e) (hstep : l.step s e = some result) :
    l.step s e = some (s, []) := by
  unfold hearsHeartbeat at hears
  cases hr : l.receives e with
  | none =>
    rw [hr] at hears
    cases hears
  | some r =>
    rw [hr] at hears
    cases r with
    | ended => cases hears
    | failed error => cases hears
    | body b =>
      obtain ⟨e', -, hsilent, heq⟩ := h s e _ _ hr hstep b (of_decide_eq_true hears)
      rw [← heq rfl]
      exact hsilent

/-- Heartbeats can be taken out of a run. -/
theorem run_others (hrun : l.run s es = some result) : l.run s (l.others es) = some result := by
  induction es generalizing s result with
  | nil => exact hrun
  | cons e es ih =>
    obtain ⟨s', effects, hstep⟩ := exists_step_of_run hrun
    by_cases hears : l.hearsHeartbeat e
    · have hsilent := h.silent hears hstep
      rw [run_cons_of_silent hsilent] at hrun
      rw [others, List.filter_cons_of_neg (by simpa using hears)]
      exact ih hrun
    · rw [run_cons hstep] at hrun
      obtain ⟨rest, hrest, rfl⟩ := Option.map_eq_some_iff.mp hrun
      rw [others, List.filter_cons_of_pos (by simpa using hears), run_cons hstep]
      exact Option.map_eq_some_iff.mpr ⟨rest, ih hrest, rfl⟩

/-- Where something is read from the tunnel, any heartbeats can be read before it. -/
theorem exists_heartbeats {r : Received ProxyKind} (hr : l.receives e = some r)
    (hstep : l.step s e = some result) {beats : List (Received ProxyKind)}
    (hbeats : ∀ r ∈ beats, r.isHeartbeat) :
    ∃ es, l.received es = beats ∧ l.others es = [] ∧ ∀ e ∈ es, l.step s e = some (s, []) := by
  induction beats with
  | nil => exact ⟨[], rfl, rfl, by simp⟩
  | cons beat beats ih =>
    obtain ⟨es, hreceived, hothers, hsilent⟩ :=
      ih fun r hr => hbeats r (List.mem_cons_of_mem _ hr)
    have hbeat := hbeats beat List.mem_cons_self
    cases beat with
    | ended => cases hbeat
    | failed error => cases hbeat
    | body b =>
      obtain ⟨e', hr', hsilent', -⟩ := h s e r _ hr hstep b (of_decide_eq_true hbeat)
      have hears : l.hearsHeartbeat e' := by
        rw [hearsHeartbeat, hr']
        exact hbeat
      refine ⟨e' :: es, ?_, ?_, ?_⟩
      · rw [← hreceived]
        exact List.filterMap_cons_some hr'
      · rw [others, List.filter_cons_of_neg (by simpa using hears)]
        exact hothers
      · intro e he
        rcases List.mem_cons.mp he with rfl | he
        · exact hsilent'
        · exact hsilent e he

/-- Heartbeats can be put anywhere between the messages of a run without any. -/
theorem exists_run_of_others (hes : l.others es = es) (hrun : l.run s es = some result)
    {rs : List (Received ProxyKind)} (hrs : Received.withoutHeartbeats rs = l.received es) :
    ∃ es' unread, l.run s es' = some result ∧ l.others es' = es ∧
      l.received es' ++ unread = rs ∧ ∀ r ∈ unread, r.isHeartbeat := by
  induction es generalizing s result rs with
  | nil =>
    -- only heartbeats are left, and nobody reads them any more
    refine ⟨[], rs, hrun, rfl, rfl, fun r hr => ?_⟩
    simpa using List.filter_eq_nil_iff.mp hrs r hr
  | cons e es ih =>
    obtain ⟨hears, hothers⟩ : l.hearsHeartbeat e = false ∧ l.others es = es := by
      have hall := List.filter_eq_self.mp hes
      refine ⟨by simpa using hall e List.mem_cons_self, List.filter_eq_self.mpr fun e he => ?_⟩
      exact hall e (List.mem_cons_of_mem _ he)
    obtain ⟨s', effects, hstep⟩ := exists_step_of_run hrun
    rw [run_cons hstep] at hrun
    obtain ⟨rest, hrest, rfl⟩ := Option.map_eq_some_iff.mp hrun
    cases hr : l.receives e with
    | none =>
      rw [received, List.filterMap_cons_none hr] at hrs
      obtain ⟨es', unread, hrun', hothers', hreceived', hunread⟩ := ih hothers hrest hrs
      refine ⟨e :: es', unread, ?_, ?_, ?_, hunread⟩
      · rw [run_cons hstep, hrun']
        rfl
      · rw [others, List.filter_cons_of_pos (by simpa using hears)]
        exact congrArg (e :: ·) hothers'
      · rw [received, List.filterMap_cons_none hr]
        exact hreceived'
    | some r =>
      -- the heartbeats before this message are read right before it
      rw [received, List.filterMap_cons_some hr] at hrs
      obtain ⟨beats, rs', rfl, hbeats, -, hrs'⟩ := List.filter_eq_cons_iff.mp hrs
      obtain ⟨es', unread, hrun', hothers', hreceived', hunread⟩ := ih hothers hrest hrs'
      obtain ⟨before, hbefore, hnone, hsilent⟩ :=
        h.exists_heartbeats hr hstep fun r hr => by simpa using hbeats r hr
      refine ⟨before ++ e :: es', unread, ?_, ?_, ?_, hunread⟩
      · rw [run_append_of_silent hsilent, run_cons hstep, hrun']
        rfl
      · rw [others, List.filter_append, List.filter_cons_of_pos (by simpa using hears)]
        rw [others] at hnone hothers'
        rw [hnone, hothers', List.nil_append]
      · rw [received, List.filterMap_append, List.filterMap_cons_some hr, ← hreceived']
        rw [received] at hbefore
        rw [hbefore, List.append_assoc]
        rfl

theorem hidesHeartbeats : l.HidesHeartbeats where
  eq_of_run s es es' result result' hsame hrun hrun' := by
    have heq := h.run_others hrun
    rw [hsame, h.run_others hrun'] at heq
    exact (Option.some.inj heq).symm
  exists_run s es result rs hrun hrs := by
    have hothers : l.others (l.others es) = l.others es := by simp [others]
    refine h.exists_run_of_others hothers (h.run_others hrun) ?_
    rw [hrs, l.received_others]

end OverlooksHeartbeats

end Listener

/-! ## What reads from a tunnel -/

/-- Opening a tunnel for a user. -/
def Opening.listener (user : String) : Listener Opening Opening.Event where
  step o e := o.step user e
  receives := Event.receives

/-- Relaying a stream, with the sessions that are registered. -/
def Relay.listener (c : AgentContext) : Listener (Streams × Relay) Relay.Event where
  step s e := (s.2.step c s.1 e).map fun (streams, r, effects) => ((streams, r), effects)
  receives := Event.receives

/-- What an association reads from the tunnel in an event, if it does. -/
def Association.Event.receives : Association.Event → Option (Received ProxyKind)
  | .received r => some r
  | _ => none

/-- Relaying datagrams, with the associations that are registered. -/
def Association.listener (c : AgentContext) :
    Listener (Associations × Association) Association.Event where
  step s e := (s.2.step c s.1 e).map fun (all, a, effects) => ((all, a), effects)
  receives := Event.receives

/-- The session of a client, with what is registered. -/
def AgentSession.listener (c : AgentContext) (link : ClientLink) :
    Listener (AgentRegistries × AgentSession) AgentSession.Event where
  step s e := (s.2.step c link s.1 e).map fun (rs, s, effects) => ((rs, s), effects)
  receives := Event.receives

variable {c : AgentContext} {m : Body ProxyKind}

/-- An opening reads from its tunnel while it waits for the answer. -/
theorem Opening.phase_of_received {user : String} {o : Opening} {r : Received ProxyKind}
    {next : Opening × List AgentEffect} (h : o.step user (.received r) = some next) :
    o.phase = .waiting := by
  obtain ⟨id, target, keepAlive, lifecycle, phase⟩ := o
  cases phase with
  | waiting => rfl
  | choosing left => cases h
  | asking => cases h
  | opened => cases h
  | failed e => cases h

/-- An opening does nothing when it reads a heartbeat. -/
theorem Opening.step_heartbeat {user : String} {o : Opening} (ho : o.phase = .waiting)
    (hm : m.kind = .heartbeat) : o.step user (.received (.body m)) = some (o, []) := by
  simp only [step, ho, answer, hm]

/-- A relay reads from its tunnel while its leg to the client reads. -/
theorem Relay.phase_of_received {streams : Streams} {relay : Relay} {r : Received ProxyKind}
    {next : Streams × Relay × List AgentEffect}
    (h : relay.step c streams (.down (.received r)) = some next) :
    ∃ up watching, relay.phase = .running up .reading watching := by
  obtain ⟨id, target, lifecycle, phase⟩ := relay
  cases phase with
  | starting data source => cases h
  | closed handed => cases h
  | running up down watching =>
    cases down with
    | reading => exact ⟨up, watching, rfl⟩
    | writing data => cases h
    | ended => cases h

/-- A relay does nothing when it reads a heartbeat. -/
theorem Relay.step_heartbeat {relay : Relay} {up : ToProxy} {watching : Bool}
    (hrelay : relay.phase = .running up .reading watching) (hm : m.kind = .heartbeat)
    (streams : Streams) :
    relay.step c streams (.down (.received (.body m))) = some (streams, relay, []) := by
  obtain ⟨id, target, lifecycle, phase⟩ := relay
  obtain rfl : phase = .running up .reading watching := hrelay
  simp only [step, visible, FromProxy.step, FromProxy.receive, hm]
  rfl

/-- An association does nothing when it reads a heartbeat. -/
theorem Association.step_heartbeat {all : Associations} {a : Association} {r : Received ProxyKind}
    {next : Associations × Association × List AgentEffect}
    (h : a.step c all (.received r) = some next) (hm : m.kind = .heartbeat) :
    a.step c all (.received (.body m)) = some (all, a, []) := by
  unfold step at h ⊢
  split at h
  · cases h
  · rename_i hopen
    have hopen' : ¬(!visible a.lifecycle (.received (.body m)) || a.isOver) := hopen
    rw [if_neg hopen']
    simp only at h ⊢
    split at h
    · rename_i hreading
      rw [if_pos hreading]
      simp only [deliver, hm]
    · cases h

theorem Opening.overlooksHeartbeats (user : String) :
    (Opening.listener user).OverlooksHeartbeats := by
  intro o e r next hr hstep m hm
  cases e with
  | received r' =>
    cases hr
    exact ⟨.received (.body m), rfl, step_heartbeat (phase_of_received hstep) hm,
      fun heq => by rw [heq]⟩
  | tried accepted => cases hr
  | sent id outcome => cases hr
  | timedOut => cases hr

theorem Relay.overlooksHeartbeats (c : AgentContext) : (Relay.listener c).OverlooksHeartbeats := by
  intro s e r next hr hstep m hm
  obtain ⟨_, hstep, -⟩ := Option.map_eq_some_iff.mp hstep
  cases e with
  | down e =>
    cases e with
    | received r' =>
      cases hr
      obtain ⟨up, watching, hphase⟩ := phase_of_received hstep
      exact ⟨.down (.received (.body m)), rfl,
        Option.map_eq_some_iff.mpr ⟨_, step_heartbeat hphase hm s.1, rfl⟩, fun heq => by rw [heq]⟩
    | closed => cases hr
    | wrote writes flushes => cases hr
  | sent id outcome => cases hr
  | up e => cases hr
  | silent => cases hr
  | unwatched => cases hr
  | finished => cases hr

theorem Association.overlooksHeartbeats (c : AgentContext) :
    (Association.listener c).OverlooksHeartbeats := by
  intro s e r next hr hstep m hm
  obtain ⟨_, hstep, -⟩ := Option.map_eq_some_iff.mp hstep
  cases e with
  | received r' =>
    cases hr
    exact ⟨.received (.body m), rfl,
      Option.map_eq_some_iff.mpr ⟨_, step_heartbeat hstep hm, rfl⟩, fun heq => by rw [heq]⟩
  | _ => cases hr

/-! ## A session -/

variable {link : ClientLink} {rs : AgentRegistries} {r : Received ProxyKind}

namespace SocksSession

variable {s : SocksSession} {next : AgentRegistries × SocksSession × List AgentEffect}

/-- What a session does when it reads a heartbeat while it opens a tunnel. -/
theorem step_opening_heartbeat (hm : m.kind = .heartbeat)
    (h : s.step c link rs (.opening (.received r)) = some next) :
    s.step c link rs (.opening (.received (.body m))) = some (rs, s, []) := by
  cases s with
  | opening o rest =>
    obtain ⟨_, hstep, -⟩ := Option.bind_eq_some_iff.mp h
    have hphase := Opening.phase_of_received hstep
    simp only [step, Opening.step_heartbeat hphase hm, Option.bind_eq_bind, Option.bind_some,
      ofOpening, hphase]
    rfl
  | _ => cases h

/-- What a session does when it reads a heartbeat while it relays a stream. -/
theorem step_relay_heartbeat (hm : m.kind = .heartbeat)
    (h : s.step c link rs (.relay (.down (.received r))) = some next) :
    s.step c link rs (.relay (.down (.received (.body m)))) = some (rs, s, []) := by
  cases s with
  | relaying relay =>
    obtain ⟨_, hstep, -⟩ := Option.bind_eq_some_iff.mp h
    obtain ⟨up, watching, hphase⟩ := Relay.phase_of_received hstep
    simp only [step, Relay.step_heartbeat hphase hm]
    rfl
  | _ => cases h

/-- What a session does when it reads a heartbeat while it relays datagrams. -/
theorem step_association_heartbeat (hm : m.kind = .heartbeat)
    (h : s.step c link rs (.association (.received r)) = some next) :
    s.step c link rs (.association (.received (.body m))) = some (rs, s, []) := by
  cases s with
  | associated a =>
    obtain ⟨_, hstep, -⟩ := Option.bind_eq_some_iff.mp h
    simp only [step, Association.step_heartbeat hstep hm]
    rfl
  | _ => cases h

end SocksSession

namespace HttpSession

variable {s : HttpSession} {streams : Streams} {next : Streams × HttpSession × List AgentEffect}

/-- What a session does when it reads a heartbeat while it opens a tunnel. -/
theorem step_opening_heartbeat (hm : m.kind = .heartbeat)
    (h : s.step c link streams (.opening (.received r)) = some next) :
    s.step c link streams (.opening (.received (.body m))) = some (streams, s, []) := by
  cases s with
  | opening o q inbound =>
    obtain ⟨_, hstep, -⟩ := Option.bind_eq_some_iff.mp h
    have hphase := Opening.phase_of_received hstep
    simp only [step, Opening.step_heartbeat hphase hm, Option.bind_eq_bind, Option.bind_some,
      ofOpening, hphase]
    rfl
  | _ => cases h

/-- What a session does when it reads a heartbeat while it relays a stream. -/
theorem step_relay_heartbeat (hm : m.kind = .heartbeat)
    (h : s.step c link streams (.relay (.down (.received r))) = some next) :
    s.step c link streams (.relay (.down (.received (.body m)))) = some (streams, s, []) := by
  cases s with
  | relaying relay =>
    obtain ⟨_, hstep, -⟩ := Option.bind_eq_some_iff.mp h
    obtain ⟨up, watching, hphase⟩ := Relay.phase_of_received hstep
    simp only [step, Relay.step_heartbeat hphase hm, Option.bind_eq_bind, Option.bind_some,
      ofRelay, hphase]
    rfl
  | _ => cases h

end HttpSession

/-- The events in which a session reads from a tunnel. -/
theorem AgentSession.Event.eq_of_receives {e : AgentSession.Event} (h : e.receives = some r) :
    e = .socks (.opening (.received r)) ∨ e = .socks (.relay (.down (.received r))) ∨
      e = .socks (.association (.received r)) ∨ e = .http (.opening (.received r)) ∨
        e = .http (.relay (.down (.received r))) := by
  unfold receives at h
  split at h <;> simp_all

/-- A session does nothing where its SOCKS part does nothing. -/
theorem AgentSession.step_socks_silent {s : AgentSession} {e e' : SocksSession.Event}
    {next : AgentRegistries × AgentSession × List AgentEffect}
    (h : s.step c link rs (.socks e) = some next)
    (hsilent : ∀ s next, SocksSession.step c link rs s e = some next →
      SocksSession.step c link rs s e' = some (rs, s, [])) :
    s.step c link rs (.socks e') = some (rs, s, []) := by
  cases s with
  | socks s =>
    obtain ⟨_, h, -⟩ := Option.bind_eq_some_iff.mp h
    simp only [step, hsilent s _ h]
    rfl
  | _ => cases h

/-- A session does nothing where its HTTP part does nothing. -/
theorem AgentSession.step_http_silent {s : AgentSession} {e e' : HttpSession.Event}
    {next : AgentRegistries × AgentSession × List AgentEffect}
    (h : s.step c link rs (.http e) = some next)
    (hsilent : ∀ s next, HttpSession.step c link rs.streams s e = some next →
      HttpSession.step c link rs.streams s e' = some (rs.streams, s, [])) :
    s.step c link rs (.http e') = some (rs, s, []) := by
  cases s with
  | http s =>
    obtain ⟨_, h, -⟩ := Option.bind_eq_some_iff.mp h
    simp only [step, hsilent s _ h]
    rfl
  | _ => cases h

theorem AgentSession.overlooksHeartbeats (c : AgentContext) (link : ClientLink) :
    (AgentSession.listener c link).OverlooksHeartbeats := by
  rintro ⟨rs, s⟩ e r next hr hstep m hm
  obtain ⟨_, hstep, -⟩ := Option.map_eq_some_iff.mp hstep
  have hsilent {e' : AgentSession.Event} (h : s.step c link rs e' = some (rs, s, [])) :
      (listener c link).step (rs, s) e' = some ((rs, s), []) :=
    Option.map_eq_some_iff.mpr ⟨_, h, rfl⟩
  rcases Event.eq_of_receives hr with rfl | rfl | rfl | rfl | rfl
  · exact ⟨.socks (.opening (.received (.body m))), rfl, hsilent (step_socks_silent hstep
      fun _ _ => SocksSession.step_opening_heartbeat hm), fun heq => by rw [heq]⟩
  · exact ⟨.socks (.relay (.down (.received (.body m)))), rfl, hsilent (step_socks_silent hstep
      fun _ _ => SocksSession.step_relay_heartbeat hm), fun heq => by rw [heq]⟩
  · exact ⟨.socks (.association (.received (.body m))), rfl, hsilent (step_socks_silent hstep
      fun _ _ => SocksSession.step_association_heartbeat hm), fun heq => by rw [heq]⟩
  · exact ⟨.http (.opening (.received (.body m))), rfl, hsilent (step_http_silent hstep
      fun _ _ => HttpSession.step_opening_heartbeat hm), fun heq => by rw [heq]⟩
  · exact ⟨.http (.relay (.down (.received (.body m)))), rfl, hsilent (step_http_silent hstep
      fun _ _ => HttpSession.step_relay_heartbeat hm), fun heq => by rw [heq]⟩

/-- **Heartbeats are invisible to a client.** However many come, and whenever they come, opening a
tunnel has the same result and leaves the same lifecycle, a relay writes the same octets to the
client and ends in the same way, an association sends the same datagrams to the same address, and so
a client's whole session is the same. -/
theorem heartbeats_invisible (c : AgentContext) (link : ClientLink) :
    (Opening.listener c.userToken).HidesHeartbeats ∧ (Relay.listener c).HidesHeartbeats ∧
      (Association.listener c).HidesHeartbeats ∧ (AgentSession.listener c link).HidesHeartbeats :=
  ⟨(Opening.overlooksHeartbeats c.userToken).hidesHeartbeats,
    (Relay.overlooksHeartbeats c).hidesHeartbeats,
    (Association.overlooksHeartbeats c).hidesHeartbeats,
    (AgentSession.overlooksHeartbeats c link).hidesHeartbeats⟩

end TunnelRelay
