import TunnelRelay.Proofs.Passage
import TunnelRelay.Proofs.Retry.Write

/-!
# The legs of an agent

An opaque leg to the proxy passes on what the client sends, and the leg from the proxy passes on
what the target has said. A relay runs both, and each event concerns one of them, so a relay passes
octets in each direction as its leg does.
-/

namespace TunnelRelay

namespace AgentEffect

@[simp] theorem messages_nil : messages [] = [] := rfl

@[simp] theorem forClient_nil : forClient [] = [] := rfl

@[simp] theorem messages_append (es fs : List AgentEffect) :
    messages (es ++ fs) = messages es ++ messages fs :=
  List.filterMap_append

@[simp] theorem forClient_append (es fs : List AgentEffect) :
    forClient (es ++ fs) = forClient es ++ forClient fs :=
  List.flatMap_append

@[simp] theorem messages_cons_toClient (b : Bytes) (es : List AgentEffect) :
    messages (.toClient b :: es) = messages es :=
  rfl

@[simp] theorem forClient_cons_toClient (b : Bytes) (es : List AgentEffect) :
    forClient (.toClient b :: es) = b ++ forClient es :=
  rfl

@[simp] theorem messages_map_message (ms : List (Body AgentKind)) :
    messages (ms.map AgentEffect.message) = ms := by
  induction ms with
  | nil => rfl
  | cons m ms ih => exact congrArg (m :: ·) ih

@[simp] theorem forClient_map_message (ms : List (Body AgentKind)) :
    forClient (ms.map AgentEffect.message) = [] := by
  induction ms with
  | nil => rfl
  | cons m ms ih => exact ih

end AgentEffect

/-! ## From the proxy to the client -/

namespace FromProxy

/-- What has come for the client and is not written, unless the leg has ended. -/
def undelivered : FromProxy → Option Bytes
  | reading => some []
  | writing data => some data
  | ended => none

/-- What the leg reads from the tunnel in an event, if it does. -/
def Event.receives : Event → Option (Received ProxyKind)
  | received r => some r
  | _ => none

theorem undelivered_receive (r : Received ProxyKind) {consumed written : Bytes}
    (h : Passes (some []) consumed written) :
    Passes (receive r).undelivered
      (consumed ++ Body.stream .okTcp (Received.bodies (some r))) written := by
  cases r with
  | ended => exact (h.take _).lose
  | failed e => exact (h.take _).lose
  | body m =>
    rw [Received.bodies, Body.stream_singleton]
    by_cases hdata : m.kind = .okTcp
    · simp only [receive, hdata, undelivered, if_true]
      exact h.take m.payload
    · rw [if_neg hdata, List.append_nil]
      simp only [receive]
      cases hkind : m.kind with
      | okTcp => exact absurd hkind hdata
      | heartbeat => exact h
      | okUdp => exact h.lose
      | connectFail => exact h.lose
      | connectSuccess => exact h.lose

/-- What the leg writes to the client is what it takes from the tunnel. -/
theorem step_passes {limit : UInt32} {leg leg' : FromProxy} {e : Event} {es : List AgentEffect}
    (h : step limit leg e = some (leg', es)) {consumed written : Bytes}
    (hp : Passes leg.undelivered consumed written) :
    Passes leg'.undelivered (consumed ++ Body.stream .okTcp (Received.bodies e.receives))
        (written ++ AgentEffect.forClient es) ∧
      AgentEffect.messages es = [] := by
  cases leg with
  | ended => cases e <;> cases h
  | reading =>
    cases e with
    | closed =>
      cases h
      refine ⟨?_, rfl⟩
      simpa [Event.receives, Received.bodies, undelivered] using hp.lose
    | received r =>
      cases h
      refine ⟨?_, rfl⟩
      simpa [Event.receives] using undelivered_receive r hp
    | wrote writes flushes => cases h
  | writing data =>
    cases e with
    | closed => cases h
    | received r => cases h
    | wrote writes flushes =>
      -- the client receives a part from the front, and all of it if writing succeeds
      have hdelivers := writeAll_delivers limit writes flushes data
      simp only [step] at h
      split at h
      · rename_i hresult
        cases h
        refine ⟨?_, rfl⟩
        -- everything has been written, and nothing is held any more
        have hall := hdelivers.all hresult
        have hgive := hp.giveAll
        simpa [AgentEffect.forClient, hall, Event.receives, Received.bodies, undelivered]
          using hgive
      · cases h
        refine ⟨?_, rfl⟩
        simpa [AgentEffect.forClient, Event.receives, Received.bodies, undelivered]
          using hp.stop hdelivers.part

end FromProxy

/-! ## From the client to the proxy -/

namespace ToProxy

/-- The leg takes the client's octets as they come, and it has not handed anything back. -/
def IsOpaque : ToProxy → Prop
  | reading source | sending _ _ source => source = .octets
  | ended next => next = none

/-- What has come from the client and is not sent, unless the leg has ended. -/
def unsent : ToProxy → Option Bytes
  | reading .octets => some []
  | reading (.requests s) => some s.buffer
  | sending data rest .octets => some (data ++ rest)
  | sending data rest (.requests s) => some (data ++ rest ++ s.buffer)
  | ended _ => none

/-- The octets that the leg reads in an event, if it does. -/
def Event.reads : Event → Option Bytes
  | read b => some b
  | _ => none

/-- What an opaque leg sends to the proxy is what it takes from the client. -/
theorem step_passes {size : Nat} {user : String} {target : Target} {leg leg' : ToProxy}
    {e : Event} {es : List AgentEffect} (h : step size user target leg e = some (leg', es))
    (ho : leg.IsOpaque) {read passed : Bytes} (hp : Passes leg.unsent read passed) :
    leg'.IsOpaque ∧
      Passes leg'.unsent (read ++ e.reads.getD [])
        (passed ++ Body.stream .tcpData (AgentEffect.messages es)) ∧
      AgentEffect.forClient es = [] := by
  cases leg with
  | ended next => cases e <;> cases h
  | reading source =>
    obtain rfl : source = .octets := ho
    cases e with
    | closed =>
      cases h
      exact ⟨rfl, by simpa [Event.reads, unsent] using hp.lose, rfl⟩
    | read b =>
      simp only [step] at h
      split at h
      · cases h
        refine ⟨rfl, ?_, rfl⟩
        simpa [Event.reads, take, unsent] using hp.take b
      · cases h
    | ended =>
      simp only [step] at h
      split at h
      · cases h
        exact ⟨rfl, by simpa [Event.reads, unsent] using hp.lose, rfl⟩
      · cases h
    | failed =>
      simp only [step] at h
      split at h
      · cases h
        exact ⟨rfl, by simpa [Event.reads, unsent] using hp.lose, rfl⟩
      · cases h
    | decode => cases h
    | sent id outcome => cases h
  | sending data rest source =>
    obtain rfl : source = .octets := ho
    cases e with
    | sent id outcome =>
      simp only [step] at h
      split at h
      · -- the payload may have entered the tunnel before sending was given up
        cases h
        refine ⟨rfl, ?_, by simp⟩
        simp only [Event.reads, Option.getD_none, List.append_nil, AgentEffect.messages_map_message]
        exact Passes.giveUp outcome rfl hp
      · rename_i hnone
        cases h
        have hsent := Passes.send hnone (m := Body.tcpData id user target.host target.port data)
          rfl hp
        refine ⟨?_, ?_, by simp⟩
        · by_cases hrest : rest = []
          · rw [if_pos hrest]
            rfl
          · rw [if_neg hrest]
            rfl
        · simp only [Event.reads, Option.getD_none, List.append_nil,
            AgentEffect.messages_map_message]
          by_cases hrest : rest = []
          · subst hrest
            exact hsent
          · rw [if_neg hrest, unsent, List.append_nil]
            exact hsent
    | closed => cases h
    | read b => cases h
    | ended => cases h
    | failed => cases h
    | decode => cases h

end ToProxy

/-! ## A relay -/

namespace Relay

/-- The relay takes the client's octets as they come, and it has not handed anything back. -/
def Phase.IsOpaque : Phase → Prop
  | starting _ source => source = .octets
  | running up _ _ => up.IsOpaque
  | closed next => next = none

/-- What has come from the client and is not sent, unless this direction has ended. -/
def Phase.unsent : Phase → Option Bytes
  | starting data .octets => some data
  | starting data (.requests s) => some (data ++ s.buffer)
  | running up _ _ => up.unsent
  | closed _ => none

/-- What has come for the client and is not written, unless this direction has ended. -/
def Phase.undelivered : Phase → Option Bytes
  | starting _ _ => some []
  | running _ down _ => down.undelivered
  | closed _ => none

/-- What a relay has done in both directions. -/
structure Phase.Carries (p : Phase) (read passed consumed written : Bytes) : Prop where
  isOpaque : p.IsOpaque
  up : Passes p.unsent read passed
  down : Passes p.undelivered consumed written

/-- The octets that the relay reads from the client in an event, if it does. -/
def Event.reads : Event → Option Bytes
  | up e => e.reads
  | _ => none

/-- What the relay reads from the tunnel in an event, if it does. -/
def Event.receives : Event → Option (Received ProxyKind)
  | down e => e.receives
  | _ => none

/-- A relay that starts puts nothing out. -/
theorem start_quiet (user : String) (streams : Streams) (o : Opening) (data : Bytes)
    (source : Source) :
    AgentEffect.messages (start user streams o data source).2.2 = [] ∧
      AgentEffect.forClient (start user streams o data source).2.2 = [] := by
  unfold start
  split <;> exact ⟨rfl, rfl⟩

/-- What the client is told when a relay starts is all that it is given. -/
theorem forClient_cons_start (b : Bytes) (user : String) (streams : Streams) (o : Opening)
    (data : Bytes) (source : Source) :
    AgentEffect.forClient (.toClient b :: (start user streams o data source).2.2) = b := by
  rw [AgentEffect.forClient_cons_toClient, (start_quiet user streams o data source).2,
    List.append_nil]

variable {read passed consumed written : Bytes}

/-- Legs that start to run hold nothing. -/
theorem legs_carries (hup : Passes (some []) read passed)
    (hdown : Passes (some []) consumed written) :
    (legs .octets).Carries read passed consumed written :=
  ⟨rfl, hup, hdown⟩

theorem closed_carries {held held' : Option Bytes} (hup : Passes held read passed)
    (hdown : Passes held' consumed written) :
    (Phase.closed none).Carries read passed consumed written :=
  ⟨rfl, hup.lose, hdown.lose⟩

/-- A relay begins with what has been read already. -/
theorem start_carries (user : String) (streams : Streams) (o : Opening) {data : Bytes}
    (hup : Passes (some data) read passed) (hdown : Passes (some []) consumed written) :
    (start user streams o data .octets).2.1.phase.Carries read passed consumed written := by
  unfold start
  split
  · exact closed_carries hup hdown
  · by_cases hdata : data = []
    · subst hdata
      exact legs_carries hup hdown
    · simp only [hdata, if_false]
      exact ⟨rfl, hup, hdown⟩

variable {c : AgentContext} {streams streams' : Streams} {r r' : Relay} {e : Event}
  {es : List AgentEffect}

/-- **A relay passes octets in both directions**, in whatever order its events come. -/
theorem step_carries (h : step c streams r e = some (streams', r', es))
    (hr : r.phase.Carries read passed consumed written) :
    r'.phase.Carries (read ++ e.reads.getD [])
      (passed ++ Body.stream .tcpData (AgentEffect.messages es))
      (consumed ++ Body.stream .okTcp (Received.bodies e.receives))
      (written ++ AgentEffect.forClient es) := by
  obtain ⟨id, target, lifecycle, phase⟩ := r
  obtain ⟨ho, hup, hdown⟩ := hr
  simp only at ho hup hdown
  unfold step at h
  split at h
  · cases h
  simp only at h
  split at h
  · -- the first octets are being sent
    rename_i data source id' outcome _
    obtain rfl : source = .octets := ho
    have hsent : Passes (some (data ++ [])) read passed := by
      rw [List.append_nil]
      exact hup
    split at h
    · rename_i hnone
      cases h
      refine legs_carries ?_ ?_
      · simp only [Event.reads, Option.getD_none, List.append_nil, AgentEffect.messages_map_message]
        exact Passes.send hnone rfl hsent
      · rw [AgentEffect.forClient_map_message, List.append_nil]
        have hnothing : Passes (some []) consumed written := hdown
        simpa [Event.receives, Received.bodies] using hnothing
    · cases h
      refine ⟨rfl, ?_, ?_⟩
      · have hclose : AgentEffect.messages [.closeTunnel] = [] := rfl
        simp only [leave, Event.reads, Option.getD_none, List.append_nil, hclose,
          AgentEffect.messages_append, AgentEffect.messages_map_message]
        exact Passes.giveUp outcome rfl hsent
      · have hclose : AgentEffect.forClient [.closeTunnel] = [] := rfl
        simp only [leave, Event.receives, Received.bodies, Body.stream_nil, List.append_nil,
          hclose, AgentEffect.forClient_append, AgentEffect.forClient_map_message]
        exact hdown.lose
  · -- the leg to the proxy
    rename_i up down watching e _
    obtain ⟨⟨up', es'⟩, hstep, heq⟩ := Option.bind_eq_some_iff.mp h
    cases heq
    obtain ⟨ho', hup', hclient⟩ := ToProxy.step_passes hstep ho hup
    refine ⟨ho', hup', ?_⟩
    have hsame : Passes down.undelivered consumed written := hdown
    simpa [Phase.undelivered, Event.receives, Received.bodies, hclient] using hsame
  · -- the leg from the proxy
    rename_i up down watching e _
    obtain ⟨⟨down', es'⟩, hstep, heq⟩ := Option.bind_eq_some_iff.mp h
    cases heq
    obtain ⟨hdown', hmessages⟩ := FromProxy.step_passes hstep hdown
    refine ⟨ho, ?_, hdown'⟩
    have hsame : Passes up.unsent read passed := hup
    simpa [Phase.unsent, Event.reads, hmessages] using hsame
  · -- the tunnel is silent: the legs are told, and go on until they see it
    rename_i up down _
    cases h
    have hsent : Passes up.unsent read passed := hup
    have hsame : Passes down.undelivered consumed written := hdown
    exact ⟨ho, by simpa [Phase.unsent, Event.reads] using hsent,
      by simpa [Phase.undelivered, Event.receives, Received.bodies] using hsame⟩
  · -- only the watching leg ends
    rename_i up down _
    cases h
    have hsent : Passes up.unsent read passed := hup
    have hsame : Passes down.undelivered consumed written := hdown
    exact ⟨ho, by simpa [Phase.unsent, Event.reads] using hsent,
      by simpa [Phase.undelivered, Event.receives, Received.bodies] using hsame⟩
  · -- all legs have ended
    rename_i next _
    cases h
    obtain rfl : next = none := ho
    have hsent : Passes none read passed := hup
    have hsame : Passes none consumed written := hdown
    refine ⟨rfl, ?_, ?_⟩
    · simpa [leave, Phase.unsent, Event.reads, AgentEffect.messages] using hsent
    · simpa [leave, Phase.undelivered, Event.receives, Received.bodies, AgentEffect.forClient]
        using hsame
  · cases h

end Relay

/-! ## An opening -/

namespace Opening

/-- What an opening reads from the tunnel in an event, if it does. -/
def Event.receives : Event → Option (Received ProxyKind)
  | received r => some r
  | _ => none

/-- The tunnel has been given up. -/
def IsFailed (o : Opening) : Prop := ∃ e, o.phase = .failed e

variable {user : String} {o o' : Opening} {e : Event} {es : List AgentEffect}

theorem answer_quiet (r : Received ProxyKind) :
    AgentEffect.messages (o.answer r).2 = [] ∧ AgentEffect.forClient (o.answer r).2 = [] ∧
      (¬(o.answer r).1.IsFailed → Body.stream .okTcp (Received.bodies (some r)) = []) := by
  cases r with
  | ended => exact ⟨rfl, rfl, fun _ => rfl⟩
  | failed e => exact ⟨rfl, rfl, fun _ => rfl⟩
  | body m =>
    simp only [answer, Received.bodies, Body.stream_singleton]
    cases hkind : m.kind with
    | okTcp => exact ⟨rfl, rfl, fun h => absurd ⟨_, rfl⟩ h⟩
    | okUdp => exact ⟨rfl, rfl, fun _ => rfl⟩
    | heartbeat => exact ⟨rfl, rfl, fun _ => rfl⟩
    | connectFail => exact ⟨rfl, rfl, fun _ => rfl⟩
    | connectSuccess => exact ⟨rfl, rfl, fun _ => rfl⟩

/-- Opening a tunnel says nothing of the stream: nothing for the client, no data for the target, and
data from the target only when it fails. -/
theorem step_quiet (h : step user o e = some (o', es)) :
    Body.stream .tcpData (AgentEffect.messages es) = [] ∧ AgentEffect.forClient es = [] ∧
      (¬o'.IsFailed → Body.stream .okTcp (Received.bodies e.receives) = []) := by
  unfold step at h
  split at h
  · cases h
    exact ⟨rfl, rfl, fun _ => rfl⟩
  · cases h
    exact ⟨rfl, rfl, fun _ => rfl⟩
  · rename_i id outcome _
    -- the message may have entered the tunnel, but it is no data
    have hkind :
        (Body.connect id user o.target.host o.target.port o.keepAlive).kind ≠ .tcpData := by
      cases o.keepAlive <;> nofun
    have hentered := outcome.stream_entered_of_ne hkind
    simp only at h
    split at h
    · cases h
      refine ⟨?_, by simp, fun _ => rfl⟩
      rw [AgentEffect.messages_map_message]
      exact hentered
    · cases h
      refine ⟨?_, by simp [AgentEffect.forClient], fun _ => rfl⟩
      have hclose : AgentEffect.messages [.closeTunnel] = [] := rfl
      rw [AgentEffect.messages_append, AgentEffect.messages_map_message, hclose, List.append_nil]
      exact hentered
  · rename_i r _
    have hquiet := answer_quiet (o := o) r
    simp only [Option.some.injEq] at h
    rw [h] at hquiet
    obtain ⟨hmessages, hclient, hdata⟩ := hquiet
    rw [hmessages]
    exact ⟨rfl, hclient, hdata⟩
  · cases h
    exact ⟨rfl, rfl, fun _ => rfl⟩
  · cases h

end Opening

end TunnelRelay
