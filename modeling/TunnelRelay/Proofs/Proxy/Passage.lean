import TunnelRelay.Proofs.Passage
import TunnelRelay.Proofs.Proxy.Contact
import TunnelRelay.Proofs.Retry.Write

/-!
# The legs of a proxy

The leg to the target writes what the agent has sent as data, and the leg from the target sends as
data what the target says. Heartbeats, answers and datagrams are no part of either.
-/

namespace TunnelRelay

namespace ProxyEffect

@[simp] theorem messages_nil : messages [] = [] := rfl

@[simp] theorem forTarget_nil : forTarget [] = [] := rfl

@[simp] theorem messages_append (es fs : List ProxyEffect) :
    messages (es ++ fs) = messages es ++ messages fs :=
  List.filterMap_append

@[simp] theorem forTarget_append (es fs : List ProxyEffect) :
    forTarget (es ++ fs) = forTarget es ++ forTarget fs :=
  List.flatMap_append

@[simp] theorem messages_cons_closeTunnel (es : List ProxyEffect) :
    messages (.closeTunnel :: es) = messages es :=
  rfl

@[simp] theorem forTarget_cons_closeTunnel (es : List ProxyEffect) :
    forTarget (.closeTunnel :: es) = forTarget es :=
  rfl

@[simp] theorem messages_map_message (ms : List (Body ProxyKind)) :
    messages (ms.map ProxyEffect.message) = ms := by
  induction ms with
  | nil => rfl
  | cons m ms ih => exact congrArg (m :: ·) ih

@[simp] theorem forTarget_map_message (ms : List (Body ProxyKind)) :
    forTarget (ms.map ProxyEffect.message) = [] := by
  induction ms with
  | nil => rfl
  | cons m ms ih => exact ih

/-- Trying a target puts nothing out. -/
theorem attempts_quiet (as : List ConnectAttempt) :
    messages (as.map fun a => .attempt ⟨a.host, a.port⟩ a.keepAlive) = [] ∧
      forTarget (as.map fun a => .attempt ⟨a.host, a.port⟩ a.keepAlive) = [] := by
  induction as with
  | nil => exact ⟨rfl, rfl⟩
  | cons a as ih => exact ih

end ProxyEffect

/-! ## From the agent to the target -/

namespace ToTarget

/-- What has come for the target and is not written, unless the leg has ended. -/
def undelivered : ToTarget → Option Bytes
  | reading => some []
  | writing data => some data
  | ended => none

/-- What the leg reads from the tunnel in an event, if it does. -/
def Event.receives : Event → Option (Received AgentKind)
  | received r => some r
  | _ => none

variable {consumed written : Bytes}

theorem undelivered_receive (r : Received AgentKind) (h : Passes (some []) consumed written) :
    Passes (receive r).undelivered
      (consumed ++ Body.stream .tcpData (Received.bodies (some r))) written := by
  cases r with
  | ended => exact (h.take _).lose
  | failed e => exact (h.take _).lose
  | body m =>
    rw [Received.bodies, Body.stream_singleton]
    by_cases hdata : m.kind = .tcpData
    · simp only [receive, hdata, undelivered, if_true]
      exact h.take m.payload
    · rw [if_neg hdata, List.append_nil]
      simp only [receive, if_neg hdata]
      exact h.lose

theorem leaving_quiet (leg : ToTarget) :
    ProxyEffect.messages leg.leaving = [] ∧ ProxyEffect.forTarget leg.leaving = [] := by
  cases leg <;> exact ⟨rfl, rfl⟩

/-- What the leg writes to the target is what it takes from the tunnel. -/
theorem step_passes {limit : UInt32} {leg leg' : ToTarget} {e : Event} {es : List ProxyEffect}
    (h : step limit leg e = some (leg', es)) (hp : Passes leg.undelivered consumed written) :
    Passes leg'.undelivered (consumed ++ Body.stream .tcpData (Received.bodies e.receives))
        (written ++ ProxyEffect.forTarget es) ∧
      ProxyEffect.messages es = [] := by
  cases leg with
  | ended => cases e <;> cases h
  | reading =>
    cases e with
    | closed =>
      cases h
      refine ⟨?_, rfl⟩
      simpa [Event.receives, Received.bodies, undelivered, leaving_quiet] using hp.lose
    | received r =>
      cases h
      refine ⟨?_, (leaving_quiet _).1⟩
      simpa [Event.receives, leaving_quiet] using undelivered_receive r hp
    | wrote writes flushes => cases h
  | writing data =>
    cases e with
    | closed => cases h
    | received r => cases h
    | wrote writes flushes =>
      -- the target receives a part from the front, and all of it if writing succeeds
      have hdelivers := writeAll_delivers limit writes flushes data
      simp only [step] at h
      split at h
      · rename_i hresult
        cases h
        refine ⟨?_, rfl⟩
        have hgive := hp.giveAll
        simpa [ProxyEffect.forTarget, hdelivers.all hresult, Event.receives, Received.bodies,
          undelivered] using hgive
      · cases h
        refine ⟨?_, rfl⟩
        simpa [ProxyEffect.forTarget, leaving, Event.receives, Received.bodies, undelivered]
          using hp.stop hdelivers.part

end ToTarget

/-! ## From the target to the agent -/

namespace FromTarget

/-- What has come from the target and is not sent, unless the leg has ended. -/
def unsent : FromTarget → Option Bytes
  | reading => some []
  | sending data => some data
  | ended => none

/-- The octets that the leg reads in an event, if it does. -/
def Event.reads : Event → Option Bytes
  | read b => some b
  | _ => none

/-- What the leg sends to the agent is what it takes from the target. -/
theorem step_passes {size : Nat} {user : String} {target : Target} {leg leg' : FromTarget}
    {e : Event} {es : List ProxyEffect} (h : step size user target leg e = some (leg', es))
    {read passed : Bytes} (hp : Passes leg.unsent read passed) :
    Passes leg'.unsent (read ++ e.reads.getD [])
        (passed ++ Body.stream .okTcp (ProxyEffect.messages es)) ∧
      ProxyEffect.forTarget es = [] := by
  cases leg with
  | ended => cases e <;> cases h
  | reading =>
    cases e with
    | closed =>
      cases h
      exact ⟨by simpa [Event.reads, unsent] using hp.lose, rfl⟩
    | read b =>
      simp only [step] at h
      split at h
      · cases h
        exact ⟨by simpa [Event.reads, unsent] using hp.take b, rfl⟩
      · cases h
    | ended =>
      cases h
      exact ⟨by simpa [Event.reads, unsent] using hp.lose, rfl⟩
    | sent id outcome => cases h
  | sending data =>
    cases e with
    | sent id outcome =>
      have hsent : Passes (some (data ++ [])) read passed := by
        rw [List.append_nil]
        exact hp
      cases h
      refine ⟨?_, ProxyEffect.forTarget_map_message _⟩
      simp only [Event.reads, Option.getD_none, List.append_nil, ProxyEffect.messages_map_message]
      -- a sender that gives up may have put the payload into the tunnel
      cases hfailed : outcome.error? with
      | none => exact Passes.send hfailed rfl hsent
      | some e => exact Passes.giveUp outcome rfl hsent
    | closed => cases h
    | read b => cases h
    | ended => cases h

end FromTarget

/-! ## Heartbeats -/

namespace Heartbeat

/-- What follows on a heartbeat is not seen outside the session. -/
theorem afterSending_quiet (limit : UInt32) (failures : Nat) (outcome : Sent) :
    (afterSending limit failures outcome).2.flatMap ProxyRelay.outer = [] := by
  unfold afterSending
  split
  · rfl
  · split
    · rfl
    · split <;> rfl

/-- A supervisor sends no data. -/
theorem step_quiet {user : String} {limit : UInt32} {heart heart' : Heartbeat} {e : Event}
    {effects : List Effect} (h : step user limit heart e = some (heart', effects)) :
    Body.stream .okTcp (ProxyEffect.messages (effects.flatMap ProxyRelay.outer)) = [] ∧
      ProxyEffect.forTarget (effects.flatMap ProxyRelay.outer) = [] := by
  unfold step at h
  split at h
  · cases h
    exact ⟨rfl, rfl⟩
  · cases h
    exact ⟨rfl, rfl⟩
  · cases h
    exact ⟨rfl, rfl⟩
  · cases h
    exact ⟨rfl, rfl⟩
  · cases h
    exact ⟨rfl, rfl⟩
  · rename_i n id now outcome
    simp only [Option.some.injEq, Prod.mk.injEq] at h
    obtain ⟨-, rfl⟩ := h
    rw [List.flatMap_append, afterSending_quiet, List.append_nil]
    rcases outcome.entered_eq (Body.heartbeat id user now) with hin | hin
    · rw [hin]
      exact ⟨rfl, rfl⟩
    · rw [hin]
      exact ⟨rfl, rfl⟩
  · cases h

end Heartbeat

/-! ## A relay -/

namespace ProxyRelay

/-- What has come for the target and is not written, unless this direction has ended. -/
def Phase.undelivered : Phase → Option Bytes
  | confirming => some []
  | running up _ _ => up.undelivered
  | closed => none

/-- What has come from the target and is not sent, unless this direction has ended. -/
def Phase.unsent : Phase → Option Bytes
  | confirming => some []
  | running _ down _ => down.unsent
  | closed => none

/-- The octets that the relay reads from the target in an event, if it does. -/
def Event.reads : Event → Option Bytes
  | down e => e.reads
  | _ => none

/-- What the relay reads from the tunnel in an event, if it does. -/
def Event.receives : Event → Option (Received AgentKind)
  | up e => e.receives
  | _ => none

variable {c : ProxyContext} {streams streams' : ProxyStreams} {r r' : ProxyRelay} {e : Event}
  {es : List ProxyEffect} {read passed consumed written : Bytes}

/-- **A relay passes octets in both directions**, in whatever order its events come and with any
heartbeats between them. -/
theorem step_passes (h : step c streams r e = some (streams', r', es))
    (hup : Passes r.phase.undelivered consumed written)
    (hdown : Passes r.phase.unsent read passed) :
    Passes r'.phase.undelivered (consumed ++ Body.stream .tcpData (Received.bodies e.receives))
        (written ++ ProxyEffect.forTarget es) ∧
      Passes r'.phase.unsent (read ++ e.reads.getD [])
        (passed ++ Body.stream .okTcp (ProxyEffect.messages es)) := by
  obtain ⟨id, target, user, lifecycle, phase⟩ := r
  simp only at hup hdown
  unfold step at h
  split at h
  · cases h
  simp only at h
  split at h
  · -- the agent is being told that the target is connected
    rename_i id' outcome _
    have hanswer : Body.stream .okTcp
        (outcome.entered (Body.connectSuccess id' user target.host target.port)) = [] :=
      outcome.stream_entered_of_ne (by rintro ⟨⟩)
    have hnothing : Passes (some []) consumed written := hup
    have hsilent : Passes (some []) read passed := hdown
    split at h
    · cases h
      refine ⟨?_, ?_⟩
      · simpa [Phase.undelivered, ToTarget.undelivered, Event.receives, Received.bodies]
          using hnothing
      · simpa [Phase.unsent, FromTarget.unsent, Event.reads, hanswer] using hsilent
    · cases h
      refine ⟨?_, ?_⟩
      · simpa [leave, Phase.undelivered, Event.receives, Received.bodies] using hnothing.lose
      · simpa [leave, Phase.unsent, Event.reads, hanswer] using hsilent.lose
  · -- the leg to the target
    rename_i up down heart e _
    obtain ⟨⟨up', es'⟩, hstep, heq⟩ := Option.bind_eq_some_iff.mp h
    cases heq
    obtain ⟨hup', hmessages⟩ := ToTarget.step_passes hstep hup
    refine ⟨hup', ?_⟩
    have hsame : Passes down.unsent read passed := hdown
    simpa [Phase.unsent, Event.reads, hmessages] using hsame
  · -- the leg from the target
    rename_i up down heart e _
    obtain ⟨⟨down', es'⟩, hstep, heq⟩ := Option.bind_eq_some_iff.mp h
    cases heq
    obtain ⟨hdown', htarget⟩ := FromTarget.step_passes hstep hdown
    refine ⟨?_, hdown'⟩
    have hsame : Passes up.undelivered consumed written := hup
    simpa [Phase.undelivered, Event.receives, Received.bodies, htarget] using hsame
  · -- the supervisor
    rename_i up down heart e _
    obtain ⟨⟨heart', es'⟩, hstep, heq⟩ := Option.bind_eq_some_iff.mp h
    cases heq
    obtain ⟨hdata, htarget⟩ := Heartbeat.step_quiet hstep
    have hsame : Passes up.undelivered consumed written := hup
    have hsame' : Passes down.unsent read passed := hdown
    refine ⟨?_, ?_⟩
    · simpa [Phase.undelivered, Event.receives, Received.bodies, htarget] using hsame
    · simpa [Phase.unsent, Event.reads, hdata] using hsame'
  · -- all legs have ended
    cases h
    have hsame : Passes none consumed written := hup
    have hsame' : Passes none read passed := hdown
    refine ⟨?_, ?_⟩
    · simpa [leave, Phase.undelivered, Event.receives, Received.bodies] using hsame
    · simpa [leave, Phase.unsent, Event.reads] using hsame'
  · cases h

end ProxyRelay

/-! ## A relay of datagrams -/

namespace DatagramRelay

theorem passOn_quiet {m : Body AgentKind} {dest : Option Endpoint} {r r' : DatagramRelay}
    {es : List ProxyEffect} (h : r.passOn m dest = some (r', es)) :
    ProxyEffect.forTarget es = [] ∧ ProxyEffect.messages es = [] := by
  unfold passOn at h
  split at h
  · cases h
    exact ⟨rfl, rfl⟩
  · split at h
    · cases h
      exact ⟨rfl, rfl⟩
    · cases h

/-- A relay of datagrams writes no octets to a target and sends no data of a stream. -/
theorem step_quiet {all all' : ProxyDatagrams} {r r' : DatagramRelay} {e : Event}
    {es : List ProxyEffect} (h : step all r e = some (all', r', es)) :
    ProxyEffect.forTarget es = [] ∧ Body.stream .okTcp (ProxyEffect.messages es) = [] := by
  have hpassOn (m : Body AgentKind) (dest : Option Endpoint)
      (hmap : (r.passOn m dest).map (fun p => (all, p.1, p.2)) =
        some (all', r', es)) :
      ProxyEffect.forTarget es = [] ∧ Body.stream .okTcp (ProxyEffect.messages es) = [] := by
    obtain ⟨⟨r'', es'⟩, hsome, heq⟩ := Option.map_eq_some_iff.mp hmap
    cases heq
    obtain ⟨htarget, hmessages⟩ := passOn_quiet hsome
    exact ⟨htarget, by rw [hmessages]; rfl⟩
  unfold step at h
  split at h
  · cases h
  cases e with
  | passed dest =>
    simp only at h
    split at h
    · exact hpassOn _ dest h
    · exact hpassOn _ dest h
    · cases h
  | sent id outcome =>
    simp only at h
    split at h
    · rename_i sender b hsending
      have hentered : Body.stream .okTcp (outcome.entered
          (Body.okUdp id r.user sender.ip.toText sender.port b)) = [] :=
        outcome.stream_entered_of_ne (by rintro ⟨⟩)
      split at h
      all_goals
        cases h
        exact ⟨ProxyEffect.forTarget_map_message _, by
          rw [ProxyEffect.messages_map_message, hentered]⟩
    · cases h
  | _ =>
    -- no other event puts anything out but the end of the tunnel
    simp only at h
    split at h <;> cases h
    exact ⟨rfl, rfl⟩

end DatagramRelay

/-! ## A session -/

namespace ProxySession

/-- What has come for the target and is not written, as long as any of it can be. -/
def undelivered : ProxySession → Option Bytes
  | waiting | connecting _ _ => some []
  | relaying r => r.phase.undelivered
  | _ => none

/-- What has come from the target and is not sent, as long as any of it can be. -/
def unsent : ProxySession → Option Bytes
  | waiting | connecting _ _ => some []
  | relaying r => r.phase.unsent
  | _ => none

namespace Event

@[simp] theorem reads_relay (e : ProxyRelay.Event) : reads (.relay e) = e.reads := by
  cases e with
  | down e => cases e <;> rfl
  | _ => rfl

@[simp] theorem receives_relay (e : ProxyRelay.Event) : receives (.relay e) = e.receives := by
  cases e with
  | up e => cases e <;> rfl
  | _ => rfl

end Event

variable {c : ProxyContext} {id : String} {rs rs' : ProxyRegistries} {s s' : ProxySession}
  {e : Event} {es : List ProxyEffect} {read passed consumed written : Bytes}

/-- The first message is no data. -/
theorem first_passes (id : String) (r : Received AgentKind)
    (hup : Passes (some []) consumed written) (hdown : Passes (some []) read passed) :
    Passes (first id r).1.undelivered
        (consumed ++ Body.stream .tcpData (Received.bodies (some r)))
        (written ++ ProxyEffect.forTarget (first id r).2) ∧
      Passes (first id r).1.unsent read
        (passed ++ Body.stream .okTcp (ProxyEffect.messages (first id r).2)) := by
  cases r with
  | ended =>
    exact ⟨by simpa [first, undelivered, Received.bodies] using hup.lose,
      by simpa [first, unsent] using hdown.lose⟩
  | failed e =>
    exact ⟨by simpa [first, undelivered, Received.bodies] using hup.lose,
      by simpa [first, unsent] using hdown.lose⟩
  | body m =>
    rw [Received.bodies, Body.stream_singleton]
    cases hkind : m.kind with
    | connectWithKeepAlive =>
      exact ⟨by simpa [first, hkind, undelivered, Lifecycle.transit, Lifecycle.fresh] using hup,
        by simpa [first, hkind, unsent, Lifecycle.transit, Lifecycle.fresh] using hdown⟩
    | connectWithoutKeepAlive =>
      exact ⟨by simpa [first, hkind, undelivered, Lifecycle.transit, Lifecycle.fresh] using hup,
        by simpa [first, hkind, unsent, Lifecycle.transit, Lifecycle.fresh] using hdown⟩
    | udpData =>
      exact ⟨by simpa [first, hkind, undelivered] using hup.lose,
        by simpa [first, hkind, unsent] using hdown.lose⟩
    | tcpData =>
      exact ⟨by simpa [first, hkind, undelivered] using hup.lose.miss m.payload,
        by simpa [first, hkind, unsent] using hdown.lose⟩

/-- Trying a target puts nothing out. -/
theorem contact_quiet (limit : UInt32) (m : Body AgentKind) (script : List (Option StreamError))
    (address : Option Endpoint) :
    ProxyEffect.messages (contact limit m script address).2 = [] ∧
      ProxyEffect.forTarget (contact limit m script address).2 = [] := by
  unfold contact
  split
  · rw [Contact.ofRun_snd]
    exact ProxyEffect.attempts_quiet _
  · exact ⟨rfl, rfl⟩

/-- Connecting passes nothing on. -/
theorem afterConnecting_passes (c : ProxyContext) (id : String) (rs : ProxyRegistries)
    (m : Body AgentKind) (l : Lifecycle) (script : List (Option StreamError))
    (address : Option Endpoint)
    (hup : Passes (some []) consumed written) (hdown : Passes (some []) read passed) :
    Passes (afterConnecting c id rs m l script address).2.1.undelivered consumed
        (written ++ ProxyEffect.forTarget (afterConnecting c id rs m l script address).2.2) ∧
      Passes (afterConnecting c id rs m l script address).2.1.unsent read
        (passed ++ Body.stream .okTcp
          (ProxyEffect.messages (afterConnecting c id rs m l script address).2.2)) := by
  obtain ⟨hmessages, htarget⟩ := contact_quiet c.retry.connectRetryLimit m script address
  unfold afterConnecting
  split
  all_goals
    rename_i tries hcontact
    rw [hcontact] at hmessages htarget
    simp only at hmessages htarget
  · simpa [hmessages, htarget] using ⟨hup.lose, hdown.lose⟩
  · simpa [hmessages, htarget] using ⟨hup.lose, hdown.lose⟩
  · split
    · simpa [hmessages, htarget] using ⟨hup.lose, hdown.lose⟩
    · rename_i streams r hstart
      have hphase : r.phase = .confirming := by
        unfold ProxyRelay.start at hstart
        simp only at hstart
        split at hstart
        · cases hstart
          rfl
        · cases hstart
      simpa [hmessages, htarget, undelivered, unsent, hphase] using ⟨hup, hdown⟩

/-- **A session passes octets in both directions**, and no others go through it. -/
theorem step_passes (h : step c id rs s e = some (rs', s', es))
    (hup : Passes s.undelivered consumed written) (hdown : Passes s.unsent read passed) :
    Passes s'.undelivered (consumed ++ Body.stream .tcpData (Received.bodies e.receives))
        (written ++ ProxyEffect.forTarget es) ∧
      Passes s'.unsent (read ++ e.reads.getD [])
        (passed ++ Body.stream .okTcp (ProxyEffect.messages es)) := by
  cases s with
  | waiting =>
    cases e with
    | received r =>
      -- data in place of the first message is lost, and the session ends with it
      simp only [step, Option.some.injEq, Prod.mk.injEq] at h
      obtain ⟨-, rfl, rfl⟩ := h
      simpa [Event.reads, Event.receives] using first_passes id r hup hdown
    | timedOut =>
      cases h
      simpa [Event.reads, Event.receives, Received.bodies, undelivered, unsent]
        using And.intro hup.lose hdown.lose
    | _ => cases h
  | connecting m l =>
    cases e with
    | connected script address =>
      simp only [step, Option.some.injEq] at h
      have hpasses := afterConnecting_passes c id rs m l script address hup hdown
      rw [h] at hpasses
      simpa [Event.reads, Event.receives, Received.bodies] using hpasses
    | _ => cases h
  | refusing m l cause =>
    cases e with
    | sent messageId outcome =>
      cases h
      have hentered : Body.stream .okTcp
          (outcome.entered (Body.connectFail messageId m.user m.host m.port)) = [] :=
        outcome.stream_entered_of_ne (by rintro ⟨⟩)
      simpa [Event.reads, Event.receives, Received.bodies, undelivered, unsent, hentered]
        using And.intro hup.lose hdown.lose
    | _ => cases h
  | relaying r =>
    cases e with
    | relay e =>
      obtain ⟨⟨streams, r', es'⟩, hstep, heq⟩ := Option.bind_eq_some_iff.mp h
      cases heq
      simpa [undelivered, unsent] using ProxyRelay.step_passes hstep hup hdown
    | _ => cases h
  | binding m =>
    cases e with
    | bound address =>
      cases address with
      | none =>
        cases h
        simpa [Event.reads, Event.receives, Received.bodies, undelivered, unsent]
          using And.intro hup.lose hdown.lose
      | some own =>
        simp only [step] at h
        split at h
        all_goals
          cases h
          simpa [Event.reads, Event.receives, Received.bodies, undelivered, unsent]
            using And.intro hup.lose hdown.lose
    | _ => cases h
  | passing r =>
    cases e with
    | datagrams e =>
      obtain ⟨⟨datagrams, r', es'⟩, hstep, heq⟩ := Option.bind_eq_some_iff.mp h
      cases heq
      -- a session of datagrams has no part in the stream
      obtain ⟨htarget, hdata⟩ := DatagramRelay.step_quiet hstep
      have hreads : Event.reads (.datagrams e) = none := rfl
      simpa [hreads, htarget, hdata, undelivered, unsent]
        using And.intro (hup.lose.miss _) hdown.lose
    | _ => cases h
  | closed cause => cases e <;> cases h

end ProxySession

end TunnelRelay
