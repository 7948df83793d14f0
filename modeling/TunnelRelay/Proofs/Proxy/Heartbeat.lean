import TunnelRelay.Proxy.Relay

/-!
# What a supervisor makes of what it sees

A supervisor sees whether the tunnel is idle and what its heartbeats come to, while the legs of the
session and the registry go their own ways. What it does at an event depends on nothing but what it
has seen before: it closes the session if the agent has been silent for too long, if a heartbeat
finds the tunnel closed, and at the failure that makes as many in a row as the limit says
(`closes`); it leaves a session that is closed already or no longer registered (`leaves`); and every
other idle event makes it send one heartbeat.

The counter of failures that goes with the session has thirty-two bits. It never wraps, because the
session is closed before, and so it stands at the number of failures in a row (`Follows.count`).

What a step does is said once (`Follows.step_eq`). The course of a supervisor follows from it by one
step after the other, and so does the course of its session (`Stands.step`), in which the legs act
between the steps of the supervisor and may close the session too.
-/

namespace TunnelRelay

namespace Sent

/-- Sending was given up although the tunnel is not closed. -/
def isTransient (s : Sent) : Bool := s.error?.any (!·.isChannelClosed)

/-- Sending found the tunnel closed. -/
def findsClosed (s : Sent) : Bool := s.error?.any (·.isChannelClosed)

theorem isTransient_of_not_findsClosed {s : Sent} (hfailed : ¬s.error?.isNone = true)
    (hopen : ¬s.findsClosed = true) : s.isTransient = true := by
  unfold findsClosed at hopen
  unfold isTransient
  cases herror : s.error? with
  | none => simp [herror] at hfailed
  | some e => simpa [herror] using hopen

end Sent

namespace Heartbeat

/-! ## What is seen -/

/-- What a heartbeat came to, if the event says so. -/
def Event.outcome? : Event → Option Sent
  | sent _ _ outcome => some outcome
  | _ => none

/-- What the heartbeats came to. -/
def outcomes (seen : List Event) : List Sent := seen.filterMap Event.outcome?

/-- The event asks for a heartbeat: the tunnel is idle, and not only on the agent's side. -/
def Event.asks : Event → Bool
  | idle e => e ≠ .readerIdle
  | _ => false

/-- How many heartbeats since the last one that was sent failed without finding the tunnel
closed. -/
def streak (past : List Sent) : Nat :=
  (past.reverse.takeWhile (·.error?.isSome)).countP Sent.isTransient

/-- What an outcome makes of the counter of failures. -/
def count (counter : UInt32) (outcome : Sent) : UInt32 :=
  if outcome.error?.isNone then 0
  else if outcome.isTransient then counter + 1
  else counter

/-- The counter of failures after these outcomes. -/
def counter (past : List Sent) : UInt32 := past.foldl count 0

/-! ## What is to be done -/

/-- The event is one at which the session has to be closed: the agent has been silent, the tunnel is
closed, or the failures in a row become as many as the limit says. No limit is less than one. -/
def closes (limit : UInt32) (past : List Sent) : Event → Bool
  | .idle e => e = .readerIdle
  | .sent _ _ outcome =>
    outcome.findsClosed || (outcome.isTransient && streak past + 1 = max limit.toNat 1)
  | _ => false

/-- The event is one at which there is no session any more that could be closed. -/
def leaves : Event → Bool
  | .closed => true
  | .lookedUp found => !found
  | _ => false

/-- What else is to be done at an event. -/
def puts (user : String) : Event → List Effect
  | .sent id now outcome => (outcome.entered (Body.heartbeat id user now)).map .message
  | .lookedUp false => [.closeTunnel]
  | _ => []

/-- Whether the last event that was seen made the supervisor close the session. -/
def hasClosed (limit : UInt32) (seen : List Event) : Bool :=
  seen.getLast?.any (closes limit (outcomes seen.dropLast))

/-- The failures that a supervisor has counted, as long as it is at work. -/
def failures? : Heartbeat → Option Nat
  | looking n | waiting n | sending n => some n
  | stopped => none

/-- How many heartbeats are being sent. -/
def pending : Heartbeat → Nat
  | sending _ => 1
  | _ => 0

/-- Whether the supervisor waits for an event, where its session is registered or not and closed or
not. -/
def awaits (registered closed : Bool) : Heartbeat → Event → Bool
  | looking _, .lookedUp found => found = registered
  | waiting _, .closed => closed
  | waiting _, .idle _ => true
  | sending _, .sent _ _ _ => true
  | _, _ => false

variable {user : String} {limit : UInt32} {seen : List Event} {heart heart' : Heartbeat} {e : Event}
  {effects : List Effect} {n : Nat}

theorem outcomes_append (seen : List Event) (e : Event) :
    outcomes (seen ++ [e]) = outcomes seen ++ e.outcome?.toList := by
  cases h : e.outcome? <;> simp [outcomes, h]

theorem hasClosed_append (limit : UInt32) (seen : List Event) (e : Event) :
    hasClosed limit (seen ++ [e]) = closes limit (outcomes seen) e := by
  simp [hasClosed]

theorem streak_append (past : List Sent) (outcome : Sent) :
    streak (past ++ [outcome]) =
      if outcome.error?.isNone then 0
      else if outcome.isTransient then streak past + 1
      else streak past := by
  unfold streak
  rw [List.reverse_append, List.reverse_singleton, List.singleton_append, List.takeWhile_cons]
  cases herror : outcome.error? with
  | none => rfl
  | some e =>
    simp only [Option.isSome_some, if_true, List.countP_cons, Option.isNone_some]
    split <;> rfl

theorem counter_append (past : List Sent) (outcome : Sent) :
    counter (past ++ [outcome]) = count (counter past) outcome := by
  simp [counter]

/-! ## The course of a supervisor -/

/-- What a supervisor stands for that has seen these events. -/
structure Follows (limit : UInt32) (seen : List Event) (heart : Heartbeat) : Prop where
  /-- As long as it is at work it has counted the failures in a row, and they do not suffice. -/
  failures : ∀ n, heart.failures? = some n → n = streak (outcomes seen) ∧ n < max limit.toNat 1
  /-- The counter of thirty-two bits stands at the number of failures in a row. -/
  count : (counter (outcomes seen)).toNat = streak (outcomes seen)
  /-- Every event that asked for a heartbeat had one sent, or has one being sent. -/
  requests : seen.countP Event.asks = (outcomes seen).length + heart.pending
  /-- An event at which it has to close the session or to leave is the last that it sees, and it
  stops at no other. -/
  ends : ∀ past e rest, seen = past ++ e :: rest →
    ((closes limit (outcomes past) e || leaves e) = true ↔ rest = [] ∧ heart = stopped)
  /-- It has seen something before it stops. -/
  working : heart = stopped → seen ≠ []

theorem Follows.start (limit : UInt32) : Follows limit [] start where
  failures := by
    rintro n ⟨⟩
    exact ⟨rfl, Nat.le_max_right _ _⟩
  count := rfl
  requests := rfl
  ends := fun past e rest h => by
    cases past <;> cases h
  working := by rintro ⟨⟩

/-- What follows on a heartbeat, as long as the failures in a row do not suffice. -/
theorem afterSending_eq (hlimit : n < max limit.toNat 1) (outcome : Sent) :
    afterSending limit n outcome =
      if outcome.error?.isNone then (looking 0, [])
      else if outcome.findsClosed || (outcome.isTransient && n + 1 = max limit.toNat 1) then
        (stopped, [.closeSession])
      else (looking (n + 1), []) := by
  -- below the limit, to reach it is to be at it
  have hreach : limit.toNat ≤ n + 1 ↔ n + 1 = max limit.toNat 1 := by omega
  unfold afterSending Sent.findsClosed Sent.isTransient
  cases outcome.error? with
  | none => rfl
  | some e =>
    cases hclosed : e.isChannelClosed with
    | true => simp [hclosed]
    | false => simp [hclosed, hreach]

/-- **What a step does** is said by what was seen before it. -/
theorem Follows.step_eq (h : Follows limit seen heart)
    (hstep : step user limit heart e = some (heart', effects)) :
    effects = puts user e ++ (if closes limit (outcomes seen) e then [.closeSession] else []) ∧
      (heart' = stopped ↔ (closes limit (outcomes seen) e || leaves e) = true) ∧
      heart'.pending = (if e.asks then 1 else 0) := by
  unfold step at hstep
  split at hstep
  · cases hstep
    exact ⟨rfl, by simp [leaves], rfl⟩
  · cases hstep
    exact ⟨rfl, by simp [closes, leaves], rfl⟩
  · cases hstep
    exact ⟨rfl, by simp [leaves], rfl⟩
  · cases hstep
    exact ⟨rfl, by simp [closes], rfl⟩
  · rename_i n i hi
    cases hstep
    have hcloses : closes limit (outcomes seen) (.idle i) = false := decide_eq_false hi
    have hasks : Event.asks (.idle i) = true := decide_eq_true hi
    refine ⟨?_, ?_, ?_⟩
    · simp [hcloses, puts]
    · simp [hcloses, leaves]
    · simp [hasks, pending]
  · rename_i n id now outcome
    obtain ⟨rfl, hlimit⟩ := h.failures n rfl
    simp only [afterSending_eq hlimit] at hstep
    cases hstep
    have hcloses : closes limit (outcomes seen) (.sent id now outcome) =
      (outcome.findsClosed ||
        (outcome.isTransient && streak (outcomes seen) + 1 = max limit.toNat 1)) := rfl
    cases herror : outcome.error? with
    | none =>
      have hnone : closes limit (outcomes seen) (.sent id now outcome) = false := by
        simp [closes, Sent.findsClosed, Sent.isTransient, herror]
      rw [hnone]
      exact ⟨rfl, by simp [leaves], rfl⟩
    | some error =>
      simp only [Option.isNone_some, ← hcloses]
      cases closes limit (outcomes seen) (.sent id now outcome) with
      | true => exact ⟨rfl, by simp, rfl⟩
      | false => exact ⟨rfl, by simp [leaves], rfl⟩
  · cases hstep

theorem ne_stopped_of_step (hstep : step user limit heart e = some (heart', effects)) :
    heart ≠ stopped := by
  rintro rfl
  cases hstep

theorem exists_failures (h : heart ≠ stopped) : ∃ n, heart.failures? = some n := by
  cases heart with
  | looking n | waiting n | sending n => exact ⟨n, rfl⟩
  | stopped => exact absurd rfl h

/-- Only a heartbeat that is being sent comes to something. -/
theorem pending_of_step (hstep : step user limit heart e = some (heart', effects)) :
    heart.pending = e.outcome?.toList.length := by
  unfold step at hstep
  split at hstep
  any_goals rfl
  cases hstep

/-- An outcome moves the counter as it moves the number of failures in a row. -/
theorem toNat_counter_append {past : List Sent} (h : (counter past).toNat = streak past)
    (hroom : streak past + 1 < UInt32.size) (outcome : Sent) :
    (counter (past ++ [outcome])).toNat = streak (past ++ [outcome]) := by
  rw [counter_append, streak_append, count]
  split
  · rfl
  split
  · rw [UInt32.toNat_add, h]
    exact Nat.mod_eq_of_lt hroom
  · exact h

theorem Follows.failures_of_step (h : Follows limit seen heart)
    (hstep : step user limit heart e = some (heart', effects)) (hn : heart'.failures? = some n) :
    n = streak (outcomes (seen ++ [e])) ∧ n < max limit.toNat 1 := by
  rw [outcomes_append]
  unfold step at hstep
  split at hstep
  · cases hstep
    cases hn
  · cases hstep
    simpa [Event.outcome?] using h.failures n hn
  · cases hstep
    cases hn
  · cases hstep
    cases hn
  · cases hstep
    simpa [Event.outcome?] using h.failures n hn
  · rename_i k id now outcome
    obtain ⟨rfl, hlimit⟩ := h.failures k rfl
    simp only [afterSending_eq hlimit, Option.some.injEq, Prod.mk.injEq] at hstep
    obtain ⟨rfl, -⟩ := hstep
    simp only [Event.outcome?, Option.toList_some, streak_append]
    split at hn
    · rename_i hsent
      cases hn
      rw [if_pos hsent]
      exact ⟨rfl, Nat.lt_of_lt_of_le Nat.one_pos (Nat.le_max_right _ _)⟩
    · rename_i hfailed
      split at hn
      · cases hn
      · rename_i hgoesOn
        cases hn
        -- a failure that does not close the session is a transient one below the limit
        simp only [Bool.or_eq_true, Bool.and_eq_true, decide_eq_true_eq, not_or, not_and] at hgoesOn
        have htransient := Sent.isTransient_of_not_findsClosed hfailed hgoesOn.1
        have hbelow := hgoesOn.2 htransient
        rw [if_neg hfailed, if_pos htransient]
        exact ⟨rfl, by omega⟩
  · cases hstep

theorem Follows.step (h : Follows limit seen heart)
    (hstep : step user limit heart e = some (heart', effects)) :
    Follows limit (seen ++ [e]) heart' := by
  obtain ⟨-, hstops, hpending⟩ := h.step_eq hstep
  have hworking := ne_stopped_of_step hstep
  exact {
    failures := fun n hn => h.failures_of_step hstep hn
    count := by
      obtain ⟨k, hk⟩ := exists_failures hworking
      obtain ⟨rfl, hlimit⟩ := h.failures k hk
      have hsize : max limit.toNat 1 < UInt32.size :=
        Nat.max_lt.mpr ⟨limit.toNat_lt, by decide⟩
      rw [outcomes_append]
      cases e.outcome? with
      | none => simpa using h.count
      | some outcome => exact toNat_counter_append h.count (by omega) outcome
    requests := by
      have hsent := pending_of_step hstep
      have hrequests := h.requests
      rw [List.countP_append, outcomes_append, List.length_append, List.countP_singleton]
      omega
    ends := fun past e' rest heq => by
      rcases List.eq_nil_or_concat rest with rfl | ⟨earlier, last, rfl⟩
      · obtain ⟨rfl, hlast⟩ := List.append_inj' heq rfl
        cases hlast
        simp [hstops]
      · rw [List.concat_eq_append, ← List.cons_append, ← List.append_assoc] at heq
        obtain ⟨hseen, -⟩ := List.append_inj' heq rfl
        simp [h.ends past e' earlier hseen, hworking]
    working := fun _ => by simp }

/-- A supervisor that is at work has not closed the session. -/
theorem Follows.hasClosed_eq_false (h : Follows limit seen heart) (hworking : heart ≠ stopped) :
    hasClosed limit seen = false := by
  rcases List.eq_nil_or_concat seen with rfl | ⟨past, e, rfl⟩
  · rfl
  · rw [List.concat_eq_append] at h ⊢
    rw [hasClosed_append]
    have hends := h.ends past e [] rfl
    simp only [hworking, and_false, iff_false, Bool.or_eq_true, not_or] at hends
    exact eq_false_of_ne_true hends.1

theorem contains_closeSession (user : String) (e : Event) (b : Bool) :
    (puts user e ++ if b then [Effect.closeSession] else []).contains .closeSession = b := by
  have hputs : (puts user e).contains Effect.closeSession = false := by
    unfold puts
    split
    · simp
    · rfl
    · rfl
  rw [List.contains_append, hputs]
  cases b <;> rfl

end Heartbeat

/-! ## The course of a session -/

namespace ProxyRelay

open Heartbeat (Follows closes leaves puts hasClosed outcomes)

/-- What the supervisor sees in an event, if it sees it. -/
def Event.supervisor? : Event → Option Heartbeat.Event
  | heart e => some e
  | _ => none

/-- Where a relay stands whose supervisor has seen these events: the supervisor is where they put
it, and the session is open until a leg ends or the supervisor closes it. -/
def Stands (limit : UInt32) (r : ProxyRelay) (seen : List Heartbeat.Event) : Prop :=
  match r.phase with
  | .confirming => seen = [] ∧ r.lifecycle = ⟨.established, false⟩
  | .running up down heart =>
    Follows limit seen heart ∧
      r.lifecycle = after (up = .ended || down = .ended || hasClosed limit seen)
        ⟨.established, false⟩
  | .closed => True

theorem after_after (a b : Bool) :
    after a (after b ⟨.established, false⟩) = after (a || b) ⟨.established, false⟩ := by
  cases a <;> cases b <;> rfl

variable {c : ProxyContext} {streams streams' : ProxyStreams} {r r' : ProxyRelay}
  {up : ToTarget} {down : FromTarget} {heart : Heartbeat} {seen : List Heartbeat.Event}
  {es : List ProxyEffect}

theorem Stands.start {id : String} {m : Body AgentKind}
    (h : start streams id m ⟨.connecting, false⟩ = some (streams', r)) (limit : UInt32) :
    r.Stands limit [] := by
  unfold ProxyRelay.start at h
  simp only at h
  split at h
  · rename_i l _ hl
    cases h
    cases hl
    exact ⟨rfl, rfl⟩
  · cases h

/-- A leg to the target that acts has not ended, and closes the session if it ends. -/
theorem step_up {e : ToTarget.Event} (hphase : r.phase = .running up down heart)
    (h : r.step c streams (.up e) = some (streams', r', es)) :
    up ≠ .ended ∧ ∃ up' : ToTarget, r' = { r with
      lifecycle := after (up' = .ended) r.lifecycle
      phase := .running up' down heart } := by
  unfold step at h
  split at h
  · cases h
  simp only [hphase] at h
  obtain ⟨⟨up', _⟩, hup, heq⟩ := Option.bind_eq_some_iff.mp h
  cases heq
  refine ⟨?_, up', rfl⟩
  rintro rfl
  cases hup

/-- A leg from the target that acts has not ended, and closes the session if it ends. -/
theorem step_down {e : FromTarget.Event} (hphase : r.phase = .running up down heart)
    (h : r.step c streams (.down e) = some (streams', r', es)) :
    down ≠ .ended ∧ ∃ down' : FromTarget, r' = { r with
      lifecycle := after (down' = .ended) r.lifecycle
      phase := .running up down' heart } := by
  unfold step at h
  split at h
  · cases h
  simp only [hphase] at h
  obtain ⟨⟨down', _⟩, hdown, heq⟩ := Option.bind_eq_some_iff.mp h
  cases heq
  refine ⟨?_, down', rfl⟩
  rintro rfl
  cases hdown

/-- What a supervisor does in its session. -/
theorem step_heart {e : Heartbeat.Event}
    (hphase : r.phase = .running up down heart)
    (hfollows : Follows c.retry.heartbeatFailureLimit seen heart)
    (h : r.step c streams (.heart e) = some (streams', r', es)) :
    ∃ heart', Heartbeat.step r.user c.retry.heartbeatFailureLimit heart e =
        some (heart', puts r.user e ++
          if closes c.retry.heartbeatFailureLimit (outcomes seen) e then [.closeSession] else []) ∧
      streams' = streams ∧ es = (puts r.user e).flatMap outer ∧
      r' = { r with
        lifecycle := after (closes c.retry.heartbeatFailureLimit (outcomes seen) e) r.lifecycle
        phase := .running up down heart' } := by
  unfold step at h
  split at h
  · cases h
  simp only [hphase] at h
  obtain ⟨⟨heart', effects⟩, hheart, heq⟩ := Option.bind_eq_some_iff.mp h
  cases heq
  obtain ⟨rfl, -⟩ := hfollows.step_eq hheart
  refine ⟨heart', hheart, rfl, ?_, ?_⟩
  · rw [List.flatMap_append]
    split <;> exact List.append_nil _
  · rw [Heartbeat.contains_closeSession]

/-- The session is over when all legs have ended. -/
theorem phase_of_finished (h : r.step c streams .finished = some (streams', r', es)) :
    r'.phase = .closed := by
  unfold step at h
  split at h
  · cases h
  split at h
  · rename_i heq
    cases heq
  · rename_i heq
    cases heq
  · rename_i heq
    cases heq
  · rename_i heq
    cases heq
  · cases h
    rfl
  · cases h

/-- **A relay stands where what its supervisor has seen puts it**, whatever its legs do. -/
theorem Stands.step {e : Event} (hr : r.Stands c.retry.heartbeatFailureLimit seen)
    (h : r.step c streams e = some (streams', r', es)) :
    r'.Stands c.retry.heartbeatFailureLimit (seen ++ e.supervisor?.toList) := by
  obtain ⟨id, target, user, lifecycle, phase⟩ := r
  cases phase with
  | closed =>
    unfold ProxyRelay.step at h
    split at h <;> cases h
  | confirming =>
    obtain ⟨rfl, hlifecycle⟩ := hr
    simp only at hlifecycle
    subst hlifecycle
    unfold ProxyRelay.step at h
    split at h
    · cases h
    cases e with
    | sent messageId outcome =>
      simp only at h
      split at h
      · cases h
        exact ⟨Follows.start _, rfl⟩
      · cases h
        trivial
    | _ => cases h
  | running up down heart =>
    obtain ⟨hfollows, hlifecycle⟩ := hr
    simp only at hlifecycle
    cases e with
    | heart e =>
      obtain ⟨heart', hheart, -, -, rfl⟩ := step_heart rfl hfollows h
      refine ⟨hfollows.step hheart, ?_⟩
      -- a supervisor at work has not closed the session yet, so it is this event that may
      have hopen := hfollows.hasClosed_eq_false (Heartbeat.ne_stopped_of_step hheart)
      simp only [Event.supervisor?, Option.toList_some, Heartbeat.hasClosed_append, hlifecycle,
        after_after, hopen, Bool.or_false]
      rw [Bool.or_comm]
    | up e =>
      obtain ⟨hopen, up', rfl⟩ := step_up rfl h
      refine ⟨by simpa [Event.supervisor?] using hfollows, ?_⟩
      simp only [Event.supervisor?, Option.toList_none, List.append_nil, hlifecycle, after_after,
        decide_eq_false hopen, Bool.false_or, Bool.or_assoc]
    | down e =>
      obtain ⟨hopen, down', rfl⟩ := step_down rfl h
      refine ⟨by simpa [Event.supervisor?] using hfollows, ?_⟩
      simp only [Event.supervisor?, Option.toList_none, List.append_nil, hlifecycle, after_after,
        decide_eq_false hopen, Bool.or_false]
      rw [← Bool.or_assoc, Bool.or_comm (decide (down' = .ended))]
    | finished =>
      have hclosed := phase_of_finished h
      unfold Stands
      rw [hclosed]
      trivial
    | sent messageId outcome =>
      unfold ProxyRelay.step at h
      split at h <;> cases h

/-- What a supervisor waits for in its session. -/
theorem isSome_step_heart (hphase : r.phase = .running up down heart) (e : Heartbeat.Event) :
    (r.step c streams (.heart e)).isSome =
      heart.awaits (streams.get? r.id).isSome r.lifecycle.cancelled e := by
  have hstep : (r.step c streams (.heart e)).isSome = (visible streams r (.heart e) &&
      (Heartbeat.step r.user c.retry.heartbeatFailureLimit heart e).isSome) := by
    unfold step
    cases visible streams r (.heart e) with
    | false => rfl
    | true =>
      simp only [hphase]
      cases Heartbeat.step r.user c.retry.heartbeatFailureLimit heart e <;> rfl
  rw [hstep]
  cases heart with
  | stopped => exact Bool.and_false _
  | looking n =>
    cases e with
    | lookedUp found =>
      cases found <;> simp [visible, Heartbeat.step, Heartbeat.awaits]
    | _ => exact Bool.and_false _
  | waiting n =>
    cases e with
    | closed => exact Bool.and_true _
    | idle i => cases i <;> rfl
    | _ => exact Bool.and_false _
  | sending n =>
    cases e with
    | sent id now outcome => rfl
    | _ => exact Bool.and_false _

/-! ## Whatever happens -/

/-- What can happen around a relay. -/
inductive Happening where
  /-- Something that the relay waits for. -/
  | event (e : Event)
  /-- Others change the registry. -/
  | others (streams : ProxyStreams)

/-- A relay in the registry that it shares with others, with what its supervisor has seen. -/
structure Watched where
  streams : ProxyStreams
  relay : ProxyRelay
  seen : List Heartbeat.Event

namespace Watched

/-- What something that happens leads to; nothing when the relay does not wait for it. -/
def step (c : ProxyContext) (w : Watched) : Happening → Option Watched
  | .event e => (w.relay.step c w.streams e).map fun (streams, relay, _) =>
      ⟨streams, relay, w.seen ++ e.supervisor?.toList⟩
  | .others streams => some { w with streams }

/-- What a sequence of happenings leads to. -/
def run (c : ProxyContext) : Watched → List Happening → Option Watched
  | w, [] => some w
  | w, h :: hs => (w.step c h).bind (run c · hs)

/-- What is true of a session that is running, where its legs and its supervisor stand as given. -/
structure Supervised (c : ProxyContext) (w : Watched) (up : ToTarget) (down : FromTarget)
    (heart : Heartbeat) : Prop where
  /-- The supervisor stands where what it has seen puts it. -/
  follows : Follows c.retry.heartbeatFailureLimit w.seen heart
  /-- The session is open until a leg ends or the supervisor closes it. -/
  lifecycle : w.relay.lifecycle = after (up = .ended || down = .ended ||
    hasClosed c.retry.heartbeatFailureLimit w.seen) ⟨.established, false⟩
  /-- The supervisor waits for everything that can come of what it is doing, and else for nothing. -/
  awaits : ∀ e, (w.relay.step c w.streams (.heart e)).isSome =
    heart.awaits (w.streams.get? w.relay.id).isSome w.relay.lifecycle.cancelled e
  /-- An event closes the session just if the events before say so, stops the supervisor just if
  the session is closed then or gone, and makes it send just if it asks for a heartbeat. Nothing
  else of the session changes, nor does the registry. -/
  changes : ∀ e streams r es, w.relay.step c w.streams (.heart e) = some (streams, r, es) →
    ∃ heart' : Heartbeat,
      streams = w.streams ∧ es = (puts w.relay.user e).flatMap outer ∧
      r = { w.relay with
        lifecycle := after (closes c.retry.heartbeatFailureLimit (outcomes w.seen) e)
          w.relay.lifecycle
        phase := .running up down heart' } ∧
      (heart' = .stopped ↔
        (closes c.retry.heartbeatFailureLimit (outcomes w.seen) e || leaves e) = true) ∧
      heart'.pending = if e.asks then 1 else 0

end Watched

theorem Watched.stands_of_run {w w' : Watched} {hs : List Happening}
    (hw : w.relay.Stands c.retry.heartbeatFailureLimit w.seen) (hrun : w.run c hs = some w') :
    w'.relay.Stands c.retry.heartbeatFailureLimit w'.seen := by
  induction hs generalizing w with
  | nil =>
    cases hrun
    exact hw
  | cons h hs ih =>
    obtain ⟨w₁, hstep, hrest⟩ := Option.bind_eq_some_iff.mp hrun
    refine ih ?_ hrest
    cases h with
    | others streams =>
      cases hstep
      exact hw
    | event e =>
      obtain ⟨⟨streams, r, es⟩, hrelay, heq⟩ := Option.map_eq_some_iff.mp hstep
      cases heq
      exact hw.step hrelay

/-- **A supervisor closes its session exactly when it should.** Let a session start, and let
anything happen to it and around it. As long as it is running, its supervisor has counted the
failures in a row and has sent a heartbeat whenever it was asked for; it has closed the session or
left it at the first event that asked for that, and it will do so at the next that does. -/
theorem supervised_of_run {id : String} {m : Body AgentKind} {w : Watched} {hs : List Happening}
    (hstart : start streams id m ⟨.connecting, false⟩ = some (streams', r))
    (hrun : Watched.run c ⟨streams', r, []⟩ hs = some w)
    (hphase : w.relay.phase = .running up down heart) :
    w.Supervised c up down heart := by
  have hstands := Watched.stands_of_run (w := ⟨streams', r, []⟩) (Stands.start hstart _) hrun
  unfold Stands at hstands
  rw [hphase] at hstands
  obtain ⟨hfollows, hlifecycle⟩ := hstands
  exact {
    follows := hfollows
    lifecycle := hlifecycle
    awaits := isSome_step_heart hphase
    changes := fun e streams r es hstep => by
      obtain ⟨heart', hheart, hstreams, hes, hr⟩ := step_heart hphase hfollows hstep
      obtain ⟨-, hstops, hpending⟩ := hfollows.step_eq hheart
      exact ⟨heart', hstreams, hes, hr, hstops, hpending⟩ }

/-- A proxy that closes a session at the second failure in a row. -/
def twoFailures : ProxyContext where
  limits := ⟨false, Frame.defaultMaxFrameSize⟩
  pieceSize := 65536
  targetConnectTimeout := 20
  initTimeout := 30
  retry := { RetryPolicy.default with heartbeatFailureLimit := 2 }
  idle := IdleThresholds.ofSeconds 0 0 30

/-- A heartbeat that an idle tunnel asks for, and what it comes to. -/
def beat (idle : IdleEvent) (outcome : Sent) : List Happening :=
  [.event (.heart (.lookedUp true)), .event (.heart (.idle idle)),
    .event (.heart (.sent "h" 0 outcome))]

/-- A failure, a heartbeat that is sent, and two failures in a row. -/
def unsteady : List Happening :=
  let slow : Sent := .stuck (.transientWrite 3 ⟨.timedOut, "timed out"⟩)
  .event (.sent "s" .done) :: (beat .allIdle slow ++ beat .writerIdle .done ++ beat .allIdle slow ++
    beat .allIdle slow)

/-- The second failure in a row closes a session, although it is the third in all. -/
theorem third_failure_closes : ∃ streams r w,
    start .empty "1" (Body.connect "1" "user" "example.org" 80 true) ⟨.connecting, false⟩ =
      some (streams, r) ∧
    Watched.run twoFailures ⟨streams, r, []⟩ unsteady = some w ∧
    w.relay.phase = .running .reading .reading .stopped ∧
    w.relay.lifecycle = ⟨.closed, true⟩ ∧
    w.Supervised twoFailures .reading .reading .stopped := by
  have houtcome : ((start .empty "1" (Body.connect "1" "user" "example.org" 80 true)
      ⟨.connecting, false⟩).bind fun x => Watched.run twoFailures ⟨x.1, x.2, []⟩ unsteady).map
        (fun w => (w.relay.phase, w.relay.lifecycle)) =
      some (.running .reading .reading .stopped, ⟨.closed, true⟩) := by
    decide +kernel
  obtain ⟨w, hw, heq⟩ := Option.map_eq_some_iff.mp houtcome
  obtain ⟨⟨streams, r⟩, hstart, hrun⟩ := Option.bind_eq_some_iff.mp hw
  simp only [Prod.mk.injEq] at heq
  obtain ⟨hphase, hlifecycle⟩ := heq
  exact ⟨streams, r, w, hstart, hrun, hphase, hlifecycle, supervised_of_run hstart hrun hphase⟩

end ProxyRelay

end TunnelRelay
