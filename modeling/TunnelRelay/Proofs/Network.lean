import TunnelRelay.Proofs.Network.Session
import TunnelRelay.Proofs.System

/-!
# What clients are told of their targets

A client asks an agent for a target, the agent asks a proxy, and the proxy asks the connector. Each
of them answers the one before, over a tunnel with heartbeats in between, and others are served at
the same time. `reaches_agrees` says that the answers agree: what a proxy says on a tunnel is what
the connector came to, a client is told that its target is connected only if the connector has
returned a stream for exactly this target, and when a proxy has reported that it has none, the
client is told so and nothing else. Only of a target that it loses between connecting it and
answering a proxy says nothing at all (`lost_target_unanswered`).
-/

namespace TunnelRelay

/-- Whether a tunnel is being opened for the client. -/
def AgentSession.isOpening : AgentSession → Bool
  | socks (.opening _ _) | http (.opening _ _ _) => true
  | _ => false

/-- Whether the client is being told that its target cannot be reached. -/
def AgentSession.isReporting : AgentSession → Bool
  | socks (.refusing .failure) | http (.rejecting .badGateway) => true
  | _ => false

/-- How a client is told that its target cannot be reached. -/
def AgentSession.failure : AgentSession → Bytes
  | socks _ => (Socks.Reply.refusal .failure).toBytes
  | http _ => Http.Response.badGateway.toBytes
  | _ => []

namespace Network

variable {w : Setting} {n m : Network}

/-- A client that was told that a target is connected has asked for it, and it is. -/
def IsTruthful (w : Setting) (n : Network) : Prop :=
  ∀ a ∈ n.told, ∀ target, a.target = some target →
    a.octets = [] ∨ n.HasAsked w a.octets target ∧ ∃ l ∈ n.lines, l.Connected w.retries target

/-- **The client, the agent, the proxies and the connector agree.** -/
structure Agrees (w : Setting) (n : Network) : Prop where
  /-- What a proxy says on a tunnel is what the first message and the connector ask for, unless the
  target is lost. -/
  answers : ∀ l ∈ n.lines, ProxySession.Settles w.retries l.past l.proxy l.done
  /-- A client is given a success only for a target that it has asked for and to which the connector
  has returned a stream. -/
  success : n.IsTruthful w
  /-- When a proxy has reported that it could not reach a target, the report is on its way to the
  agent or the failure is on its way to the client, who has been told nothing yet; or the client has
  been told the failure, unless this could not be written, and nothing else. -/
  failure : ∀ l ∈ n.lines, ∀ x ∈ ProxyEffect.messages l.done, x.kind = .connectFail →
    (n.told = [] ∧ (n.agent.isOpening ∧ l.down = [x] ∨ n.agent.isReporting)) ∨
      ∃ b, n.told = [⟨none, b⟩] ∧ (b = [] ∨ b = n.agent.failure)
  /-- As long as that client has been told nothing, the agent can go on to tell it the failure. -/
  report : ∀ l ∈ n.lines, ∀ x ∈ ProxyEffect.messages l.done, x.kind = .connectFail →
    n.told = [] → ∃ m, Reaches w n m ∧ m.told = [⟨none, n.agent.failure⟩]

/-- What is known of the network. -/
structure Sound (w : Setting) (n : Network) : Prop where
  lines : ∀ l ∈ n.lines, l.Sound w.retries
  agent : n.agent.Stands w n
  truthful : n.IsTruthful w

/-! ## One event -/

/-- What an event of the agent takes and puts where. -/
theorem eq_of_agentMoves {next : Line} {e : AgentSession.Event}
    (h : n.agentMoves w next e = some m) :
    ∃ ks registries agent effects, takeLatest n.lines e.receives = some ks ∧
      n.agent.step w.agent w.link n.registries e = some (registries, agent, effects) ∧
      m = { n.after next ks e effects with agent, registries } := by
  unfold agentMoves at h
  simp only [bind, pure, Option.bind_eq_some_iff, Option.some.injEq] at h
  obtain ⟨ks, hks, ⟨registries, agent, effects⟩, hstep, rfl⟩ := h
  exact ⟨ks, registries, agent, effects, hks, hstep, rfl⟩

/-- What an agent can do happens in the network. -/
theorem exists_step {e : AgentSession.Event} {ks : List Line} {registries : AgentRegistries}
    {s : AgentSession} {effects : List AgentEffect}
    (htake : takeLatest n.lines e.receives = some ks)
    (hstep : n.agent.step w.agent w.link n.registries e = some (registries, s, effects)) :
    ∃ m, Step w n m ∧ m.agent = s ∧
      m.told = n.told ++ (n.agent.notice? e effects).toList := by
  have hmove : n.agentMoves w (.fresh "" ⟨.empty, .empty⟩) e =
      some { n.after (.fresh "" ⟨.empty, .empty⟩) ks e effects with agent := s, registries } := by
    rw [agentMoves, htake, Option.bind_eq_bind, Option.bind_some, hstep]
    rfl
  exact ⟨_, .agent e "" ⟨.empty, .empty⟩ rfl hmove, rfl, rfl⟩

/-- **What a client is told is so** when it is told. -/
theorem truthful_of_notice {s s' : AgentSession} {rs rs' : AgentRegistries}
    {e : AgentSession.Event} {es : List AgentEffect} {a : Notice} {target : Target}
    (h : s.step w.agent w.link rs e = some (rs', s', es)) (hs : s.Stands w n)
    (hnotice : s.notice? e es = some a) (htarget : a.target = some target) :
    a.octets = [] ∨ n.HasAsked w a.octets target ∧
      Latest w.retries (Line.Connected w.retries target) n.lines := by
  unfold AgentSession.notice? at hnotice
  split at hnotice
  · rename_i o rest success
    cases hnotice
    cases htarget
    obtain ⟨hasked, -, hconnected⟩ := hs
    obtain ⟨⟨_, _, _⟩, hstep, heq⟩ := Option.bind_eq_some_iff.mp h
    cases heq
    cases success with
    | true =>
      simp only [SocksSession.step, Option.some.injEq, Prod.mk.injEq] at hstep
      obtain ⟨-, -, rfl⟩ := hstep
      right
      rw [Relay.forClient_cons_start]
      exact ⟨hasked, hconnected⟩
    | false =>
      cases hstep
      exact .inl rfl
  · rename_i o inbound success
    cases hnotice
    cases htarget
    obtain ⟨hasked, -, hconnected⟩ := hs
    obtain ⟨⟨_, _, _⟩, hstep, heq⟩ := Option.bind_eq_some_iff.mp h
    cases heq
    cases success with
    | true =>
      simp only [HttpSession.step, Option.some.injEq, Prod.mk.injEq] at hstep
      obtain ⟨-, -, rfl⟩ := hstep
      right
      rw [Relay.forClient_cons_start]
      exact ⟨hasked, hconnected⟩
    | false =>
      cases hstep
      exact .inl rfl
  · cases hnotice
    cases htarget
  · cases hnotice
    cases htarget
  · cases hnotice

theorem Latest.exists_mem {limit : UInt32} {P : Line → Prop} {lines : List Line}
    (h : Latest limit P lines) : ∃ l ∈ lines, P l := by
  cases lines with
  | nil => cases h
  | cons l lines => exact ⟨l, List.mem_cons_self, h.1⟩

theorem IsTruthful.agentMoves {e : AgentSession.Event} {next : Line} {ks : List Line}
    {registries : AgentRegistries} {agent : AgentSession} {effects : List AgentEffect}
    (hs : n.Sound w) (htake : takeLatest n.lines e.receives = some ks)
    (hstep : n.agent.step w.agent w.link n.registries e = some (registries, agent, effects)) :
    (n.after next ks e effects).IsTruthful w := by
  have hlines {target : Target} (h : ∃ l ∈ n.lines, l.Connected w.retries target) :
      ∃ l ∈ (n.after next ks e effects).lines, l.Connected w.retries target :=
    exists_connected_carry next (exists_connected_grow (forall₂_of_takeLatest htake) h)
  intro a ha target htarget
  rcases List.mem_append.mp ha with ha | ha
  · -- what was true before is true
    refine (hs.truthful a ha target htarget).imp_right fun hold => ?_
    exact ⟨hold.1.append _, hlines hold.2⟩
  · have hnotice := Option.mem_toList.mp ha
    refine (truthful_of_notice hstep hs.agent hnotice htarget).imp_right fun hnew => ?_
    exact ⟨hnew.1.append _, hlines hnew.2.exists_mem⟩

/-- An event of the agent keeps what is known. -/
theorem Sound.agentMoves {id : String} {registries : ProxyRegistries} {e : AgentSession.Event}
    (hfree : registries.streams.get? id = none)
    (h : n.agentMoves w (.fresh id registries) e = some m) (hs : n.Sound w) : m.Sound w := by
  obtain ⟨ks, registries', agent, effects, htake, hstep, rfl⟩ := eq_of_agentMoves h
  exact {
    lines := forall_mem_carry htake (fun _ _ _ hl hsound => hsound.take hl)
      (fun _ ms hsound => hsound.put ms) (Line.sound_fresh hfree) hs.lines
    agent := AgentSession.step_stands hstep rfl htake hs.lines hs.agent
    truthful := IsTruthful.agentMoves hs htake hstep }

/-- Any event keeps what is known. -/
theorem Sound.step (h : Step w n m) (hs : n.Sound w) : m.Sound w := by
  cases h with
  | agent e id registries hfree hmove => exact hs.agentMoves hfree hmove
  | @line before after l k heq hstep =>
    have hall : List.Forall₂ Line.GoesOn (before ++ l :: after) (before ++ k :: after) :=
      forall₂_of_step hstep
    rw [← heq] at hall
    have hgrows := hall.imp fun _ _ hg => hg.toGrows
    exact {
      lines := by
        intro x hx
        have hlines := hs.lines
        rw [heq] at hlines
        rcases List.mem_append.mp hx with hx | hx
        · exact hlines x (List.mem_append_left _ hx)
        · rcases List.mem_cons.mp hx with rfl | hx
          · exact (hlines l (List.mem_append_right _ List.mem_cons_self)).step hstep
          · exact hlines x (List.mem_append_right _ (List.mem_cons_of_mem _ hx))
      agent := hs.agent.goOn hall
      truthful := fun a ha target htarget =>
        (hs.truthful a ha target htarget).imp_right fun hold =>
          ⟨hold.1, exists_connected_grow hgrows hold.2⟩ }
  | others registries => exact ⟨hs.lines, hs.agent, hs.truthful⟩

/-! ## Any number of events -/

/-- Whatever happens keeps what is known. -/
theorem sound_of_reaches {registries : AgentRegistries} (h : Reaches w (start registries) n) :
    n.Sound w := by
  induction h with
  | refl =>
    have hnone : ∀ l ∈ ([] : List Line), l.IsSettled w.retries := by
      intro l hl
      cases hl
    exact {
      lines := by
        intro l hl
        cases hl
      agent := ⟨rfl, rfl, hnone⟩
      truthful := by
        intro a ha
        cases ha }
  | step _ hstep ih => exact ih.step hstep

/-- The tunnel on which a failure was reported is the latest one. -/
theorem Sound.latest_of_connectFail (hs : n.Sound w) (hlines : Settled w.retries n.lines.tail)
    {l : Line} (hl : l ∈ n.lines) {x : Body ProxyKind} (hx : x ∈ ProxyEffect.messages l.done)
    (hkind : x.kind = .connectFail) : ∃ rest, n.lines = l :: rest := by
  cases hcons : n.lines with
  | nil =>
    rw [hcons] at hl
    cases hl
  | cons k rest =>
    have hsound := hs.lines l hl
    rw [hcons] at hl hlines
    rcases List.mem_cons.mp hl with rfl | hrest
    · exact ⟨rest, rfl⟩
    · exact absurd hkind (hsound.ne_connectFail (hlines l hrest) hx)

/-- A failure that was reported while a tunnel is opened is the next message in it. -/
theorem Sound.down_eq (hs : n.Sound w) {o : Opening} (ho : o.Stands w.retries n.lines)
    (hopen : ¬o.IsFailed) {l : Line} (hl : l ∈ n.lines) {x : Body ProxyKind}
    (hx : x ∈ ProxyEffect.messages l.done) (hkind : x.kind = .connectFail) :
    o.phase = .waiting ∧ (∃ rest, n.lines = l :: rest) ∧ l.down = [x] := by
  obtain ⟨rest, hcons⟩ := hs.latest_of_connectFail ho.tail hl hx hkind
  obtain ⟨hdone, hsent⟩ := (hs.lines l hl).eq_of_connectFail hx hkind
  have hsettled : ¬Settled w.retries n.lines := fun hall =>
    (hs.lines l hl).ne_connectFail (hall l hl) hx hkind
  rw [Opening.Stands] at ho
  cases hphase : o.phase with
  | choosing left =>
    rw [hphase] at ho
    exact absurd ho hsettled
  | asking =>
    rw [hphase, hcons] at ho
    exact absurd ho.1.1 hsent
  | waiting =>
    rw [hphase, hcons] at ho
    obtain ⟨⟨-, heard, hheard, hall⟩, -⟩ := ho
    rw [hdone] at hheard
    refine ⟨rfl, ⟨rest, hcons⟩, ?_⟩
    -- what has been read is heartbeats, and the failure is none
    cases heard with
    | nil => exact hheard.symm
    | cons y heard =>
      obtain rfl : x = y := (List.cons.inj hheard).1
      have hbeat := hall x List.mem_cons_self
      rw [hkind] at hbeat
      cases hbeat
  | opened =>
    rw [hphase] at ho
    exact absurd (relaying_of_connected ho).settled hsettled
  | failed cause => exact absurd ⟨cause, hphase⟩ hopen

/-! ## The report of a failure -/

/-- Writing the report tells the client. -/
theorem exists_told_of_isReporting (h : n.agent.isReporting) (htold : n.told = []) :
    ∃ m, Step w n m ∧ m.told = [⟨none, n.agent.failure⟩] := by
  cases hstate : n.agent with
  | socks s =>
    rw [hstate] at h
    cases s with
    | refusing status =>
      cases status with
      | failure =>
        obtain ⟨m, hstep, -, hm⟩ := exists_step (w := w) (n := n) (e := .socks (.wrote true))
          rfl (by rw [hstate]; rfl)
        refine ⟨m, hstep, ?_⟩
        rw [hm, hstate, htold]
        rfl
      | _ => cases h
    | _ => cases h
  | http s =>
    rw [hstate] at h
    cases s with
    | rejecting a =>
      cases a with
      | badGateway =>
        obtain ⟨m, hstep, -, hm⟩ := exists_step (w := w) (n := n) (e := .http (.wrote true))
          rfl (by rw [hstate]; rfl)
        refine ⟨m, hstep, ?_⟩
        rw [hm, hstate, htold]
        rfl
      | _ => cases h
    | _ => cases h
  | _ =>
    rw [hstate] at h
    cases h

/-- Reading the report has it written. -/
theorem Sound.exists_isReporting (hs : n.Sound w) (h : n.agent.isOpening) {l : Line}
    (hl : l ∈ n.lines) {x : Body ProxyKind} (hx : x ∈ ProxyEffect.messages l.done)
    (hkind : x.kind = .connectFail) :
    ∃ m, Step w n m ∧ m.told = n.told ∧ m.agent.isReporting ∧
      m.agent.failure = n.agent.failure := by
  have htake (rest : List Line) (hdown : l.down = [x]) :
      takeLatest (l :: rest) (some (.body x)) = some ({ l with down := [] } :: rest) := by
    simp [takeLatest, Line.take, takeNext, hdown]
  have hagent := hs.agent
  cases hstate : n.agent with
  | socks s =>
    rw [hstate] at h hagent
    cases s with
    | opening o behind =>
      obtain ⟨-, -, ho, hopen⟩ := hagent
      obtain ⟨hphase, ⟨rest, hcons⟩, hdown⟩ := hs.down_eq ho hopen hl hx hkind
      obtain ⟨m, hstep, hm, htold⟩ := exists_step (w := w) (n := n)
        (e := .socks (.opening (.received (.body x)))) (s := .socks (.refusing .failure))
        (by rw [hcons]; exact htake rest hdown) (by
          rw [hstate, AgentSession.step, SocksSession.step,
            Opening.step_of_connectFail _ hphase hkind]
          rfl)
      refine ⟨m, hstep, ?_, by rw [hm]; rfl, by rw [hm]; rfl⟩
      rw [htold, hstate]
      exact List.append_nil n.told
    | _ => cases h
  | http s =>
    rw [hstate] at h hagent
    cases s with
    | opening o q inbound =>
      obtain ⟨-, -, -, ho, hopen⟩ := hagent
      obtain ⟨hphase, ⟨rest, hcons⟩, hdown⟩ := hs.down_eq ho hopen hl hx hkind
      obtain ⟨m, hstep, hm, htold⟩ := exists_step (w := w) (n := n)
        (e := .http (.opening (.received (.body x)))) (s := .http (.rejecting .badGateway))
        (by rw [hcons]; exact htake rest hdown) (by
          rw [hstate, AgentSession.step, HttpSession.step,
            Opening.step_of_connectFail _ hphase hkind]
          rfl)
      refine ⟨m, hstep, ?_, by rw [hm]; rfl, by rw [hm]; rfl⟩
      rw [htold, hstate]
      exact List.append_nil n.told
    | _ => cases h
  | _ =>
    rw [hstate] at h
    cases h

/-- What is known where a failure was reported. -/
theorem Sound.reported (hs : n.Sound w) {l : Line} (hl : l ∈ n.lines) {x : Body ProxyKind}
    (hx : x ∈ ProxyEffect.messages l.done) (hkind : x.kind = .connectFail) :
    (n.told = [] ∧ (n.agent.isOpening ∧ l.down = [x] ∨ n.agent.isReporting)) ∨
      ∃ b, n.told = [⟨none, b⟩] ∧ (b = [] ∨ b = n.agent.failure) := by
  have hsettled : ¬Settled w.retries n.lines := fun hall =>
    (hs.lines l hl).ne_connectFail (hall l hl) hx hkind
  have hover {failure : Bytes} (h : n.IsOver w failure) :
      ∃ b, n.told = [⟨none, b⟩] ∧ (b = [] ∨ b = failure) := by
    rcases h with hall | ⟨htold, -⟩
    · exact absurd hall hsettled
    · exact htold
  have hagent := hs.agent
  cases hstate : n.agent with
  | fresh =>
    rw [hstate] at hagent
    exact absurd hagent.2.2 hsettled
  | refusing | closed =>
    rw [hstate] at hagent
    exact absurd hagent.2 hsettled
  | socks s =>
    rw [hstate] at hagent
    cases s with
    | opening o rest =>
      obtain ⟨-, htold, ho, hopen⟩ := hagent
      exact .inl ⟨htold, .inl ⟨rfl, (hs.down_eq ho hopen hl hx hkind).2.2⟩⟩
    | refusing status =>
      obtain ⟨htold, hall | ⟨rfl, -⟩⟩ := hagent
      · exact absurd hall hsettled
      · exact .inl ⟨htold, .inr rfl⟩
    | closed => exact .inr (hover hagent)
    | confirming o rest =>
      exact absurd (relaying_of_connected hagent.2.2).settled hsettled
    | relaying r => exact absurd (Relaying.settled hagent) hsettled
    | greeting buffer | choosing buffer | command buffer =>
      exact absurd hagent.2.2 hsettled
    | binding | granting a bound | associated a => exact absurd hagent.2 hsettled
  | http s =>
    rw [hstate] at hagent
    cases s with
    | opening o q inbound =>
      obtain ⟨-, -, htold, ho, hopen⟩ := hagent
      exact .inl ⟨htold, .inl ⟨rfl, (hs.down_eq ho hopen hl hx hkind).2.2⟩⟩
    | rejecting a =>
      obtain ⟨htold, hall | ⟨rfl, -⟩⟩ := hagent
      · exact absurd hall hsettled
      · exact .inl ⟨htold, .inr rfl⟩
    | closed => exact .inr (hover hagent)
    | establishing o inbound =>
      exact absurd (relaying_of_connected hagent.2.2).settled hsettled
    | relaying r => exact absurd hagent.2.settled hsettled
    | first inbound => exact absurd hagent.2.2 hsettled
    | naming target q inbound => exact absurd hagent.2.2.2 hsettled

/-- What is known leaves no room for any other answer. -/
theorem Sound.agrees (hs : n.Sound w) : n.Agrees w where
  answers l hl := (hs.lines l hl).tells.settles
  success := hs.truthful
  failure l hl x hx hkind := hs.reported hl hx hkind
  report := by
    intro l hl x hx hkind htold
    rcases hs.reported hl hx hkind with ⟨-, ⟨hopening, -⟩ | hreporting⟩ | ⟨b, hb, -⟩
    · obtain ⟨m, hread, hm, hreporting, hsame⟩ := hs.exists_isReporting hopening hl hx hkind
      obtain ⟨k, hwrite, hk⟩ := exists_told_of_isReporting (w := w) hreporting (hm.trans htold)
      exact ⟨k, .step (.step .refl hread) hwrite, by rw [hk, hsame]⟩
    · obtain ⟨m, hwrite, hm⟩ := exists_told_of_isReporting (w := w) hreporting htold
      exact ⟨m, .step .refl hwrite, hm⟩
    · rw [hb] at htold
      cases htold

/-! ## Runs -/

/-- One event anywhere, by name. -/
inductive Event where
  | agent (e : AgentSession.Event)
  /-- An event of the proxy at the other end of the tunnel at this place. -/
  | proxy (place : Nat) (e : ProxySession.Event)

/-- What a sequence of events leads to where no other sessions are; nothing when one of them is not
possible. -/
def run (w : Setting) (n : Network) : List Event → Option Network
  | [] => some n
  | .agent e :: es => (n.agentMoves w (.fresh "tunnel" ⟨.empty, .empty⟩) e).bind (run w · es)
  | .proxy place e :: es =>
    match n.lines.drop place with
    | [] => none
    | l :: after =>
      (l.moves w.proxy e).bind fun k =>
        run w { n with lines := n.lines.take place ++ k :: after } es

theorem reaches_of_run {es : List Event} (hn : Reaches w m n) {k : Network}
    (hrun : run w n es = some k) : Reaches w m k := by
  induction es generalizing n with
  | nil =>
    cases hrun
    exact hn
  | cons e es ih =>
    cases e with
    | agent e =>
      obtain ⟨n', hmove, hrest⟩ := Option.bind_eq_some_iff.mp hrun
      exact ih (hn.step (.agent e "tunnel" ⟨.empty, .empty⟩ rfl hmove)) hrest
    | proxy place e =>
      rw [run] at hrun
      split at hrun
      · cases hrun
      · rename_i l after hdrop
        obtain ⟨k', hmove, hrest⟩ := Option.bind_eq_some_iff.mp hrun
        have hlines : n.lines = n.lines.take place ++ l :: after := by
          rw [← hdrop, List.take_append_drop]
        exact ih (hn.step (.line hlines (.event e hmove))) hrest

/-- A client, an agent and its proxies on one machine. -/
def loopback : Setting := ⟨System.loopback.agent, System.loopback.link, System.loopback.proxy⟩

/-- A client commands to connect to a target, and the proxy is asked for it. -/
def asking : List Event :=
  [.agent (.first (some 5)), .agent (.socks (.read [5, 1, 0])), .agent (.socks (.wrote true)),
   .agent (.socks (.read [5, 1, 0, 1, 127, 0, 0, 1, 0, 80])),
   .agent (.socks (.opening (.tried true))), .agent (.socks (.opening (.sent "a" .done))),
   .proxy 0 (.received (.body (Body.connect "a" "user" "127.0.0.1" 80 true)))]

/-- The connector finds the target. -/
def finding : List Event :=
  [.proxy 0 (.connected [] (some ⟨.v4 ⟨127, 0, 0, 1⟩, 80⟩)), .proxy 0 (.relay (.sent "b" .done)),
   .agent (.socks (.opening
     (.received (.body (Body.connectSuccess "b" "user" "127.0.0.1" 80))))),
   .agent (.socks (.wrote true))]

/-- The connector does not find the target, however often it is tried. -/
def missing : List Event :=
  let failure : StreamError := ⟨.connectionRefused, "refused"⟩
  [.proxy 0 (.connected [some failure, some failure, some failure] none),
   .proxy 0 (.sent "b" .done),
   .agent (.socks (.opening (.received (.body (Body.connectFail "b" "user" "127.0.0.1" 80))))),
   .agent (.socks (.wrote true))]

/-- The connector finds the target, which is gone again before its address is asked for; then the
agent finds that the tunnel has ended. -/
def losing : List Event :=
  [.proxy 0 (.connected [] none), .agent (.socks (.opening (.received .ended))),
   .agent (.socks (.wrote true))]

/-! ## The theorem -/

/-- **What proxies answer is what they were asked, and what clients are told is what proxies
answer.** For every sequence of events of a proxy's session and every script of the connector: what
it says on its tunnel is what the first message and the connector ask for, just if the target is not
lost; if it is, the tunnel is let go without a word. For every sequence of events of an agent's
session, of the proxies of its tunnels and of all others: a client is given a success only for the
target that it asked for and that is connected, and where a proxy has reported a failure it is given
the failure. -/
theorem reaches_agrees (w : Setting) :
    (∀ (id : String) (rs rs' : ProxyRegistries) (es : List ProxySession.Event) (s : ProxySession)
      (effects : List ProxyEffect), rs.streams.get? id = none →
      ProxySession.run w.proxy id rs .waiting es = some (rs', s, effects) →
        ProxySession.Settles w.proxy.retry.connectRetryLimit es s effects) ∧
      ∀ (registries : AgentRegistries) (n : Network), Reaches w (start registries) n →
        n.Agrees w :=
  ⟨fun _ _ _ _ _ _ hfree hrun => ProxySession.run_settles hfree hrun,
    fun _ _ hreaches => (sound_of_reaches hreaches).agrees⟩

theorem loopback_agrees :
    (∃ rs s effects, ProxySession.run loopback.proxy "tunnel" ⟨.empty, .empty⟩ .waiting
        [.received (.body (Body.tcpData "a" "user" "127.0.0.1" 80 [71]))] =
          some (rs, s, effects) ∧
      effects = [.closeTunnel] ∧
      ProxySession.Answers loopback.proxy.retry.connectRetryLimit
        [.received (.body (Body.tcpData "a" "user" "127.0.0.1" 80 [71]))] s effects) ∧
      (∃ n, Reaches loopback (start ⟨.empty, .empty⟩) n ∧
        n.told = [⟨some ⟨"127.0.0.1", 80⟩, [5, 0, 0, 1, 127, 0, 0, 1, 0, 10]⟩] ∧
        n.Agrees loopback) ∧
      (∃ n, Reaches loopback (start ⟨.empty, .empty⟩) n ∧
        n.told = [⟨none, [5, 1, 0, 1, 0, 0, 0, 0, 0, 0]⟩] ∧
        n.lines.map (fun l => ProxyEffect.messages l.done) =
          [[Body.connectFail "b" "user" "127.0.0.1" 80]] ∧ n.Agrees loopback) ∧
      ∃ n, Reaches loopback (start ⟨.empty, .empty⟩) n ∧
        n.told = [⟨none, [5, 1, 0, 1, 0, 0, 0, 0, 0, 0]⟩] ∧
        n.lines.map (fun l => ProxyEffect.messages l.done) = [[]] ∧ n.Agrees loopback := by
  obtain ⟨hproxy, hnetwork⟩ := reaches_agrees loopback
  have hdata : ProxySession.run loopback.proxy "tunnel" ⟨.empty, .empty⟩ .waiting
      [.received (.body (Body.tcpData "a" "user" "127.0.0.1" 80 [71]))] =
        some (⟨.empty, .empty⟩, .closed (some (.unexpectedMessage "tunnel" .tcpData)),
          [.closeTunnel]) := rfl
  have hfound : (run loopback (start ⟨.empty, .empty⟩) (asking ++ finding)).map Network.told =
      some [⟨some ⟨"127.0.0.1", 80⟩, [5, 0, 0, 1, 127, 0, 0, 1, 0, 10]⟩] := by
    decide +kernel
  have hmissed : (run loopback (start ⟨.empty, .empty⟩) (asking ++ missing)).map
      (fun n => (n.told, n.lines.map fun l => ProxyEffect.messages l.done)) =
        some ([⟨none, [5, 1, 0, 1, 0, 0, 0, 0, 0, 0]⟩],
          [[Body.connectFail "b" "user" "127.0.0.1" 80]]) := by
    decide +kernel
  have hlost : (run loopback (start ⟨.empty, .empty⟩) (asking ++ losing)).map
      (fun n => (n.told, n.lines.map fun l => ProxyEffect.messages l.done)) =
        some ([⟨none, [5, 1, 0, 1, 0, 0, 0, 0, 0, 0]⟩], [[]]) := by
    decide +kernel
  refine ⟨⟨_, _, _, hdata, rfl, (hproxy _ _ _ _ _ _ rfl hdata).answers_iff.mpr ?_⟩, ?_, ?_, ?_⟩
  · rintro ⟨m, script, address, hes, -⟩
    cases hes
  · obtain ⟨n, hrun, htold⟩ := Option.map_eq_some_iff.mp hfound
    have hn := reaches_of_run .refl hrun
    exact ⟨n, hn, htold, hnetwork _ n hn⟩
  · obtain ⟨n, hrun, heq⟩ := Option.map_eq_some_iff.mp hmissed
    obtain ⟨htold, hdone⟩ := Prod.mk.inj heq
    have hn := reaches_of_run .refl hrun
    exact ⟨n, hn, htold, hdone, hnetwork _ n hn⟩
  · obtain ⟨n, hrun, heq⟩ := Option.map_eq_some_iff.mp hlost
    obtain ⟨htold, hdone⟩ := Prod.mk.inj heq
    have hn := reaches_of_run .refl hrun
    exact ⟨n, hn, htold, hdone, hnetwork _ n hn⟩

/-- **A lost target is not answered for**: the first attempt to connect succeeds, the target resets
the connection before its address is asked for, and neither a success nor a failure is said before
the tunnel is let go. -/
theorem lost_target_unanswered :
    ∃ m effects, ProxySession.run loopback.proxy "tunnel" ⟨.empty, .empty⟩ .waiting
        [.received (.body m), .connected [] none] =
          some (⟨.empty, .empty⟩, .closed none, effects) ∧
      m.kind = .connectWithKeepAlive ∧
      ProxySession.Connects loopback.proxy.retry.connectRetryLimit [] ∧
      ProxyEffect.messages effects = [] ∧
      ¬ProxySession.Answers loopback.proxy.retry.connectRetryLimit
        [.received (.body m), .connected [] none] (.closed none) effects := by
  have hconnects : ProxySession.Connects loopback.proxy.retry.connectRetryLimit [] :=
    ⟨0, Nat.zero_le _, rfl⟩
  refine ⟨Body.connect "a" "user" "127.0.0.1" 80 true, _, rfl, rfl, hconnects, rfl, ?_⟩
  intro hanswers
  obtain ⟨-, ⟨-, -, r, hr, -⟩ | ⟨id, outcome, rest, more, hrest, -⟩⟩ :=
    hanswers.reachable _ [] none [] rfl hconnects
  · cases hr
  · cases hrest

end Network

end TunnelRelay
