import TunnelRelay.Proofs.Proxy.Passage

/-!
# What a proxy answers

The first message of a tunnel and the answers of the target's connector decide what a proxy says on
it. `Answers` states this of a run from its events alone: a target that is reached is confirmed once
and before anything else, and one that is not is reported once, as the last thing that is said.
`Tells` says state by state what has happened and what was said, which each event keeps.

A proxy keeps this promise just where it does not lose the target. Of one that it loses it says
nothing, and lets the tunnel go (`run_settles`).
-/

namespace TunnelRelay

/-- Whether a message asks for a connection to a target. -/
def AgentKind.isConnect : AgentKind → Bool
  | connectWithKeepAlive | connectWithoutKeepAlive => true
  | tcpData | udpData => false

/-- Whether a message may follow the confirmation of a target. -/
def ProxyKind.isRelayed : ProxyKind → Bool
  | okTcp | heartbeat => true
  | okUdp | connectFail | connectSuccess => false

/-! ## The messages of one step -/

/-- The leg to the target says nothing. -/
theorem ToTarget.messages_of_step {limit : UInt32} {leg leg' : ToTarget} {e : ToTarget.Event}
    {es : List ProxyEffect} (h : step limit leg e = some (leg', es)) :
    ProxyEffect.messages es = [] := by
  have hp : Passes leg.undelivered (leg.undelivered.getD []) [] := by
    cases leg.undelivered with
    | none => exact List.prefix_rfl
    | some held => rfl
  exact (step_passes h hp).2

/-- The leg from the target says what the target says. -/
theorem FromTarget.isRelayed_of_step {size : Nat} {user : String} {target : Target}
    {leg leg' : FromTarget} {e : FromTarget.Event} {es : List ProxyEffect}
    (h : step size user target leg e = some (leg', es)) :
    ∀ m ∈ ProxyEffect.messages es, m.kind.isRelayed := by
  intro m hm
  unfold step at h
  split at h
  · cases h
    cases hm
  · cases h
    cases hm
  · split at h
    · cases h
      cases hm
    · cases h
  · rename_i data id outcome
    simp only [Option.some.injEq, Prod.mk.injEq] at h
    obtain ⟨-, rfl⟩ := h
    rw [ProxyEffect.messages_map_message] at hm
    rw [outcome.eq_of_mem_entered hm]
    rfl
  · cases h

/-- A supervisor says that the tunnel is alive. -/
theorem Heartbeat.isRelayed_of_step {user : String} {limit : UInt32} {heart heart' : Heartbeat}
    {e : Heartbeat.Event} {effects : List Heartbeat.Effect}
    (h : step user limit heart e = some (heart', effects)) :
    ∀ m ∈ ProxyEffect.messages (effects.flatMap ProxyRelay.outer), m.kind.isRelayed := by
  intro m hm
  unfold step at h
  split at h
  case h_6 =>
    rename_i n id now outcome
    simp only [Option.some.injEq, Prod.mk.injEq] at h
    obtain ⟨-, rfl⟩ := h
    rw [List.flatMap_append, afterSending_quiet, List.append_nil] at hm
    rcases outcome.entered_eq (Body.heartbeat id user now) with hin | hin
    · rw [hin] at hm
      rw [List.mem_singleton.mp hm]
      rfl
    · rw [hin] at hm
      cases hm
  all_goals
    cases h
    try cases hm

/-- A relay of datagrams says what the targets say. -/
theorem DatagramRelay.kind_of_step {all all' : ProxyDatagrams} {r r' : DatagramRelay}
    {e : DatagramRelay.Event} {es : List ProxyEffect}
    (h : r.step all e = some (all', r', es)) :
    ∀ m ∈ ProxyEffect.messages es, m.kind = .okUdp := by
  intro m hm
  have hpassOn (n : Body AgentKind) (dest : Option Endpoint)
      (hmap : (r.passOn n dest).map (fun p => (all, p.1, p.2)) =
        some (all', r', es)) : m.kind = .okUdp := by
    obtain ⟨⟨r'', es'⟩, hsome, heq⟩ := Option.map_eq_some_iff.mp hmap
    cases heq
    rw [(passOn_quiet hsome).2] at hm
    cases hm
  unfold step at h
  split at h
  · cases h
  cases e with
  | passed dest =>
    simp only at h
    split at h
    · exact hpassOn _ dest h
    · exact hpassOn _ dest h
    · cases h
  | sent id outcome =>
    simp only at h
    split at h
    · split at h
      all_goals
        cases h
        rw [ProxyEffect.messages_map_message] at hm
        rw [outcome.eq_of_mem_entered hm]
        rfl
    · cases h
  | _ =>
    simp only at h
    split at h <;> cases h
    cases hm

/-- What a relay says once it runs. -/
theorem ProxyRelay.isRelayed_of_step {c : ProxyContext} {streams streams' : ProxyStreams}
    {r r' : ProxyRelay} {e : ProxyRelay.Event} {es : List ProxyEffect}
    (h : r.step c streams e = some (streams', r', es)) (hphase : r.phase ≠ .confirming) :
    (r'.phase ≠ .confirming ∧ r.phase ≠ .closed ∧ r'.target = r.target ∧ r'.user = r.user) ∧
      ∀ m ∈ ProxyEffect.messages es, m.kind.isRelayed := by
  obtain ⟨id, target, user, lifecycle, phase⟩ := r
  unfold step at h
  split at h
  · cases h
  simp only at h
  split at h
  · exact absurd rfl hphase
  · obtain ⟨⟨up', es'⟩, hstep, heq⟩ := Option.bind_eq_some_iff.mp h
    cases heq
    refine ⟨⟨nofun, nofun, rfl, rfl⟩, ?_⟩
    rw [ToTarget.messages_of_step hstep]
    nofun
  · obtain ⟨⟨down', es'⟩, hstep, heq⟩ := Option.bind_eq_some_iff.mp h
    cases heq
    exact ⟨⟨nofun, nofun, rfl, rfl⟩, FromTarget.isRelayed_of_step hstep⟩
  · obtain ⟨⟨heart', es'⟩, hstep, heq⟩ := Option.bind_eq_some_iff.mp h
    cases heq
    exact ⟨⟨nofun, nofun, rfl, rfl⟩, Heartbeat.isRelayed_of_step hstep⟩
  · cases h
    exact ⟨⟨nofun, nofun, rfl, rfl⟩, nofun⟩
  · cases h

/-- The first that a relay says is that its target is connected. -/
theorem ProxyRelay.confirmed_of_step {c : ProxyContext} {streams streams' : ProxyStreams}
    {r r' : ProxyRelay} {e : ProxyRelay.Event} {es : List ProxyEffect}
    (h : r.step c streams e = some (streams', r', es)) (hphase : r.phase = .confirming) :
    ∃ id outcome, e = .sent id outcome ∧
      ProxyEffect.messages es =
        outcome.entered (Body.connectSuccess id r.user r.target.host r.target.port) ∧
      r'.phase ≠ .confirming ∧ (outcome.error? ≠ none → r'.phase = .closed) ∧
      r'.target = r.target ∧ r'.user = r.user := by
  obtain ⟨id, target, user, lifecycle, phase⟩ := r
  obtain rfl : phase = .confirming := hphase
  unfold step at h
  split at h
  · cases h
  cases e with
  | sent id' outcome =>
    refine ⟨id', outcome, rfl, ?_⟩
    simp only at h
    split at h
    · rename_i hnone
      cases h
      exact ⟨ProxyEffect.messages_map_message _, nofun, fun he => absurd hnone he, rfl, rfl⟩
    · cases h
      refine ⟨?_, nofun, fun _ => rfl, rfl, rfl⟩
      rw [leave, ProxyEffect.messages_append, ProxyEffect.messages_map_message,
        ProxyEffect.messages_cons_closeTunnel, ProxyEffect.messages_nil, List.append_nil]
  | _ => cases h

/-! ## A session -/

namespace ProxySession

/-- What a session has to answer, given what has happened to it and where it stands. -/
structure Answers (limit : UInt32) (es : List Event) (s : ProxySession)
    (effects : List ProxyEffect) : Prop where
  /-- Nothing, unless the first message reads and is no data of a stream. -/
  silent : (∀ m, es.head? = some (.received (.body m)) → m.kind = .tcpData) →
    ProxyEffect.messages effects = []
  /-- Nothing before something has happened behind the first message. -/
  undecided : es.tail = [] → ProxyEffect.messages effects = []
  /-- A connect message is followed by what the attempts to connect come to. -/
  attempts : ∀ m rest, es = .received (.body m) :: rest → m.kind.isConnect →
    rest = [] ∨ ∃ script address rest', rest = .connected script address :: rest'
  /-- Datagrams, if the first message is one. -/
  datagrams : ∀ m rest, es = .received (.body m) :: rest → m.kind = .udpData →
    ∀ x ∈ ProxyEffect.messages effects, x.kind = .okUdp
  /-- That the target cannot be reached, if it is a connect message and every attempt fails. This is
  said once, and then the tunnel is closed. -/
  unreachable : ∀ m script address rest,
    es = .received (.body m) :: .connected script address :: rest → ¬Connects limit script →
      (rest = [] ∧ ProxyEffect.messages effects = [] ∧ ∃ l cause, s = refusing m l cause) ∨
      ∃ id outcome cause, rest = [.sent id outcome] ∧ s = closed cause ∧
        ProxyEffect.messages effects =
          outcome.entered (Body.connectFail id m.user m.host m.port) ∧
        effects.getLast? = some .closeTunnel
  /-- That the target is connected, if an attempt succeeds. This is said first, and if it cannot be
  said then nothing is. -/
  reachable : ∀ m script address rest,
    es = .received (.body m) :: .connected script address :: rest → Connects limit script →
      .attempt ⟨m.host, m.port⟩ (m.kind = .connectWithKeepAlive) ∈ effects ∧
      ((rest = [] ∧ ProxyEffect.messages effects = [] ∧
          ∃ r, s = relaying r ∧ r.phase = .confirming) ∨
        ∃ id outcome rest' more, rest = .relay (.sent id outcome) :: rest' ∧
          ProxyEffect.messages effects =
            outcome.entered (Body.connectSuccess id m.user m.host m.port) ++ more ∧
          (∀ x ∈ more, x.kind.isRelayed) ∧ (outcome.error? ≠ none → more = []))

/-- The target of the first message has been lost. -/
def Loses (limit : UInt32) (es : List Event) : Prop :=
  ∃ m script address, es = [.received (.body m), .connected script address] ∧
    IsLost limit script address

/-- What has happened and has been said when a relay stands at a phase, after the connect message
`m`: nothing yet, or the target has been confirmed and relayed messages may have followed. -/
def Confirms (m : Body AgentKind) (rest : List Event) (ms : List (Body ProxyKind))
    (p : ProxyRelay.Phase) : Prop :=
  (p = .confirming ∧ rest = [] ∧ ms = []) ∨
    p ≠ .confirming ∧ ∃ id outcome rest' more, rest = .relay (.sent id outcome) :: rest' ∧
      ms = outcome.entered (Body.connectSuccess id m.user m.host m.port) ++ more ∧
      (∀ x ∈ more, x.kind.isRelayed) ∧ (outcome.error? ≠ none → more = [] ∧ p = .closed)

/-- What has happened to a session and what it has done, by where it stands. -/
def Tells (limit : UInt32) (es : List Event) (effects : List ProxyEffect) : ProxySession → Prop
  | waiting => es = [] ∧ ProxyEffect.messages effects = []
  | connecting m l => es = [.received (.body m)] ∧ m.kind.isConnect ∧ l.state = .connecting ∧
      ProxyEffect.messages effects = []
  | refusing m _ _ => ∃ script address, es = [.received (.body m), .connected script address] ∧
      m.kind.isConnect ∧ ¬Connects limit script ∧ ¬IsLost limit script address ∧
      ProxyEffect.messages effects = []
  | relaying r => ∃ m script address rest,
      es = .received (.body m) :: .connected script address :: rest ∧ m.kind.isConnect ∧
      Connects limit script ∧ ¬IsLost limit script address ∧ r.target = ⟨m.host, m.port⟩ ∧
      r.user = m.user ∧
      .attempt ⟨m.host, m.port⟩ (m.kind = .connectWithKeepAlive) ∈ effects ∧
      Confirms m rest (ProxyEffect.messages effects) r.phase
  | binding m => es = [.received (.body m)] ∧ m.kind = .udpData ∧
      ProxyEffect.messages effects = []
  | passing _ => ∃ m own rest, es = .received (.body m) :: .bound own :: rest ∧
      m.kind = .udpData ∧ ∀ x ∈ ProxyEffect.messages effects, x.kind = .okUdp
  | closed cause =>
    (es.tail = [] ∧ ProxyEffect.messages effects = []) ∨
    (∃ m own, es = [.received (.body m), .bound own] ∧ m.kind = .udpData ∧
      ProxyEffect.messages effects = []) ∨
    (∃ m script address, es = [.received (.body m), .connected script address] ∧
      m.kind.isConnect ∧ IsLost limit script address ∧ cause = none ∧
      ProxyEffect.messages effects = [] ∧ effects.getLast? = some .closeTunnel) ∨
    ∃ m script address id outcome,
      es = [.received (.body m), .connected script address, .sent id outcome] ∧
      m.kind.isConnect ∧ ¬Connects limit script ∧ ¬IsLost limit script address ∧
      ProxyEffect.messages effects = outcome.entered (Body.connectFail id m.user m.host m.port) ∧
      effects.getLast? = some .closeTunnel

variable {limit : UInt32} {es : List Event} {effects : List ProxyEffect} {s s' : ProxySession}

/-- A session to which one thing has happened at most, and which has said nothing. -/
theorem answers_of_tail (hes : es.tail = []) (h : ProxyEffect.messages effects = []) :
    Answers limit es s effects where
  silent _ := h
  undecided _ := h
  attempts := by
    rintro m rest rfl -
    exact .inl hes
  datagrams := by
    rintro m rest rfl hkind x hx
    rw [h] at hx
    cases hx
  unreachable := by
    rintro m script address rest rfl
    cases hes
  reachable := by
    rintro m script address rest rfl
    cases hes

/-- A session of datagrams. -/
theorem answers_of_bound {m : Body AgentKind} {own : Option Endpoint} {rest : List Event}
    (hes : es = .received (.body m) :: .bound own :: rest) (hkind : m.kind = .udpData)
    (h : ∀ x ∈ ProxyEffect.messages effects, x.kind = .okUdp) : Answers limit es s effects where
  silent hsilent := by
    rw [hes] at hsilent
    have hdata := hsilent m rfl
    rw [hkind] at hdata
    cases hdata
  undecided htail := by
    rw [hes] at htail
    cases htail
  attempts := by
    intro m' rest' h' hconnect
    rw [hes] at h'
    cases h'
    rw [hkind] at hconnect
    cases hconnect
  datagrams _ _ _ _ := h
  unreachable := by
    rintro m' script address rest' h'
    rw [hes] at h'
    cases h'
  reachable := by
    rintro m' script address rest' h'
    rw [hes] at h'
    cases h'

/-- A session of a stream. -/
theorem answers_of_connected {m : Body AgentKind} {script : List (Option StreamError)}
    {address : Option Endpoint} {rest : List Event}
    (hes : es = .received (.body m) :: .connected script address :: rest)
    (hkind : m.kind.isConnect)
    (hunreachable : ¬Connects limit script →
      (rest = [] ∧ ProxyEffect.messages effects = [] ∧ ∃ l cause, s = refusing m l cause) ∨
      ∃ id outcome cause, rest = [.sent id outcome] ∧ s = closed cause ∧
        ProxyEffect.messages effects =
          outcome.entered (Body.connectFail id m.user m.host m.port) ∧
        effects.getLast? = some .closeTunnel)
    (hreachable : Connects limit script →
      .attempt ⟨m.host, m.port⟩ (m.kind = .connectWithKeepAlive) ∈ effects ∧
      ((rest = [] ∧ ProxyEffect.messages effects = [] ∧
          ∃ r, s = relaying r ∧ r.phase = .confirming) ∨
        ∃ id outcome rest' more, rest = .relay (.sent id outcome) :: rest' ∧
          ProxyEffect.messages effects =
            outcome.entered (Body.connectSuccess id m.user m.host m.port) ++ more ∧
          (∀ x ∈ more, x.kind.isRelayed) ∧ (outcome.error? ≠ none → more = []))) :
    Answers limit es s effects where
  silent hsilent := by
    rw [hes] at hsilent
    have hdata := hsilent m rfl
    rw [hdata] at hkind
    cases hkind
  undecided htail := by
    rw [hes] at htail
    cases htail
  attempts := by
    intro m' rest' h' _
    rw [hes] at h'
    cases h'
    exact .inr ⟨script, address, rest, rfl⟩
  datagrams := by
    intro m' rest' h' hdata
    rw [hes] at h'
    cases h'
    rw [hdata] at hkind
    cases hkind
  unreachable := by
    intro m' script' address' rest' h'
    rw [hes] at h'
    cases h'
    exact hunreachable
  reachable := by
    intro m' script' address' rest' h'
    rw [hes] at h'
    cases h'
    exact hreachable

/-- What a session does that has lost its target: it says nothing and lets the tunnel go. -/
def LetsGo (s : ProxySession) (effects : List ProxyEffect) : Prop :=
  s = closed none ∧ ProxyEffect.messages effects = [] ∧ effects.getLast? = some .closeTunnel

/-- A session that loses its target lets the tunnel go. -/
theorem Tells.letsGo (h : Tells limit es effects s) (hloses : Loses limit es) :
    LetsGo s effects := by
  obtain ⟨m, script, address, rfl, hlost⟩ := hloses
  cases s with
  | waiting | connecting | binding => cases h.1
  | refusing =>
    obtain ⟨script', address', hes, -, -, hkept, -⟩ := h
    cases hes
    exact absurd hlost hkept
  | relaying =>
    obtain ⟨m', script', address', rest, hes, -, -, hkept, -⟩ := h
    cases hes
    exact absurd hlost hkept
  | passing =>
    obtain ⟨m', own, rest, hes, -⟩ := h
    cases hes
  | closed cause =>
    rcases h with ⟨htail, -⟩ | ⟨m', own, hes, -⟩ |
      ⟨m', script', address', -, -, -, rfl, hquiet, hlast⟩ | ⟨m', script', address', _, _, hes, -⟩
    · cases htail
    · cases hes
    · exact ⟨rfl, hquiet, hlast⟩
    · cases hes

/-- A session that has let the tunnel go owes the agent an answer. -/
theorem Loses.not_answers (h : Loses limit es) (hgo : LetsGo s effects) :
    ¬Answers limit es s effects := by
  obtain ⟨m, script, address, rfl, hlost⟩ := h
  obtain ⟨rfl, -, -⟩ := hgo
  intro hanswers
  by_cases hconnects : Connects limit script
  · obtain ⟨-, ⟨-, -, r, hr, -⟩ | ⟨id, outcome, rest, more, hrest, -⟩⟩ :=
      hanswers.reachable m script address [] rfl hconnects
    · cases hr
    · cases hrest
  · obtain ⟨-, -, l, cause, hr⟩ | ⟨id, outcome, cause, hrest, -⟩ :=
      hanswers.unreachable m script address [] rfl hconnects
    · cases hr
    · cases hrest

/-- **A session answers as its events ask**, wherever it stands, unless it has lost its target. -/
theorem Tells.answers (h : Tells limit es effects s) (hkept : ¬Loses limit es) :
    Answers limit es s effects := by
  cases s with
  | waiting =>
    obtain ⟨rfl, hquiet⟩ := h
    exact answers_of_tail rfl hquiet
  | connecting m l =>
    obtain ⟨rfl, -, -, hquiet⟩ := h
    exact answers_of_tail rfl hquiet
  | refusing m l cause =>
    obtain ⟨script, address, hes, hkind, hfails, -, hquiet⟩ := h
    exact answers_of_connected hes hkind (fun _ => .inl ⟨rfl, hquiet, l, cause, rfl⟩)
      (fun hconnects => absurd hconnects hfails)
  | relaying r =>
    obtain ⟨m, script, address, rest, hes, hkind, hconnects, -, -, -, htried, hconfirms⟩ := h
    refine answers_of_connected hes hkind (fun hfails => absurd hconnects hfails)
      (fun _ => ⟨htried, ?_⟩)
    rcases hconfirms with ⟨hphase, hrest, hquiet⟩ |
      ⟨-, id, outcome, rest', more, hrest, hmessages, hmore, hfailed⟩
    · exact .inl ⟨hrest, hquiet, r, rfl, hphase⟩
    · exact .inr ⟨id, outcome, rest', more, hrest, hmessages, hmore, fun h => (hfailed h).1⟩
  | binding m =>
    obtain ⟨rfl, -, hquiet⟩ := h
    exact answers_of_tail rfl hquiet
  | passing r =>
    obtain ⟨m, own, rest, hes, hkind, hall⟩ := h
    exact answers_of_bound hes hkind hall
  | closed cause =>
    rcases h with ⟨htail, hquiet⟩ | ⟨m, own, hes, hkind, hquiet⟩ |
      ⟨m, script, address, hes, -, hlost, -⟩ |
      ⟨m, script, address, id, outcome, hes, hkind, hfails, -, hmessages, hlast⟩
    · exact answers_of_tail htail hquiet
    · exact answers_of_bound hes hkind (by rw [hquiet]; nofun)
    · exact absurd ⟨m, script, address, hes, hlost⟩ hkept
    · exact answers_of_connected hes hkind
        (fun _ => .inr ⟨id, outcome, cause, rfl, rfl, hmessages, hlast⟩)
        (fun hconnects => absurd hconnects hfails)

/-- Whoever says that a target is connected has connected it. -/
theorem Tells.of_connectSuccess (h : Tells limit es effects s) {x : Body ProxyKind}
    (hx : x ∈ ProxyEffect.messages effects) (hkind : x.kind = .connectSuccess) :
    ∃ m script address rest, es = .received (.body m) :: .connected script address :: rest ∧
      Connects limit script ∧
      .attempt ⟨m.host, m.port⟩ (m.kind = .connectWithKeepAlive) ∈ effects := by
  have hquiet : ProxyEffect.messages effects ≠ [] := List.ne_nil_of_mem hx
  cases s with
  | waiting => exact absurd h.2 hquiet
  | connecting m l => exact absurd h.2.2.2 hquiet
  | refusing m l cause =>
    obtain ⟨script, address, -, -, -, -, hnone⟩ := h
    exact absurd hnone hquiet
  | relaying r =>
    obtain ⟨m, script, address, rest, hes, -, hconnects, -, -, -, htried, -⟩ := h
    exact ⟨m, script, address, rest, hes, hconnects, htried⟩
  | binding m => exact absurd h.2.2 hquiet
  | passing r =>
    obtain ⟨m, own, rest, -, -, hall⟩ := h
    rw [hall x hx] at hkind
    cases hkind
  | closed cause =>
    rcases h with ⟨-, hnone⟩ | ⟨m, own, -, -, hnone⟩ | ⟨m, script, address, -, -, -, -, hnone, -⟩ |
      ⟨m, script, address, id, outcome, -, -, -, -, hms, -⟩
    · exact absurd hnone hquiet
    · exact absurd hnone hquiet
    · exact absurd hnone hquiet
    · rw [hms] at hx
      rw [outcome.eq_of_mem_entered hx] at hkind
      cases hkind

/-- Whoever says that a target cannot be reached has tried it as often as the limit allows, and says
nothing else. -/
theorem Tells.of_connectFail (h : Tells limit es effects s) {x : Body ProxyKind}
    (hx : x ∈ ProxyEffect.messages effects) (hkind : x.kind = .connectFail) :
    ∃ m script address id outcome,
      es = [.received (.body m), .connected script address, .sent id outcome] ∧
      m.kind.isConnect ∧ ¬Connects limit script ∧ ProxyEffect.messages effects = [x] := by
  have hquiet : ProxyEffect.messages effects ≠ [] := List.ne_nil_of_mem hx
  cases s with
  | waiting => exact absurd h.2 hquiet
  | connecting m l => exact absurd h.2.2.2 hquiet
  | refusing m l cause =>
    obtain ⟨script, address, -, -, -, -, hnone⟩ := h
    exact absurd hnone hquiet
  | relaying r =>
    obtain ⟨m, script, address, rest, -, -, -, -, -, -, -, hconfirms⟩ := h
    rcases hconfirms with ⟨-, -, hnone⟩ | ⟨-, id, outcome, rest', more, -, hms, hmore, -⟩
    · exact absurd hnone hquiet
    · rw [hms] at hx
      rcases List.mem_append.mp hx with hx | hx
      · rw [outcome.eq_of_mem_entered hx] at hkind
        cases hkind
      · have hrelayed := hmore x hx
        rw [hkind] at hrelayed
        cases hrelayed
  | binding m => exact absurd h.2.2 hquiet
  | passing r =>
    obtain ⟨m, own, rest, -, -, hall⟩ := h
    rw [hall x hx] at hkind
    cases hkind
  | closed cause =>
    rcases h with ⟨-, hnone⟩ | ⟨m, own, -, -, hnone⟩ | ⟨m, script, address, -, -, -, -, hnone, -⟩ |
      ⟨m, script, address, id, outcome, hes, hconnect, hfails, -, hms, -⟩
    · exact absurd hnone hquiet
    · exact absurd hnone hquiet
    · exact absurd hnone hquiet
    · refine ⟨m, script, address, id, outcome, hes, hconnect, hfails, ?_⟩
      rw [hms] at hx ⊢
      rcases outcome.entered_eq (Body.connectFail id m.user m.host m.port) with hin | hin
      · rw [hin] at hx ⊢
        rw [List.mem_singleton.mp hx]
      · rw [hin] at hx
        cases hx

/-! ## One event -/

variable {c : ProxyContext} {id : String} {rs rs' : ProxyRegistries} {e : Event}
  {more : List ProxyEffect}

/-- As long as it is open whether a tunnel will relay a stream, no such session has its id. -/
def Unregistered (id : String) (rs : ProxyRegistries) : ProxySession → Prop
  | waiting | connecting _ _ => rs.streams.get? id = none
  | _ => True

/-- A relay that starts is to confirm its target. -/
theorem exists_start {streams : ProxyStreams} {m : Body AgentKind} {l : Lifecycle}
    (hfree : streams.get? id = none) (hl : l.state = .connecting) :
    ∃ streams' r, ProxyRelay.start streams id m l = some (streams', r) ∧
      r.target = ⟨m.host, m.port⟩ ∧ r.user = m.user ∧ r.phase = .confirming := by
  obtain ⟨streams', hcreate⟩ :=
    Registry.exists_create hfree ⟨⟨m.host, m.port⟩, m.user, m.kind = .connectWithKeepAlive⟩
  have htransit : l.transit .connecting .established = .ok { l with state := .established } := by
    rw [Lifecycle.transit, if_pos hl]
  refine ⟨streams', ⟨id, ⟨m.host, m.port⟩, m.user, { l with state := .established }, .confirming⟩,
    ?_, rfl, rfl, rfl⟩
  simp only [ProxyRelay.start, hcreate, htransit]

/-- The first message is told by what it leads to. -/
theorem Tells.of_first (id : String) (r : Received AgentKind) (h : Tells limit es effects waiting) :
    Tells limit [.received r] (effects ++ (first id r).2) (first id r).1 := by
  have hquiet : ProxyEffect.messages (effects ++ []) = [] := by
    rw [List.append_nil]
    exact h.2
  cases r with
  | ended => exact .inl ⟨rfl, hquiet⟩
  | failed e => exact .inl ⟨rfl, by simpa [first] using hquiet⟩
  | body m =>
    cases hkind : m.kind with
    | connectWithKeepAlive | connectWithoutKeepAlive =>
      simp only [first, hkind]
      exact ⟨rfl, by rw [hkind]; rfl, rfl, hquiet⟩
    | udpData =>
      simp only [first, hkind]
      exact ⟨rfl, hkind, hquiet⟩
    | tcpData =>
      simp only [first, hkind]
      exact .inl ⟨rfl, by simpa using hquiet⟩

/-- The attempts to connect are told by what they lead to. -/
theorem Tells.of_connected {m : Body AgentKind} {l : Lifecycle}
    (script : List (Option StreamError)) (address : Option Endpoint)
    (hfree : rs.streams.get? id = none)
    (h : Tells c.retry.connectRetryLimit es effects (connecting m l)) :
    Tells c.retry.connectRetryLimit (es ++ [.connected script address])
      (effects ++ (afterConnecting c id rs m l script address).2.2)
      (afterConnecting c id rs m l script address).2.1 := by
  obtain ⟨rfl, hkind, hl, hquiet⟩ := h
  have hspec := contact_spec c.retry.connectRetryLimit m script address
  obtain ⟨hsilent, -⟩ := contact_quiet c.retry.connectRetryLimit m script address
  obtain ⟨streams, r, hstart, htarget, huser, hphase⟩ := exists_start (m := m) hfree hl
  simp only [afterConnecting, hstart]
  split
  all_goals
    rename_i tries hcontact
    rw [hcontact] at hspec hsilent
    simp only at hspec hsilent
  · exact .inr (.inr (.inl ⟨m, script, address, rfl, hkind, hspec, rfl,
      by simp [hquiet, hsilent], by simp⟩))
  · exact ⟨script, address, rfl, hkind, hspec.1, hspec.2, by simp [hquiet, hsilent]⟩
  · obtain ⟨hconnects, hkept⟩ := hspec
    -- a target that is not lost has been tried
    have hroom : c.retry.connectRetryLimit.toNat + 1 < UInt32.size :=
      not_not.mp fun hroom => hkept (.inl hroom)
    have htried := mem_contact hroom m script address
    rw [hcontact] at htried
    exact ⟨m, script, address, [], rfl, hkind, hconnects, hkept, htarget, huser,
      List.mem_append_right _ htried, .inl ⟨hphase, rfl, by simp [hquiet, hsilent]⟩⟩

/-- What a relay says is told, be it the confirmation of its target or what follows it. -/
theorem Confirms.step {m : Body AgentKind} {rest : List Event} {ms : List (Body ProxyKind)}
    {streams streams' : ProxyStreams} {r r' : ProxyRelay} {e : ProxyRelay.Event}
    (h : r.step c streams e = some (streams', r', more)) (htarget : r.target = ⟨m.host, m.port⟩)
    (huser : r.user = m.user) (hc : Confirms m rest ms r.phase) :
    Confirms m (rest ++ [.relay e]) (ms ++ ProxyEffect.messages more) r'.phase ∧
      r'.target = r.target ∧ r'.user = r.user := by
  rcases hc with ⟨hphase, rfl, rfl⟩ | ⟨hphase, id, outcome, rest', ms', rfl, rfl, hms, hfailed⟩
  · obtain ⟨id, outcome, rfl, hmessages, hmoved, hleft, hsame⟩ :=
      ProxyRelay.confirmed_of_step h hphase
    rw [htarget, huser] at hmessages
    refine ⟨.inr ⟨hmoved, id, outcome, [], [], rfl, ?_, nofun, fun he => ⟨rfl, hleft he⟩⟩, hsame⟩
    rw [hmessages, List.nil_append, List.append_nil]
  · obtain ⟨⟨hphase', hopen, hsame⟩, hrelayed⟩ := ProxyRelay.isRelayed_of_step h hphase
    refine ⟨.inr ⟨hphase', id, outcome, rest' ++ [.relay e],
      ms' ++ ProxyEffect.messages more, rfl, by rw [List.append_assoc], ?_, ?_⟩, hsame⟩
    · intro x hx
      rcases List.mem_append.mp hx with hx | hx
      · exact hms x hx
      · exact hrelayed x hx
    · -- a relay that could not confirm its target is closed, and a closed one has no events
      intro he
      exact absurd (hfailed he).2 hopen

/-- **Each event is told by what it leads to.** -/
theorem Tells.step (hfree : s.Unregistered id rs) (h : step c id rs s e = some (rs', s', more))
    (ht : Tells c.retry.connectRetryLimit es effects s) :
    Tells c.retry.connectRetryLimit (es ++ [e]) (effects ++ more) s' ∧ s'.Unregistered id rs' := by
  cases s with
  | waiting =>
    cases e with
    | received r =>
      simp only [ProxySession.step, Option.some.injEq, Prod.mk.injEq] at h
      obtain ⟨rfl, rfl, rfl⟩ := h
      have hfirst := ht.of_first id r
      obtain ⟨rfl, -⟩ := ht
      refine ⟨hfirst, ?_⟩
      cases (ProxySession.first id r).1 with
      | waiting | connecting m l => exact hfree
      | _ => trivial
    | timedOut =>
      cases h
      obtain ⟨rfl, hquiet⟩ := ht
      exact ⟨.inl ⟨rfl, by simpa using hquiet⟩, trivial⟩
    | _ => cases h
  | connecting m l =>
    cases e with
    | connected script address =>
      simp only [ProxySession.step, Option.some.injEq] at h
      have hconnected := ht.of_connected script address hfree
      rw [h] at hconnected
      refine ⟨hconnected, ?_⟩
      cases s' with
      | waiting =>
        obtain ⟨rfl, -⟩ := ht
        cases hconnected.1
      | connecting m' l' =>
        obtain ⟨rfl, -⟩ := ht
        cases hconnected.1
      | _ => trivial
    | _ => cases h
  | refusing m l cause =>
    cases e with
    | sent messageId outcome =>
      cases h
      obtain ⟨script, address, rfl, hkind, hfails, hkept, hquiet⟩ := ht
      refine ⟨.inr (.inr (.inr ⟨m, script, address, messageId, outcome, rfl, hkind, hfails, hkept,
        ?_, ?_⟩)), trivial⟩
      · simp [hquiet]
      · simp
    | _ => cases h
  | relaying r =>
    cases e with
    | relay e =>
      obtain ⟨⟨streams, r', es'⟩, hstep, heq⟩ := Option.bind_eq_some_iff.mp h
      cases heq
      obtain ⟨m, script, address, rest, rfl, hkind, hconnects, hkept, htarget, huser, htried,
        hconfirms⟩ := ht
      obtain ⟨hconfirms', htarget', huser'⟩ := hconfirms.step hstep htarget huser
      refine ⟨⟨m, script, address, rest ++ [.relay e], rfl, hkind, hconnects, hkept,
        htarget'.trans htarget, huser'.trans huser, List.mem_append_left _ htried, ?_⟩, trivial⟩
      rw [ProxyEffect.messages_append]
      exact hconfirms'
    | _ => cases h
  | binding m =>
    obtain ⟨rfl, hkind, hquiet⟩ := ht
    cases e with
    | bound address =>
      cases address with
      | none =>
        cases h
        exact ⟨.inr (.inl ⟨m, none, rfl, hkind, by simpa using hquiet⟩), trivial⟩
      | some own =>
        simp only [ProxySession.step] at h
        split at h
        · cases h
          exact ⟨.inr (.inl ⟨m, own, rfl, hkind, by simpa using hquiet⟩), trivial⟩
        · cases h
          refine ⟨⟨m, own, [], rfl, hkind, ?_⟩, trivial⟩
          rw [List.append_nil, hquiet]
          exact List.forall_mem_nil _
    | _ => cases h
  | passing r =>
    cases e with
    | datagrams e =>
      obtain ⟨⟨datagrams, r', es'⟩, hstep, heq⟩ := Option.bind_eq_some_iff.mp h
      cases heq
      obtain ⟨m, own, rest, rfl, hkind, hall⟩ := ht
      refine ⟨⟨m, own, rest ++ [.datagrams e], rfl, hkind, ?_⟩, trivial⟩
      intro x hx
      rw [ProxyEffect.messages_append] at hx
      rcases List.mem_append.mp hx with hx | hx
      · exact hall x hx
      · exact DatagramRelay.kind_of_step hstep x hx
    | _ => cases h
  | closed cause => cases e <;> cases h

/-! ## Runs -/

/-- Each event of a run is told by what it leads to. -/
theorem Tells.run {more : List Event} {done : List ProxyEffect}
    (hfree : s.Unregistered id rs) (h : run c id rs s more = some (rs', s', done))
    (ht : Tells c.retry.connectRetryLimit es effects s) :
    Tells c.retry.connectRetryLimit (es ++ more) (effects ++ done) s' := by
  induction more generalizing rs s es effects done with
  | nil =>
    cases h
    rw [List.append_nil, List.append_nil]
    exact ht
  | cons e more ih =>
    obtain ⟨⟨rs₁, s₁, effects₁⟩, hstep, hrest⟩ := Option.bind_eq_some_iff.mp h
    obtain ⟨⟨rs₂, s₂, effects₂⟩, hrun, heq⟩ := Option.bind_eq_some_iff.mp hrest
    cases heq
    obtain ⟨ht₁, hfree₁⟩ := ht.step hfree hstep
    rw [← List.append_assoc, List.append_cons]
    exact ih hfree₁ hrun ht₁

/-- What a session has done, whether it has lost its target or not. -/
structure Settles (limit : UInt32) (es : List Event) (s : ProxySession)
    (effects : List ProxyEffect) : Prop where
  /-- It has answered as its events ask just if it has not lost its target. -/
  answers_iff : Answers limit es s effects ↔ ¬Loses limit es
  letsGo : Loses limit es → LetsGo s effects

theorem Tells.settles (h : Tells limit es effects s) : Settles limit es s effects where
  answers_iff := ⟨fun hanswers hloses => hloses.not_answers (h.letsGo hloses) hanswers, h.answers⟩
  letsGo := h.letsGo

/-- **A proxy answers on a tunnel as its events ask**, unless it loses the target. -/
theorem run_settles (hfree : rs.streams.get? id = none)
    (h : run c id rs waiting es = some (rs', s, effects)) :
    Settles c.retry.connectRetryLimit es s effects := by
  have hwaiting : Tells c.retry.connectRetryLimit [] [] waiting := ⟨rfl, rfl⟩
  have htells : Tells c.retry.connectRetryLimit es effects s :=
    hwaiting.run (s := waiting) hfree h
  exact htells.settles

end ProxySession

end TunnelRelay
