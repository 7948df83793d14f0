import TunnelRelay.Proofs.Agent.Offer
import TunnelRelay.Proofs.Network.Line

/-!
# What an opening knows of its tunnel

While a tunnel is opened, all others of its session are settled, and what is known of this one is
what the opening waits for: one that asks has written nothing to it, one that waits has written one
connect message and read nothing but heartbeats, and one that is open has its target connected.
`Stands` says so for each phase, and each event keeps it. Behind it stands what the states of all
sessions have in common.
-/

namespace TunnelRelay

open Network

variable {limit : UInt32} {lines ks : List Line} {id : String} {registries : ProxyRegistries}

/-! ## An opening -/

namespace Opening

/-- What the agent has read from the tunnel while it waits: heartbeats. -/
def HeardNothing (l : Line) : Prop :=
  ∃ heard, ProxyEffect.messages l.done = heard ++ l.down ∧ ∀ m ∈ heard, m.kind = .heartbeat

/-- The agent has asked for that target, and nothing has been answered yet. -/
def Asked (target : Target) (l : Line) : Prop :=
  (∃ id user keepAlive,
    l.sent = [Body.connect id user target.host target.port keepAlive]) ∧ HeardNothing l

/-- What the tunnels are while one is being opened to that target. -/
def Phase.Stands (limit : UInt32) (lines : List Line) (target : Target) : Phase → Prop
  | choosing _ => Settled limit lines
  | asking => Latest limit (fun l => l.sent = [] ∧ HeardNothing l) lines
  | waiting => Latest limit (Asked target) lines
  | opened => Latest limit (Line.Connected limit target) lines
  | failed e => HttpSession.response e = .badGateway ∧ Settled limit lines.tail

/-- What the tunnels are, as far as an opening has come. -/
def Stands (limit : UInt32) (lines : List Line) (o : Opening) : Prop :=
  o.phase.Stands limit lines o.target

variable {user : String} {o o' : Opening} {e : Event} {es : List AgentEffect}

theorem HeardNothing.goOn {l k : Line} (hg : l.GoesOn k) (h : HeardNothing l) :
    HeardNothing k := by
  obtain ⟨heard, hdown, hall⟩ := h
  exact ⟨heard, hg.down heard hdown, hall⟩

theorem Stands.tail (h : o.Stands limit lines) : Settled limit lines.tail := by
  rw [Stands] at h
  cases hphase : o.phase with
  | choosing left =>
    rw [hphase] at h
    exact Settled.tail h
  | asking | waiting | opened =>
    rw [hphase] at h
    exact Latest.tail h
  | failed cause =>
    rw [hphase] at h
    exact h.2

/-- What happens at the other ends leaves an opening where it stands. -/
theorem Stands.goOn (hall : List.Forall₂ Line.GoesOn lines ks) (h : o.Stands limit lines) :
    o.Stands limit ks := by
  have hgrows : List.Forall₂ Line.Grows lines ks := hall.imp fun _ _ hg => hg.toGrows
  rw [Stands] at h ⊢
  cases hphase : o.phase with
  | choosing left =>
    rw [hphase] at h
    exact Settled.grow hgrows h
  | asking =>
    rw [hphase] at h
    exact Latest.grow hall (fun _ _ hg => hg.toGrows)
      (fun _ _ hg hl => ⟨hg.sent.trans hl.1, hl.2.goOn hg⟩) h
  | waiting =>
    rw [hphase] at h
    refine Latest.grow hall (fun _ _ hg => hg.toGrows) (fun _ _ hg hl => ?_) h
    obtain ⟨⟨id, user, keepAlive, hsent⟩, hheard⟩ := hl
    exact ⟨⟨id, user, keepAlive, hg.sent.trans hsent⟩, hheard.goOn hg⟩
  | opened =>
    rw [hphase] at h
    exact Latest.grow hgrows (fun _ _ hg => hg) (fun _ _ hg hl => hl.grow hg) h
  | failed cause =>
    rw [hphase] at h
    exact ⟨h.1, h.2.tail_grow hgrows⟩

theorem stands_of_failed {cause : AgentError} (hphase : o.phase = .failed cause)
    (hcause : HttpSession.response cause = .badGateway) (h : Settled limit lines.tail) :
    o.Stands limit lines := by
  rw [Stands, hphase]
  exact ⟨hcause, h⟩

/-- A tunnel that is not tried yet is none. -/
theorem start_stands (id : String) (target : Target) (keepAlive : Bool)
    (proxies : List ProxyAddress) (h : Settled limit lines) :
    (start id target keepAlive proxies).Stands limit lines := by
  by_cases hnone : proxies = []
  · exact stands_of_failed (by rw [start, choose, if_pos hnone]) rfl h.tail
  · rw [Stands, start, choose, if_neg hnone]
    exact h

/-- The tunnel moves on, or it is given up. -/
theorem move_stands {expect after : RelayState} {phase : Phase}
    (h : ({ o with phase } : Opening).Stands limit lines) :
    (o.move expect after phase).Stands limit lines := by
  unfold move
  split
  · exact h
  · exact stands_of_failed rfl rfl h.tail

/-- A tunnel whose target cannot be reached is given up. -/
theorem step_of_connectFail (user : String) (hphase : o.phase = .waiting) {x : Body ProxyKind}
    (hkind : x.kind = .connectFail) :
    o.step user (.received (.body x)) =
      some (o.fail (.targetUnreachable o.target.host o.target.port), [.closeTunnel]) := by
  simp only [step, hphase, answer, hkind]

/-- What the proxy's answer means is what the proxy has done. -/
theorem answer_stands {r : Received ProxyKind} (hphase : o.phase = .waiting)
    (htake : takeLatest lines (some r) = some ks) (hsound : ∀ l ∈ lines, l.Sound limit)
    (ho : o.Stands limit lines) : (o.answer r).1.Stands limit ks := by
  have hlatest : Latest limit (Asked o.target) lines := by
    rw [Stands, hphase] at ho
    exact ho
  rcases eq_of_takeLatest htake with ⟨hr, -⟩ | ⟨l, k, rest, x, hr, rfl, rfl, hl⟩
  · cases hr
  cases hr
  obtain ⟨⟨⟨id, user, keepAlive, hsent⟩, heard, hheard, hall⟩, hrest⟩ := hlatest
  obtain ⟨hk, hdown⟩ := Line.eq_of_take hl
  have hgrows := Line.grows_of_take hl
  have hfails {e : AgentError} (he : HttpSession.response e = .badGateway) :
      (o.fail e).Stands limit (k :: rest) := stands_of_failed rfl he hrest
  cases r with
  | ended => exact hfails rfl
  | failed e => exact hfails rfl
  | body m =>
    have hdone : ProxyEffect.messages l.done = heard ++ m :: k.down := by
      rw [hheard, hdown]
      rfl
    cases hkind : m.kind with
    | heartbeat =>
      simp only [answer, hkind]
      rw [Stands, hphase]
      refine ⟨⟨⟨id, user, keepAlive, hgrows.sent.trans hsent⟩, heard ++ [m], ?_, ?_⟩, hrest⟩
      · rw [hk, hdone, List.append_assoc]
        rfl
      · intro x hx
        rcases List.mem_append.mp hx with hx | hx
        · exact hall x hx
        · rw [List.mem_singleton.mp hx]
          exact hkind
    | connectSuccess =>
      simp only [answer, hkind]
      refine move_stands ?_
      have hconnected := (hsound l List.mem_cons_self).connected_of_success hsent
        (by rw [hdone]; exact List.mem_append_right _ List.mem_cons_self) hkind
      exact ⟨hconnected.grow hgrows, hrest⟩
    | connectFail | okTcp | okUdp =>
      simp only [answer, hkind]
      exact hfails rfl

/-- An answer of the proxy has the agent write nothing. -/
theorem carry_answer (next : Line) (r : Received ProxyKind) :
    carry next (o.answer r).2 lines = lines := by
  have hopens : AgentEffect.opensTunnel (o.answer r).2 = false := by
    unfold answer
    split
    · rfl
    · rfl
    · split <;> rfl
  exact carry_of_quiet next hopens (answer_quiet r).1

/-- **An opening knows its tunnel**, whatever comes. -/
theorem step_stands (h : step user o e = some (o', es))
    (htake : takeLatest lines e.receives = some ks) (hsound : ∀ l ∈ lines, l.Sound limit)
    (ho : o.Stands limit lines) :
    o'.Stands limit (carry (.fresh id registries) es ks) := by
  have hclosed : carry (.fresh id registries) [.closeTunnel] ks = ks := carry_of_quiet _ rfl rfl
  have hsettled := ho.tail
  unfold step at h
  split at h
  · -- a tunnel has been accepted, and nothing has gone through it yet
    rename_i left hphase
    cases h
    cases htake
    rw [Stands, hphase] at ho
    refine move_stands ⟨⟨?_, [], rfl, nofun⟩, ho⟩
    rfl
  · rename_i left hphase
    cases h
    cases htake
    rw [Stands, hphase] at ho
    rw [carry_of_quiet _ rfl rfl]
    unfold choose
    by_cases hnone : left.tail = []
    · exact stands_of_failed (by rw [if_pos hnone]) rfl hsettled
    · rw [Stands, if_neg hnone]
      exact ho
  · -- the connect message is the first that is written to the tunnel
    rename_i messageId outcome hphase
    cases htake
    rw [Stands, hphase] at ho
    simp only at h
    split at h
    · rename_i hnone
      cases h
      rw [carry_of_opensTunnel _ (AgentEffect.opensTunnel_map_message _),
        AgentEffect.messages_map_message, Sent.entered_of_none hnone]
      refine Latest.put (fun l hl => ⟨⟨messageId, user, o.keepAlive, ?_⟩, hl.2⟩) ho
      rw [Line.sent_put, hl.1]
      rfl
    · cases h
      rw [carry_of_opensTunnel _ (by simp)]
      exact stands_of_failed rfl rfl (by rw [tail_putLatest]; exact hsettled)
  · rename_i r hphase
    simp only [Option.some.injEq] at h
    have hanswer := answer_stands hphase htake hsound ho
    have hcarry : carry (.fresh id registries) (o.answer r).2 ks = ks := carry_answer _ r
    rw [h] at hanswer hcarry
    rw [hcarry]
    exact hanswer
  · cases h
    cases htake
    rw [hclosed]
    exact stands_of_failed rfl rfl hsettled
  · cases h

end Opening

/-! ## What all sessions have in common -/

namespace Network

/-- How often a proxy tries a target again. -/
abbrev Setting.retries (w : Setting) : UInt32 := w.proxy.retry.connectRetryLimit

/-- What a client has asked to be connected to, and how it is told that it is. -/
abbrev HasAsked (w : Setting) (n : Network) : Bytes → Target → Prop :=
  Asks w.agent.pieceSize w.link.own n.read

/-- The client has been told nothing, and no tunnel is being opened. -/
def IsQuiet (w : Setting) (n : Network) : Prop := n.told = [] ∧ Settled w.retries n.lines

/-- The client is being told that there is no connection; when a tunnel failed, as is due then. -/
def IsRefusing (w : Setting) (n : Network) (due : Prop) : Prop :=
  n.told = [] ∧ (Settled w.retries n.lines ∨ due ∧ Settled w.retries n.lines.tail)

/-- The session is over; when a tunnel failed, the client was told the failure or could not be. -/
def IsOver (w : Setting) (n : Network) (failure : Bytes) : Prop :=
  Settled w.retries n.lines ∨
    (∃ b, n.told = [⟨none, b⟩] ∧ (b = [] ∨ b = failure)) ∧ Settled w.retries n.lines.tail

/-- What an event with these effects makes of what has been read, told and opened. -/
def after (n : Network) (next : Line) (lines : List Line) (e : AgentSession.Event)
    (effects : List AgentEffect) : Network :=
  { n with
    read := n.read ++ e.reads.getD []
    told := n.told ++ (n.agent.notice? e effects).toList
    lines := carry next effects lines }

variable {w : Setting} {n : Network} {e : AgentSession.Event} {es : List AgentEffect}

theorem told_after (next : Line) (h : n.agent.notice? e es = none) :
    (n.after next ks e es).told = n.told := by
  rw [after, h]
  exact List.append_nil n.told

theorem read_after (next : Line) (h : e.reads = none) :
    (n.after next ks e es).read = n.read := by
  rw [after, h]
  exact List.append_nil n.read

/-- A client that has been told nothing is told nothing. -/
theorem IsQuiet.after (h : n.IsQuiet w) (htake : takeLatest n.lines e.receives = some ks)
    (hnotice : n.agent.notice? e es = none)
    (hms : ∀ m ∈ AgentEffect.messages es, m.kind = .udpData) :
    (n.after (.fresh id registries) ks e es).IsQuiet w :=
  ⟨(told_after _ hnotice).trans h.1, (h.2.grow (forall₂_of_takeLatest htake)).carry hms⟩

theorem IsQuiet.goOn (hall : List.Forall₂ Line.GoesOn n.lines ks) (h : n.IsQuiet w) :
    IsQuiet w { n with lines := ks } :=
  ⟨h.1, h.2.grow (hall.imp fun _ _ hg => hg.toGrows)⟩

theorem IsRefusing.goOn {due : Prop} (hall : List.Forall₂ Line.GoesOn n.lines ks)
    (h : n.IsRefusing w due) : IsRefusing w { n with lines := ks } due := by
  have hgrows := hall.imp fun _ _ hg => hg.toGrows
  exact ⟨h.1, h.2.imp (Settled.grow hgrows) fun hfailed => ⟨hfailed.1, hfailed.2.tail_grow hgrows⟩⟩

theorem IsOver.goOn {failure : Bytes} (hall : List.Forall₂ Line.GoesOn n.lines ks)
    (h : n.IsOver w failure) : IsOver w { n with lines := ks } failure := by
  have hgrows := hall.imp fun _ _ hg => hg.toGrows
  exact h.imp (Settled.grow hgrows) fun hfailed => ⟨hfailed.1, hfailed.2.tail_grow hgrows⟩

/-- A client that is told of a failure has been told nothing else. -/
theorem IsRefusing.after {due : Prop} {b failure : Bytes} (next : Line) (h : n.IsRefusing w due)
    (htake : takeLatest n.lines e.receives = some ks)
    (hnotice : n.agent.notice? e es = some ⟨none, b⟩) (hb : due → b = [] ∨ b = failure)
    (hopens : AgentEffect.opensTunnel es = false) (hmessages : AgentEffect.messages es = []) :
    (n.after next ks e es).IsOver w failure := by
  have hgrows := forall₂_of_takeLatest htake
  have hlines : (n.after next ks e es).lines = ks := carry_of_quiet next hopens hmessages
  have htold : (n.after next ks e es).told = [⟨none, b⟩] := by
    rw [Network.after, hnotice, h.1]
    rfl
  rw [IsOver, hlines, htold]
  rcases h.2 with hsettled | ⟨hdue, htail⟩
  · exact .inl (hsettled.grow hgrows)
  · exact .inr ⟨⟨b, rfl, hb hdue⟩, htail.tail_grow hgrows⟩

end Network

end TunnelRelay
