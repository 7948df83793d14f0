import TunnelRelay.Proofs.Agent.Asking
import TunnelRelay.Proofs.Proxy.Answer
import Mathlib.Data.List.Forall2

/-!
# What is known of a tunnel from its agent's side

An agent cannot see the proxy at the other end of a tunnel, but it knows what it has written to the
tunnel and what it has read from it. When all that it has written is one connect message, a
confirmation can only be that of this message's target (`Sound.connected_of_success`). A tunnel is
settled when its target is connected or when it carries only datagrams, and a tunnel that is settled
stays so and never says that a target cannot be reached (`Sound.ne_connectFail`).
-/

namespace TunnelRelay

namespace Line

/-- All that the agent has written to the tunnel: what the proxy has taken out of it, and behind
that what is still in it. -/
def sent (l : Line) : List (Body AgentKind) :=
  l.past.flatMap (fun e => Received.bodies e.receives) ++ l.up

/-- The target's connector has returned a stream for that target: the first message asked for it,
and an attempt to connect to it has succeeded. -/
def Connected (limit : UInt32) (target : Target) (l : Line) : Prop :=
  ∃ m script address rest, l.past = .received (.body m) :: .connected script address :: rest ∧
    ProxySession.Connects limit script ∧ (⟨m.host, m.port⟩ : Target) = target ∧
    .attempt target (m.kind = .connectWithKeepAlive) ∈ l.done

/-- The target is connected, or the tunnel is none of a stream. -/
def IsSettled (limit : UInt32) (l : Line) : Prop :=
  (∃ target, l.Connected limit target) ∨ ∀ m ∈ l.sent, m.kind = .udpData

/-- The proxy's session has come to where it is. -/
structure Sound (limit : UInt32) (l : Line) : Prop where
  tells : ProxySession.Tells limit l.past l.done l.proxy
  unregistered : l.proxy.Unregistered l.id l.registries

/-- Nothing has been written to the tunnel since, and what has happened has happened. -/
structure Grows (l k : Line) : Prop where
  sent : k.sent = l.sent
  past : l.past <+: k.past
  done : l.done <+: k.done

/-- Nothing has been read from the tunnel since either. -/
structure GoesOn (l k : Line) : Prop extends Grows l k where
  down : ∀ got, ProxyEffect.messages l.done = got ++ l.down →
    ProxyEffect.messages k.done = got ++ k.down

variable {limit : UInt32} {target : Target} {l k : Line}

theorem Grows.refl (l : Line) : Grows l l := ⟨rfl, List.prefix_rfl, List.prefix_rfl⟩

theorem GoesOn.refl (l : Line) : GoesOn l l := ⟨.refl l, fun _ h => h⟩

/-- A tunnel that has just been accepted. -/
theorem sound_fresh {id : String} {registries : ProxyRegistries}
    (h : registries.streams.get? id = none) : (fresh id registries).Sound limit :=
  ⟨⟨rfl, rfl⟩, h⟩

/-! ## The agent's side -/

@[simp] theorem sent_put (l : Line) (ms : List (Body AgentKind)) :
    (l.put ms).sent = l.sent ++ ms :=
  (List.append_assoc _ _ _).symm

theorem Connected.put (h : l.Connected limit target) (ms : List (Body AgentKind)) :
    (l.put ms).Connected limit target :=
  h

theorem IsSettled.put (h : l.IsSettled limit) {ms : List (Body AgentKind)}
    (hms : ∀ m ∈ ms, m.kind = .udpData) : (l.put ms).IsSettled limit := by
  rcases h with ⟨target, h⟩ | h
  · exact .inl ⟨target, h.put ms⟩
  · refine .inr fun m hm => ?_
    rw [sent_put] at hm
    rcases List.mem_append.mp hm with hm | hm
    · exact h m hm
    · exact hms m hm

/-- What the agent reads is the next that is in the tunnel. -/
theorem eq_of_take {r : Received ProxyKind} (h : l.take r = some k) :
    k = { l with down := k.down } ∧ l.down = Received.bodies (some r) ++ k.down := by
  obtain ⟨down, hnext, rfl⟩ := Option.map_eq_some_iff.mp h
  exact ⟨rfl, eq_of_takeNext hnext⟩

theorem grows_of_take {r : Received ProxyKind} (h : l.take r = some k) : Grows l k := by
  rw [(eq_of_take h).1]
  exact ⟨rfl, List.prefix_rfl, List.prefix_rfl⟩

theorem Sound.put (h : l.Sound limit) (ms : List (Body AgentKind)) : (l.put ms).Sound limit :=
  ⟨h.tells, h.unregistered⟩

theorem Sound.take (h : l.Sound limit) {r : Received ProxyKind} (htake : l.take r = some k) :
    k.Sound limit := by
  rw [(eq_of_take htake).1]
  exact ⟨h.tells, h.unregistered⟩

/-! ## The proxy's side -/

theorem Connected.grow (hg : Grows l k) (h : l.Connected limit target) :
    k.Connected limit target := by
  obtain ⟨m, script, address, rest, hpast, hconnects, htarget, htried⟩ := h
  obtain ⟨more, hmore⟩ := hg.past
  refine ⟨m, script, address, rest ++ more, ?_, hconnects, htarget, hg.done.subset htried⟩
  rw [← hmore, hpast]
  rfl

theorem IsSettled.grow (hg : Grows l k) (h : l.IsSettled limit) : k.IsSettled limit := by
  rcases h with ⟨target, h⟩ | h
  · exact .inl ⟨target, h.grow hg⟩
  · exact .inr (hg.sent ▸ h)

/-- What an event of the proxy takes and puts where. -/
theorem eq_of_moves {c : ProxyContext} {e : ProxySession.Event} (h : l.moves c e = some k) :
    ∃ up registries proxy effects, takeNext l.up e.receives = some up ∧
      l.proxy.step c l.id l.registries e = some (registries, proxy, effects) ∧
      k = { l with
        proxy, registries, up
        down := l.down ++ ProxyEffect.messages effects
        past := l.past ++ [e]
        done := l.done ++ effects } := by
  unfold moves at h
  simp only [bind, pure, Option.bind_eq_some_iff, Option.some.injEq] at h
  obtain ⟨up, hup, ⟨registries, proxy, effects⟩, hstep, rfl⟩ := h
  exact ⟨up, registries, proxy, effects, hup, hstep, rfl⟩

/-- What happens at the other end leaves what the agent has written and read. -/
theorem goesOn_of_step {c : ProxyContext} (h : l.Step c k) : GoesOn l k := by
  cases h with
  | event e hmove =>
    obtain ⟨up, registries, proxy, effects, hup, -, rfl⟩ := eq_of_moves hmove
    refine ⟨⟨?_, List.prefix_append _ _, List.prefix_append _ _⟩, fun got hgot => ?_⟩
    · -- the message that the proxy has taken was the next in the tunnel
      simp [Line.sent, eq_of_takeNext hup, List.flatMap_append]
    · rw [ProxyEffect.messages_append, hgot, List.append_assoc]
  | others registries _ => exact ⟨⟨rfl, List.prefix_rfl, List.prefix_rfl⟩, fun _ h => h⟩

theorem Sound.step {c : ProxyContext} (hs : l.Sound c.retry.connectRetryLimit) (h : l.Step c k) :
    k.Sound c.retry.connectRetryLimit := by
  cases h with
  | event e hmove =>
    obtain ⟨up, registries, proxy, effects, -, hstep, rfl⟩ := eq_of_moves hmove
    obtain ⟨htells, hfree⟩ := hs.tells.step hs.unregistered hstep
    exact ⟨htells, hfree⟩
  | others registries hsame =>
    refine ⟨hs.tells, ?_⟩
    have hfree := hs.unregistered
    obtain ⟨id, proxy, registries', up, down, past, done⟩ := l
    cases proxy with
    | waiting | connecting m l => exact hsame.trans hfree
    | _ => trivial

/-! ## What the agent can tell -/

/-- The first message that a proxy takes out of a tunnel was written to it. -/
theorem mem_sent_of_past {m : Body AgentKind} {rest : List ProxySession.Event}
    (h : l.past = .received (.body m) :: rest) : m ∈ l.sent := by
  rw [sent, h]
  exact List.mem_append_left _ (List.mem_cons_self ..)

/-- **A confirmation is that of the target that was asked for.** -/
theorem Sound.connected_of_success (hs : l.Sound limit) {id user : String} {keepAlive : Bool}
    (hsent : l.sent = [Body.connect id user target.host target.port keepAlive])
    {x : Body ProxyKind} (hx : x ∈ ProxyEffect.messages l.done) (hkind : x.kind = .connectSuccess) :
    l.Connected limit target := by
  obtain ⟨m, script, address, rest, hpast, hconnects, htried⟩ :=
    hs.tells.of_connectSuccess hx hkind
  have hm := mem_sent_of_past hpast
  rw [hsent, List.mem_singleton] at hm
  have htarget : (⟨m.host, m.port⟩ : Target) = target := by rw [hm]; cases keepAlive <;> rfl
  rw [htarget] at htried
  exact ⟨m, script, address, rest, hpast, hconnects, htarget, htried⟩

/-- A failure is the only message of its tunnel, and something was asked before. -/
theorem Sound.eq_of_connectFail (hs : l.Sound limit) {x : Body ProxyKind}
    (hx : x ∈ ProxyEffect.messages l.done) (hkind : x.kind = .connectFail) :
    ProxyEffect.messages l.done = [x] ∧ l.sent ≠ [] := by
  obtain ⟨m, script, address, id, outcome, hpast, -, -, hdone⟩ := hs.tells.of_connectFail hx hkind
  exact ⟨hdone, List.ne_nil_of_mem (mem_sent_of_past hpast)⟩

/-- A proxy that reports no target has said so of no tunnel that is settled. -/
theorem Sound.ne_connectFail (hs : l.Sound limit) (hsettled : l.IsSettled limit)
    {x : Body ProxyKind} (hx : x ∈ ProxyEffect.messages l.done) : x.kind ≠ .connectFail := by
  intro hkind
  obtain ⟨m, script, address, id, outcome, hpast, hconnect, hfails, -⟩ :=
    hs.tells.of_connectFail hx hkind
  rcases hsettled with ⟨target, n, script', address', rest, hpast', hconnects, -⟩ | hdatagrams
  · rw [hpast] at hpast'
    cases hpast'
    exact hfails hconnects
  · rw [hdatagrams m (mem_sent_of_past hpast)] at hconnect
    cases hconnect

end Line

/-! ## The tunnels of an agent -/

namespace Network

/-- All these tunnels are settled. -/
def Settled (limit : UInt32) (lines : List Line) : Prop := ∀ l ∈ lines, l.IsSettled limit

/-- There is a latest tunnel of which `P` holds, and all earlier ones are settled. -/
def Latest (limit : UInt32) (P : Line → Prop) : List Line → Prop
  | [] => False
  | l :: lines => P l ∧ Settled limit lines

variable {limit : UInt32} {P Q : Line → Prop} {R : Line → Line → Prop} {lines ks : List Line}

theorem Settled.tail (h : Settled limit lines) : Settled limit lines.tail :=
  fun l hl => h l (List.mem_of_mem_tail hl)

theorem Latest.tail (h : Latest limit P lines) : Settled limit lines.tail := by
  cases lines with
  | nil => cases h
  | cons l lines => exact h.2

theorem Latest.settled (hP : ∀ l, P l → l.IsSettled limit) (h : Latest limit P lines) :
    Settled limit lines := by
  cases lines with
  | nil => cases h
  | cons l lines => exact List.forall_mem_cons.mpr ⟨hP l h.1, h.2⟩

theorem Latest.imp (hPQ : ∀ l, P l → Q l) (h : Latest limit P lines) : Latest limit Q lines := by
  cases lines with
  | nil => cases h
  | cons l lines => exact ⟨hPQ l h.1, h.2⟩

theorem Settled.grow (hall : List.Forall₂ Line.Grows lines ks) (h : Settled limit lines) :
    Settled limit ks := by
  induction hall with
  | nil => exact h
  | cons hgrows _ ih =>
    obtain ⟨hfirst, hrest⟩ := List.forall_mem_cons.mp h
    exact List.forall_mem_cons.mpr ⟨hfirst.grow hgrows, ih hrest⟩

theorem Settled.tail_grow (hall : List.Forall₂ Line.Grows lines ks)
    (h : Settled limit lines.tail) : Settled limit ks.tail := by
  cases hall with
  | nil => exact h
  | cons _ hrest => exact Settled.grow hrest h

/-- What holds of the latest tunnel goes over into what holds of it afterwards. -/
theorem Latest.grow (hall : List.Forall₂ R lines ks) (hR : ∀ l k, R l k → l.Grows k)
    (hP : ∀ l k, R l k → P l → Q k) (h : Latest limit P lines) : Latest limit Q ks := by
  cases hall with
  | nil => cases h
  | cons hfirst hrest => exact ⟨hP _ _ hfirst h.1, Settled.grow (hrest.imp hR) h.2⟩

/-- Something at the other end of one tunnel leaves all others as they are. -/
theorem forall₂_of_step {c : ProxyContext} {before after : List Line} {l k : Line}
    (h : l.Step c k) : List.Forall₂ Line.GoesOn (before ++ l :: after) (before ++ k :: after) :=
  List.rel_append (List.forall₂_same.mpr fun _ _ => .refl _)
    (.cons (Line.goesOn_of_step h) (List.forall₂_same.mpr fun _ _ => .refl _))

/-! ### What the agent reads and writes -/

/-- Reading takes the next message out of the latest tunnel, or nothing is read. -/
theorem eq_of_takeLatest {r : Option (Received ProxyKind)} (h : takeLatest lines r = some ks) :
    (r = none ∧ ks = lines) ∨ ∃ l k rest x, r = some x ∧ lines = l :: rest ∧ ks = k :: rest ∧
      l.take x = some k := by
  cases r with
  | none =>
    cases h
    exact .inl ⟨rfl, rfl⟩
  | some x =>
    cases lines with
    | nil => cases h
    | cons l rest =>
      obtain ⟨k, htake, rfl⟩ := Option.map_eq_some_iff.mp h
      exact .inr ⟨l, k, rest, x, rfl, rfl, rfl, htake⟩

theorem forall₂_of_takeLatest {r : Option (Received ProxyKind)}
    (h : takeLatest lines r = some ks) : List.Forall₂ Line.Grows lines ks := by
  have hrefl (lines : List Line) : List.Forall₂ Line.Grows lines lines :=
    List.forall₂_same.mpr fun _ _ => .refl _
  rcases eq_of_takeLatest h with ⟨-, rfl⟩ | ⟨l, k, rest, x, -, rfl, rfl, htake⟩
  · exact hrefl _
  · exact .cons (Line.grows_of_take htake) (hrefl rest)

@[simp] theorem putLatest_nil (lines : List Line) : putLatest lines [] = lines := by
  cases lines with
  | nil => rfl
  | cons l lines => simp [putLatest, Line.put]

@[simp] theorem tail_putLatest (lines : List Line) (ms : List (Body AgentKind)) :
    (putLatest lines ms).tail = lines.tail := by
  cases lines <;> rfl

theorem Latest.put {ms : List (Body AgentKind)} (hP : ∀ l, P l → Q (l.put ms))
    (h : Latest limit P lines) : Latest limit Q (putLatest lines ms) := by
  cases lines with
  | nil => cases h
  | cons l lines => exact ⟨hP l h.1, h.2⟩

theorem Settled.put {ms : List (Body AgentKind)} (hms : ∀ m ∈ ms, m.kind = .udpData)
    (h : Settled limit lines) : Settled limit (putLatest lines ms) := by
  cases lines with
  | nil => exact h
  | cons l lines =>
    obtain ⟨hfirst, hrest⟩ := List.forall_mem_cons.mp h
    exact List.forall_mem_cons.mpr ⟨hfirst.put hms, hrest⟩

/-- An agent that writes only datagrams leaves its tunnels settled, and so is one that it opens. -/
theorem Settled.carry {effects : List AgentEffect} {id : String} {registries : ProxyRegistries}
    (hms : ∀ m ∈ AgentEffect.messages effects, m.kind = .udpData) (h : Settled limit lines) :
    Settled limit (carry (.fresh id registries) effects lines) := by
  refine Settled.put hms ?_
  split
  · exact List.forall_mem_cons.mpr ⟨.inr nofun, h⟩
  · exact h

/-- The latest tunnel has its target connected. -/
def Relaying (limit : UInt32) : List Line → Prop :=
  Latest limit fun l => ∃ target, l.Connected limit target

theorem relaying_of_connected {target : Target}
    (h : Latest limit (Line.Connected limit target) lines) : Relaying limit lines :=
  h.imp fun _ hl => ⟨target, hl⟩

theorem Relaying.settled (h : Relaying limit lines) : Settled limit lines :=
  Latest.settled (fun _ hl => .inl hl) h

theorem Relaying.grow (hall : List.Forall₂ Line.Grows lines ks) (h : Relaying limit lines) :
    Relaying limit ks :=
  Latest.grow hall (fun _ _ hg => hg) (fun _ _ hg ⟨target, hl⟩ => ⟨target, hl.grow hg⟩) h

/-- Effects that open no tunnel go into the latest one. -/
theorem carry_of_opensTunnel {effects : List AgentEffect} (next : Line)
    (h : AgentEffect.opensTunnel effects = false) :
    carry next effects lines = putLatest lines (AgentEffect.messages effects) := by
  rw [carry, h, if_neg Bool.false_ne_true]

theorem Relaying.carry {effects : List AgentEffect} (next : Line)
    (hopens : AgentEffect.opensTunnel effects = false) (h : Relaying limit lines) :
    Relaying limit (carry next effects lines) := by
  rw [carry_of_opensTunnel next hopens]
  exact Latest.put (fun _ hl => hl) h

theorem carry_of_quiet {effects : List AgentEffect} (next : Line)
    (hopens : AgentEffect.opensTunnel effects = false)
    (hmessages : AgentEffect.messages effects = []) : carry next effects lines = lines := by
  rw [carry_of_opensTunnel next hopens, hmessages, putLatest_nil]

/-- What holds of all tunnels holds of them after the agent has read and written, and of the one
that it opens. -/
theorem forall_mem_carry {effects : List AgentEffect} {next : Line}
    {r : Option (Received ProxyKind)} (hread : takeLatest lines r = some ks)
    (htake : ∀ l k x, l.take x = some k → P l → P k) (hput : ∀ l ms, P l → P (l.put ms))
    (hnext : P next) (h : ∀ l ∈ lines, P l) : ∀ l ∈ carry next effects ks, P l := by
  have hks : ∀ k ∈ ks, P k := by
    rcases eq_of_takeLatest hread with ⟨-, rfl⟩ | ⟨l, k, rest, x, -, rfl, rfl, hl⟩
    · exact h
    · obtain ⟨hfirst, hrest⟩ := List.forall_mem_cons.mp h
      exact List.forall_mem_cons.mpr ⟨htake l k x hl hfirst, hrest⟩
  have hputs {lines : List Line} (ms : List (Body AgentKind)) (hall : ∀ l ∈ lines, P l) :
      ∀ l ∈ putLatest lines ms, P l := by
    cases lines with
    | nil => exact hall
    | cons l lines =>
      obtain ⟨hfirst, hrest⟩ := List.forall_mem_cons.mp hall
      exact List.forall_mem_cons.mpr ⟨hput l ms hfirst, hrest⟩
  refine hputs _ ?_
  split
  · exact List.forall_mem_cons.mpr ⟨hnext, hks⟩
  · exact hks

/-- A target that is connected stays so. -/
theorem exists_connected_grow {target : Target} (hall : List.Forall₂ Line.Grows lines ks)
    (h : ∃ l ∈ lines, l.Connected limit target) : ∃ k ∈ ks, k.Connected limit target := by
  induction hall with
  | nil => exact h
  | cons hgrows _ ih =>
    rcases (List.exists_mem_cons_iff _ _ _).mp h with hfirst | hrest
    · exact ⟨_, List.mem_cons_self, hfirst.grow hgrows⟩
    · obtain ⟨k, hk, hconnected⟩ := ih hrest
      exact ⟨k, List.mem_cons_of_mem _ hk, hconnected⟩

theorem exists_connected_carry {target : Target} {effects : List AgentEffect} (next : Line)
    (h : ∃ l ∈ lines, l.Connected limit target) :
    ∃ l ∈ carry next effects lines, l.Connected limit target := by
  have hputs {lines : List Line} (ms : List (Body AgentKind))
      (hl : ∃ l ∈ lines, l.Connected limit target) :
      ∃ l ∈ putLatest lines ms, l.Connected limit target := by
    cases lines with
    | nil => exact hl
    | cons l lines =>
      rcases (List.exists_mem_cons_iff _ _ _).mp hl with hfirst | ⟨k, hk, hrest⟩
      · exact ⟨l.put ms, List.mem_cons_self, hfirst.put ms⟩
      · exact ⟨k, List.mem_cons_of_mem _ hk, hrest⟩
  obtain ⟨l, hl, hconnected⟩ := h
  refine hputs _ ?_
  split
  · exact ⟨l, List.mem_cons_of_mem _ hl, hconnected⟩
  · exact ⟨l, hl, hconnected⟩

theorem carry_append_of_quiet {effects more : List AgentEffect} (next : Line)
    (hopens : AgentEffect.opensTunnel more = false) (hmessages : AgentEffect.messages more = []) :
    carry next (effects ++ more) lines = carry next effects lines := by
  rw [carry, carry, AgentEffect.opensTunnel_append, hopens, Bool.or_false,
    AgentEffect.messages_append, hmessages, List.append_nil]

end Network

end TunnelRelay
