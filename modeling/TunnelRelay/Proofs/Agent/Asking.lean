import TunnelRelay.Network
import TunnelRelay.Proofs.Agent.Session
import TunnelRelay.Proofs.Http.Reading

/-!
# What a client has asked for

A client names its target in a command or in the head of a request, and what names it stands in the
octets that have been read from the client. `Asks` says so of these octets alone. A session that
reads requests keeps `Http.Decodes`: what it has not used yet is what the stream's reader leaves of
all that was read, wherever the session has cut it, and a request that a relay hands back is one
that the reader has found.
-/

namespace TunnelRelay

/-! ## Requests in what was read -/

namespace Http

/-- What is known of a client's stream after some of what was read has been made sense of. -/
inductive Decodes (size : Nat) : Bytes → Inbound → Prop
  | empty : Decodes size [] .empty
  | push {read : Bytes} {s : Inbound} (b : Bytes) :
    Decodes size read s → Decodes size (read ++ b) (s.push b)
  | next {read : Bytes} {s s' : Inbound} {f : Frame} :
    Decodes size read s → Http.next size s = (.ok (some f), s') → Decodes size read s'

/-- A request stands in what was read. -/
def Requested (size : Nat) (read : Bytes) (q : Request) : Prop :=
  ∃ front s s', front <+: read ∧ Decodes size front s ∧ next size s = (.ok (some (.head q)), s')

variable {size : Nat} {read : Bytes} {s s' : Inbound} {q : Request}

theorem requested_of_next (hs : Decodes size read s)
    (h : next size s = (.ok (some (.head q)), s')) : Requested size read q :=
  ⟨read, s, s', List.prefix_rfl, hs, h⟩

/-- A request that stands in what was read still does when more is read. -/
theorem Requested.append (h : Requested size read q) (b : Bytes) :
    Requested size (read ++ b) q := by
  obtain ⟨front, s, s', hfront, hs, hnext⟩ := h
  exact ⟨front, s, s', hfront.trans (List.prefix_append read b), hs, hnext⟩

end Http

/-- What a client has asked to be connected to, and how it is told that it is. -/
inductive Asks (size : Nat) (own : Endpoint) (read : Bytes) : Bytes → Target → Prop
  /-- Behind a greeting stands a command to connect to the target. -/
  | socks {methods : List Socks.AuthMethod} {q : Socks.Request} {behind rest : Bytes}
    {host : String} : Socks.greeting read = .complete methods behind →
    Socks.request behind = .complete q rest → q.command = .connect →
    q.target.hostText = .ok host → Asks size own read (SocksSession.grant own) ⟨host, q.target.port⟩
  /-- A request to connect names the target. -/
  | http {q : Http.Request} {target : Target} : Http.Requested size read q → q.head.isConnect →
    q.head.targetAddress = .ok (target.host, target.port) →
    Asks size own read Http.Response.connectionEstablished.toBytes target

variable {size : Nat} {own : Endpoint} {read : Bytes} {reply : Bytes} {target : Target}

/-- What a client has asked for does not depend on what it sends afterwards. -/
theorem Asks.append (h : Asks size own read reply target) (b : Bytes) :
    Asks size own (read ++ b) reply target := by
  cases h with
  | socks hgreeting hrequest hconnect hhost =>
    have hmore := Socks.stable_greeting read b
    rw [hgreeting] at hmore
    rename_i behind rest _
    have hmore' := Socks.stable_request behind b
    rw [hrequest] at hmore'
    exact .socks hmore hmore' hconnect hhost
  | http hrequested hconnect htarget => exact .http (hrequested.append b) hconnect htarget

/-- A tunnel leads where it was to lead. -/
theorem Opening.target_of_step {user : String} {o o' : Opening} {e : Opening.Event}
    {es : List AgentEffect} (h : o.step user e = some (o', es)) : o'.target = o.target := by
  have hmove (expect after : RelayState) (phase : Opening.Phase) :
      (o.move expect after phase).target = o.target := by
    unfold move
    split <;> rfl
  have hanswer (r : Received ProxyKind) : (o.answer r).1.target = o.target := by
    unfold answer
    split
    · rfl
    · rfl
    · split
      · rfl
      · exact hmove _ _ _
      · rfl
      · rfl
  unfold step at h
  split at h
  · cases h
    exact hmove _ _ _
  · cases h
    rfl
  · simp only at h
    split at h
    all_goals
      cases h
      rfl
  · rename_i r _
    have htarget := hanswer r
    simp only [Option.some.injEq] at h
    rw [h] at htarget
    exact htarget
  · cases h
    rfl
  · cases h

/-! ## Effects that open no tunnel -/

namespace AgentEffect

@[simp] theorem opensTunnel_nil : opensTunnel [] = false := rfl

@[simp] theorem opensTunnel_append (es fs : List AgentEffect) :
    opensTunnel (es ++ fs) = (opensTunnel es || opensTunnel fs) :=
  List.any_append

@[simp] theorem opensTunnel_cons_closeTunnel (es : List AgentEffect) :
    opensTunnel (.closeTunnel :: es) = opensTunnel es :=
  rfl

@[simp] theorem opensTunnel_cons_toClient (b : Bytes) (es : List AgentEffect) :
    opensTunnel (.toClient b :: es) = opensTunnel es :=
  rfl

@[simp] theorem opensTunnel_map_message (ms : List (Body AgentKind)) :
    opensTunnel (ms.map AgentEffect.message) = false := by
  induction ms with
  | nil => rfl
  | cons m ms ih => exact ih

end AgentEffect

/-! ## The leg to the proxy -/

/-- How the client's octets are taken has come of what was read. -/
def Source.Decodes (size : Nat) (read : Bytes) : Source → Prop
  | octets => True
  | requests s => Http.Decodes size read s

/-- What is handed back has come of what was read. -/
def HandBack.Decodes (size : Nat) (read : Bytes) (next : Option HandBack) : Prop :=
  ∀ q s, next = some (q, s) → Http.Requested size read q ∧ Http.Decodes size read s

theorem HandBack.decodes_none (size : Nat) (read : Bytes) : HandBack.Decodes size read none := by
  intro q s h
  cases h

namespace ToProxy

/-- What the leg has not used yet has come of what was read. -/
def Decodes (size : Nat) (read : Bytes) : ToProxy → Prop
  | reading source | sending _ _ source => source.Decodes size read
  | ended next => HandBack.Decodes size read next

variable {user : String} {leg leg' : ToProxy} {e : Event} {es : List AgentEffect}

theorem forward_decodes {q : Http.Request} {s : Http.Inbound}
    (hq : Http.Requested size read q) (hs : Http.Decodes size read s) :
    (forward target q s).Decodes size read := by
  unfold forward
  split
  · intro q' s' h
    cases h
    exact ⟨hq, hs⟩
  · split
    · trivial
    · exact hs

theorem decode_decodes {s : Http.Inbound} (hs : Http.Decodes size read s)
    (h : decode size target s = some leg') : leg'.Decodes size read := by
  unfold decode at h
  split at h
  · cases h
  · cases h
    exact HandBack.decodes_none size read
  · rename_i b s' hnext
    cases h
    exact hs.next hnext
  · rename_i q s' hnext
    cases h
    exact forward_decodes (Http.requested_of_next hs hnext) (hs.next hnext)

/-- What the leg reads, it uses or keeps. -/
theorem step_decodes (h : step size user target leg e = some (leg', es))
    (hleg : leg.Decodes size read) : leg'.Decodes size (read ++ e.reads.getD []) := by
  have hnone : ∀ b, HandBack.Decodes size (read ++ b) none := fun b =>
    HandBack.decodes_none size (read ++ b)
  unfold step at h
  split at h
  · cases h
    exact hnone _
  · rename_i source b
    split at h
    · cases h
      cases source with
      | octets => trivial
      | requests s => exact Http.Decodes.push b hleg
    · cases h
  · split at h
    · cases h
      exact hnone _
    · cases h
  · split at h
    · cases h
      exact hnone _
    · cases h
  · obtain ⟨leg'', hdecode, heq⟩ := Option.map_eq_some_iff.mp h
    cases heq
    simp only [Event.reads, Option.getD_none, List.append_nil]
    exact decode_decodes hleg hdecode
  · rename_i data rest source id outcome
    simp only [Event.reads, Option.getD_none, List.append_nil]
    simp only at h
    split at h
    · cases h
      exact HandBack.decodes_none size read
    · cases h
      by_cases hrest : rest = []
      · rw [if_pos hrest]
        exact hleg
      · rw [if_neg hrest]
        exact hleg
  · cases h

/-- The leg to the proxy opens no tunnel. -/
theorem opensTunnel_of_step (h : step size user target leg e = some (leg', es)) :
    AgentEffect.opensTunnel es = false := by
  unfold step at h
  split at h
  · cases h
    rfl
  · split at h
    · cases h
      rfl
    · cases h
  · split at h
    · cases h
      rfl
    · cases h
  · split at h
    · cases h
      rfl
    · cases h
  · obtain ⟨leg'', -, heq⟩ := Option.map_eq_some_iff.mp h
    cases heq
    rfl
  · simp only at h
    split at h
    all_goals
      cases h
      exact AgentEffect.opensTunnel_map_message _
  · cases h

end ToProxy

/-- The leg from the proxy opens no tunnel. -/
theorem FromProxy.opensTunnel_of_step {limit : UInt32} {leg leg' : FromProxy} {e : FromProxy.Event}
    {es : List AgentEffect} (h : step limit leg e = some (leg', es)) :
    AgentEffect.opensTunnel es = false := by
  unfold step at h
  split at h
  · cases h
    rfl
  · cases h
    rfl
  · simp only at h
    split at h
    all_goals
      cases h
      rfl
  · cases h

/-! ## A relay -/

namespace Relay

/-- What the relay has not used yet has come of what was read. -/
def Phase.Decodes (size : Nat) (read : Bytes) : Phase → Prop
  | starting _ source => source.Decodes size read
  | running up _ _ => up.Decodes size read
  | closed next => HandBack.Decodes size read next

theorem start_decodes (user : String) (streams : Streams) (o : Opening) (data : Bytes)
    {source : Source} (h : source.Decodes size read) :
    (start user streams o data source).2.1.phase.Decodes size read := by
  unfold start
  split
  · exact HandBack.decodes_none size read
  · by_cases hdata : data = []
    · simp only [hdata, if_true]
      exact h
    · simp only [hdata, if_false]
      exact h

/-- A relay that starts opens no tunnel. -/
theorem opensTunnel_of_start (user : String) (streams : Streams) (o : Opening) (data : Bytes)
    (source : Source) : AgentEffect.opensTunnel (start user streams o data source).2.2 = false := by
  unfold start
  split <;> rfl

variable {c : AgentContext} {streams streams' : Streams} {r r' : Relay} {e : Event}
  {es : List AgentEffect}

/-- **What a relay of requests has read, it has used, keeps or hands back.** -/
theorem step_decodes (h : step c streams r e = some (streams', r', es))
    (hr : r.phase.Decodes c.pieceSize read) :
    r'.phase.Decodes c.pieceSize (read ++ e.reads.getD []) := by
  obtain ⟨id, target, lifecycle, phase⟩ := r
  have hsame : ∀ {p : Phase}, p.Decodes c.pieceSize read →
      p.Decodes c.pieceSize (read ++ ([] : Bytes)) := by
    intro p hp
    rw [List.append_nil]
    exact hp
  unfold step at h
  split at h
  · cases h
  simp only at h
  split at h
  · split at h
    · cases h
      exact hsame hr
    · cases h
      exact HandBack.decodes_none _ _
  · -- only the leg to the proxy reads
    obtain ⟨⟨up', es'⟩, hstep, heq⟩ := Option.bind_eq_some_iff.mp h
    cases heq
    exact ToProxy.step_decodes hstep hr
  · obtain ⟨⟨down', es'⟩, -, heq⟩ := Option.bind_eq_some_iff.mp h
    cases heq
    exact hsame hr
  · cases h
    exact hsame hr
  · cases h
    exact hsame hr
  · cases h
    exact hsame hr
  · cases h

/-- A relay opens no tunnel. -/
theorem opensTunnel_of_step (h : step c streams r e = some (streams', r', es)) :
    AgentEffect.opensTunnel es = false := by
  obtain ⟨id, target, lifecycle, phase⟩ := r
  unfold step at h
  split at h
  · cases h
  simp only at h
  split at h
  · split at h
    · cases h
      exact AgentEffect.opensTunnel_map_message _
    · cases h
      simp [leave]
  · obtain ⟨⟨up', es'⟩, hstep, heq⟩ := Option.bind_eq_some_iff.mp h
    cases heq
    exact ToProxy.opensTunnel_of_step hstep
  · obtain ⟨⟨down', es'⟩, hstep, heq⟩ := Option.bind_eq_some_iff.mp h
    cases heq
    exact FromProxy.opensTunnel_of_step hstep
  · cases h
    rfl
  · cases h
    rfl
  · cases h
    rfl
  · cases h

/-- A relay of an opaque stream starts as one. -/
theorem isOpaque_of_start (user : String) (streams : Streams) (o : Opening) (data : Bytes) :
    (start user streams o data .octets).2.1.phase.IsOpaque := by
  have hup : Passes (some data) data [] := rfl
  exact (start_carries user streams o hup Passes.start).isOpaque

/-- A relay whose stream is opaque stays so. -/
theorem isOpaque_of_step (h : step c streams r e = some (streams', r', es))
    (hr : r.phase.IsOpaque) : r'.phase.IsOpaque := by
  have hpasses : ∀ held : Option Bytes, Passes held (held.getD []) [] := by
    intro held
    cases held with
    | none => exact List.prefix_rfl
    | some held => rfl
  exact (step_carries h ⟨hr, hpasses _, hpasses _⟩).isOpaque

end Relay

/-- What the state of its tunnel means for a request opens no other. -/
theorem HttpSession.opensTunnel_of_ofOpening (user : String) (streams : Streams) (o : Opening)
    (q : Http.Request) (s : Http.Inbound) :
    AgentEffect.opensTunnel (ofOpening user streams o q s).2.2 = false := by
  unfold ofOpening
  split
  · rfl
  · split
    · rfl
    · exact Relay.opensTunnel_of_start _ _ _ _ _
  · rfl

end TunnelRelay
