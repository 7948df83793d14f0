import TunnelRelay.Proofs.Agent.Association
import TunnelRelay.Proofs.Socks.Handshake

/-!
# Every command is answered

A client that stays connected is told that it needs no authentication, and then it is told what has
become of its command, once, before its stream is relayed or its connection is closed. `Answering`
is what each step keeps of this, and `distance` how many events are left. One way out lacks its
reply: a command to connect to a domain name that is not UTF-8 closes the connection without a word.
-/

namespace TunnelRelay

/-! ## Opening a tunnel -/

namespace Opening

/-- Whether a heartbeat is read. -/
def Event.isHeartbeat : Event → Bool
  | received r => r.isHeartbeat
  | _ => false

/-- How many events are left at most until it is known what becomes of a tunnel, heartbeats not
counted. -/
def Phase.distance : Phase → Nat
  | choosing left => left.length + 3
  | asking => 2
  | waiting => 1
  | opened | failed _ => 0

variable {user : String} {o o' : Opening} {e : Event} {es : List AgentEffect}

theorem distance_choose (id : String) (left : List ProxyAddress) :
    (choose id left).distance ≤ left.length + 3 := by
  unfold choose
  split
  · exact Nat.zero_le _
  · exact Nat.le_refl _

theorem distance_move (o : Opening) (expect after : RelayState) (phase : Phase) :
    (o.move expect after phase).phase.distance ≤ phase.distance := by
  unfold move
  split
  · exact Nat.le_refl _
  · exact Nat.zero_le _

/-- A heartbeat changes nothing. -/
theorem step_of_isHeartbeat (h : step user o e = some (o', es)) (he : e.isHeartbeat = true) :
    o' = o := by
  cases e with
  | received r =>
    cases r with
    | body m =>
      have hm : m.kind = .heartbeat := by simpa [Event.isHeartbeat, Received.isHeartbeat] using he
      have hstep : step user o (.received (.body m)) = some (o, []) :=
        step_heartbeat (phase_of_received h) hm
      rw [hstep] at h
      cases h
      rfl
    | _ => cases he
  | _ => cases he

theorem distance_answer {r : Received ProxyKind} (hr : r.isHeartbeat = false) :
    (o.answer r).1.phase.distance = 0 := by
  cases r with
  | ended => rfl
  | failed e => rfl
  | body m =>
    simp only [answer]
    split
    · rename_i hm
      simp [Received.isHeartbeat, hm] at hr
    · exact Nat.le_zero.mp (distance_move o _ _ .opened)
    · rfl
    · rfl

/-- Any other event leads on. -/
theorem distance_of_step (h : step user o e = some (o', es)) (he : e.isHeartbeat = false) :
    o'.phase.distance < o.phase.distance := by
  unfold step at h
  split at h
  · rename_i left hphase
    cases h
    have hmoved := distance_move o .idle .connecting .asking
    rw [hphase]
    simp only [Phase.distance] at hmoved ⊢
    omega
  · rename_i left hphase
    cases h
    rw [hphase]
    cases left with
    | nil => exact Nat.succ_pos 2
    | cons a left =>
      have hchosen := distance_choose o.id left
      simp only [List.tail_cons, Phase.distance, List.length_cons] at hchosen ⊢
      omega
  · rename_i id outcome hphase
    rw [hphase]
    simp only at h
    split at h
    · cases h
      exact Nat.lt_succ_self 1
    · cases h
      exact Nat.succ_pos 1
  · rename_i r hphase
    have hanswer := distance_answer (o := o) (r := r) he
    simp only [Option.some.injEq] at h
    rw [h] at hanswer
    rw [hphase, hanswer]
    exact Nat.succ_pos 0
  · rename_i hphase
    cases h
    rw [hphase]
    exact Nat.succ_pos 0
  · cases h

/-- An opening that is not at its end is never stuck. -/
theorem exists_step (user : String) (hfailed : ∀ e, o.phase ≠ .failed e)
    (hopened : o.phase ≠ .opened) :
    ∃ e next, e.isHeartbeat = false ∧ step user o e = some next := by
  cases hphase : o.phase with
  | choosing left => exact ⟨.tried false, _, rfl, by simp only [step, hphase]; rfl⟩
  | asking => exact ⟨.sent "" .done, _, rfl, by simp only [step, hphase]; rfl⟩
  | waiting => exact ⟨.timedOut, _, rfl, by simp only [step, hphase]; rfl⟩
  | opened => exact absurd hphase hopened
  | failed e => exact absurd hphase (hfailed e)

end Opening

/-! ## The way of a session -/

namespace SocksSession

/-- The command has been answered, or the connection has been closed. -/
def IsSettled : SocksSession → Prop
  | relaying _ | associated _ | closed => True
  | _ => False

/-- Nothing is wrong with the client's connection: its stream has not ended, and a reply could be
written. If an address has been bound, nobody else's association has the id that was drawn. -/
def Event.Attended (link : ClientLink) (rs : AgentRegistries) : Event → Prop
  | ended | wrote false => False
  | bound _ => rs.associations.get? link.id = none
  | _ => True

/-- Whether a heartbeat is read. -/
def Event.isHeartbeat : Event → Bool
  | opening e => e.isHeartbeat
  | _ => false

/-- The octets that are read from the client. -/
def Event.octets (e : Event) : Bytes := (AgentSession.Event.reads (.socks e)).getD []

/-- What a session goes through until it has settled, if its client sends `hello`, `command` and
whatever trails them and stays connected, and what it has read and told the client by then. What the
others do to the registries is left open. -/
inductive Attends (c : AgentContext) (link : ClientLink) (hello command : Bytes) :
    List Event → SocksSession → Bytes → Bytes → Prop
  | start : Attends c link hello command [] start [] []
  | step {es : List Event} {s s' : SocksSession} {read told : Bytes} {rs rs' : AgentRegistries}
    {e : Event} {effects : List AgentEffect} : Attends c link hello command es s read told →
      ¬s.IsSettled → e.Attended link rs →
      (Handshake.socks hello command).Agrees (read ++ e.octets) →
      s.step c link rs e = some (rs', s', effects) →
      Attends c link hello command (es ++ [e]) s' (read ++ e.octets)
        (told ++ AgentEffect.forClient effects)

/-- What a client is told for its command by the time its session has settled in this way. -/
inductive Answer (link : ClientLink) (q : Socks.Request) : SocksSession → Socks.Reply → Prop
  | connected (r : Relay) : q.command = .connect →
    Answer link q (relaying r) ⟨.succeeded, .ofIp link.own.ip link.own.port⟩
  | associated (a : Association) (bound : Endpoint) : q.command = .associate →
    Answer link q (associated a) ⟨.succeeded, .ofIp bound.ip bound.port⟩
  /-- No tunnel could be opened, or no address bound. -/
  | failed : q.command = .connect ∨ q.command = .associate →
    Answer link q closed (.refusal .failure)
  | unsupported : q.command ≠ .connect → q.command ≠ .associate →
    Answer link q closed (.refusal .commandNotSupported)

/-- Where a session is on the way to its answer that has read and told its client this. -/
inductive Answering (link : ClientLink) (hello command : Bytes) (q : Socks.Request) :
    SocksSession → Bytes → Bytes → Prop
  | greeting {buffer : Bytes} : buffer <+: hello → buffer ≠ hello →
    Answering link hello command q (greeting buffer) buffer []
  | choosing (buffer : Bytes) :
    Answering link hello command q (choosing buffer) (hello ++ buffer) []
  | command {buffer : Bytes} : buffer <+: command → buffer ≠ command →
    Answering link hello command q (.command buffer) (hello ++ buffer) chosen
  | opening {o : Opening} (rest read : Bytes) : q.command = .connect →
    (∀ e, o.phase ≠ .failed e) → o.phase ≠ .opened →
    Answering link hello command q (opening o rest) read chosen
  | confirming (o : Opening) (rest read : Bytes) : q.command = .connect →
    Answering link hello command q (confirming o rest) read chosen
  | refusing {status : Socks.Status} (read : Bytes) : Answer link q closed (.refusal status) →
    Answering link hello command q (refusing status) read chosen
  | binding (read : Bytes) : q.command = .associate →
    Answering link hello command q binding read chosen
  | granting (a : Association) (bound : Endpoint) (read : Bytes) : q.command = .associate →
    Answering link hello command q (granting a bound) read chosen
  | settled {s : SocksSession} {reply : Socks.Reply} (read : Bytes) : s.IsSettled →
    Answer link q s reply → Answering link hello command q s read (chosen ++ reply.toBytes)
  /-- The target is a domain name that is not UTF-8. -/
  | unanswered (read : Bytes) : q.command = .connect →
    (∀ host, q.target.hostText ≠ .ok host) → Answering link hello command q closed read chosen

/-- How many events are left at most, heartbeats not counted, with `n` proxies to try. -/
def distance (hello command : Bytes) (n : Nat) : SocksSession → Nat
  | greeting buffer => (hello.length - buffer.length) + (command.length + n + 5)
  | choosing _ => command.length + n + 5
  | .command buffer => (command.length - buffer.length) + (n + 4)
  | opening o _ => o.phase.distance + 1
  | binding => 2
  | confirming _ _ | refusing _ | granting _ _ => 1
  | relaying _ | associated _ | closed => 0

variable {c : AgentContext} {link : ClientLink} {hello command read told : Bytes}
  {ms : List Socks.AuthMethod} {q : Socks.Request} {rs rs' : AgentRegistries}
  {s s' : SocksSession} {e : Event} {es : List Event} {effects : List AgentEffect}

/-- What is known of a tunnel tells where the session is. -/
theorem ofOpening_answering (link : ClientLink) (hello command : Bytes) (n : Nat)
    (hconnect : q.command = .connect) (o : Opening) (rest read : Bytes) :
    Answering link hello command q (ofOpening o rest) read chosen ∧
      (ofOpening o rest).distance hello command n ≤ o.phase.distance + 1 := by
  unfold ofOpening
  split
  · exact ⟨.refusing read (.failed (.inl hconnect)), Nat.le_add_left 1 _⟩
  · exact ⟨.confirming o rest read hconnect, Nat.le_add_left 1 _⟩
  · rename_i hfailed hopened
    exact ⟨.opening rest read hconnect hfailed hopened, Nat.le_refl _⟩

/-- A greeting of which octets have come is not wrong. -/
theorem greeted_answering (h : Socks.Speaks hello command ms q) (link : ClientLink) (n : Nat)
    {buffer : Bytes}
    (hagrees : (Handshake.socks hello command).Agrees buffer) :
    Answering link hello command q (greeted buffer) buffer [] ∧
      (greeted buffer).distance hello command n ≤
        (hello.length - buffer.length) + (command.length + n + 5) := by
  have hfront : buffer <+: hello ∨ hello <+: buffer := by
    rcases hagrees with hwithin | hbehind
    · exact List.prefix_or_prefix_of_prefix hwithin (List.prefix_append hello command)
    · exact .inr ((List.prefix_append hello command).trans hbehind)
  unfold greeted
  cases hscan : Socks.greeting buffer with
  | incomplete =>
    obtain ⟨hpart, hne⟩ := Socks.stable_greeting.prefix_of_incomplete h.hello hfront hscan
    exact ⟨.greeting hpart hne, Nat.le_refl _⟩
  | invalid e => exact absurd hscan (Socks.stable_greeting.ne_invalid h.hello hfront e)
  | complete ms' rest =>
    obtain ⟨-, rfl⟩ := Socks.stable_greeting.eq_append_of_complete h.hello hfront hscan
    exact ⟨.choosing rest, Nat.le_add_left _ _⟩

/-- A session that obeys a command is on the way to its answer, or has said all that it will say. -/
theorem obey_answering (link : ClientLink) (hello command : Bytes) (proxies : List ProxyAddress)
    (q : Socks.Request) (rest read : Bytes) :
    Answering link hello command q (obey link proxies q rest) read chosen ∧
      (obey link proxies q rest).distance hello command proxies.length ≤ proxies.length + 4 := by
  unfold obey
  cases hcommand : q.command with
  | connect =>
    cases hhost : q.target.hostText with
    | error e => exact ⟨.unanswered read hcommand (by simp [hhost]), Nat.zero_le _⟩
    | ok host =>
      obtain ⟨hanswering, hdistance⟩ := ofOpening_answering link hello command proxies.length
        hcommand (Opening.start link.id ⟨host, q.target.port⟩ true proxies) rest read
      exact ⟨hanswering, Nat.le_trans hdistance
        (Nat.add_le_add_right (Opening.distance_choose link.id proxies) 1)⟩
  | associate => exact ⟨.binding read hcommand, Nat.le_add_left 2 _⟩
  | bind =>
    exact ⟨.refusing read (.unsupported (by simp [hcommand]) (by simp [hcommand])),
      Nat.le_add_left 1 _⟩
  | unsupported octet =>
    exact ⟨.refusing read (.unsupported (by simp [hcommand]) (by simp [hcommand])),
      Nat.le_add_left 1 _⟩

/-- A command of which octets have come is not wrong. -/
theorem commanded_answering (h : Socks.Speaks hello command ms q) (link : ClientLink)
    (proxies : List ProxyAddress) {buffer : Bytes}
    (hagrees : (Handshake.socks hello command).Agrees (hello ++ buffer)) :
    Answering link hello command q (commanded link proxies buffer) (hello ++ buffer) chosen ∧
      (commanded link proxies buffer).distance hello command proxies.length ≤
        (command.length - buffer.length) + (proxies.length + 4) := by
  have hfront : buffer <+: command ∨ command <+: buffer := by
    rwa [Handshake.Agrees, Handshake.octets, List.prefix_append_right_inj,
      List.prefix_append_right_inj] at hagrees
  unfold commanded
  cases hscan : Socks.request buffer with
  | incomplete =>
    obtain ⟨hpart, hne⟩ := Socks.stable_request.prefix_of_incomplete h.command hfront hscan
    exact ⟨.command hpart hne, Nat.le_refl _⟩
  | invalid e => exact absurd hscan (Socks.stable_request.ne_invalid h.command hfront e)
  | complete q' rest =>
    obtain ⟨rfl, rfl⟩ := Socks.stable_request.eq_append_of_complete h.command hfront hscan
    obtain ⟨hanswering, hdistance⟩ :=
      obey_answering link hello command proxies q' rest (hello ++ (command ++ rest))
    exact ⟨hanswering, Nat.le_trans hdistance (Nat.le_add_left _ _)⟩

/-- An association is granted when nobody else's has its id. -/
theorem exists_granting (user : String) (hfree : rs.associations.get? link.id = none)
    (address : Endpoint) :
    ∃ rs' a, associate user link rs address = (rs', granting a address) := by
  obtain ⟨all', hcreate⟩ := Registry.exists_create hfree ⟨user, link.client, address⟩
  have htransit : Lifecycle.fresh.transit .idle .established = .ok ⟨.established, false⟩ := rfl
  exact ⟨_, _, by simp only [associate, hcreate, htransit]; rfl⟩

/-- With more octets of a part less is missing. -/
theorem length_sub_append_lt {part whole b : Bytes} (hpart : part <+: whole) (hne : part ≠ whole)
    (hb : b ≠ []) : whole.length - (part ++ b).length < whole.length - part.length := by
  have hlt := Bytes.length_lt_of_prefix hpart hne
  have hpos := List.length_pos_iff.mpr hb
  rw [List.length_append]
  omega

/-- **An event keeps a session on the way to its answer**, and leads on unless it is a heartbeat. -/
theorem Answering.step (h : Socks.Speaks hello command ms q)
    (hs : Answering link hello command q s read told) (hopen : ¬s.IsSettled)
    (hattended : e.Attended link rs)
    (hagrees : (Handshake.socks hello command).Agrees (read ++ e.octets))
    (hstep : s.step c link rs e = some (rs', s', effects)) :
    Answering link hello command q s' (read ++ e.octets) (told ++ AgentEffect.forClient effects) ∧
      s'.distance hello command c.proxies.length + (if e.isHeartbeat then 0 else 1) ≤
        s.distance hello command c.proxies.length := by
  cases hs with
  | greeting hpart hne =>
    cases e with
    | read b =>
      simp only [SocksSession.step] at hstep
      split at hstep
      · cases hstep
      · rename_i hb
        cases hstep
        change (Handshake.socks hello command).Agrees (read ++ b) at hagrees
        obtain ⟨hanswering, hdistance⟩ :=
          greeted_answering h link c.proxies.length hagrees
        have hless := length_sub_append_lt hpart hne hb
        refine ⟨hanswering, ?_⟩
        change (greeted (read ++ b)).distance hello command c.proxies.length + 1 ≤
          (hello.length - read.length) + (command.length + c.proxies.length + 5)
        omega
    | ended => exact hattended.elim
    | _ => cases hstep
  | choosing buffer =>
    cases e with
    | wrote success =>
      cases success with
      | true =>
        cases hstep
        have hread : hello ++ buffer ++ Event.octets (.wrote true) = hello ++ buffer :=
          List.append_nil _
        rw [hread] at hagrees ⊢
        obtain ⟨hanswering, hdistance⟩ := commanded_answering h link c.proxies hagrees
        refine ⟨hanswering, ?_⟩
        change (commanded link c.proxies buffer).distance hello command c.proxies.length + 1 ≤
          command.length + c.proxies.length + 5
        omega
      | false => exact hattended.elim
    | _ => cases hstep
  | @command buffer hpart hne =>
    cases e with
    | read b =>
      simp only [SocksSession.step] at hstep
      split at hstep
      · cases hstep
      · rename_i hb
        cases hstep
        have hread : hello ++ buffer ++ Event.octets (.read b) = hello ++ (buffer ++ b) :=
          List.append_assoc _ _ _
        rw [hread] at hagrees ⊢
        obtain ⟨hanswering, hdistance⟩ := commanded_answering h link c.proxies hagrees
        have hless := length_sub_append_lt hpart hne hb
        refine ⟨hanswering, ?_⟩
        change (commanded link c.proxies (buffer ++ b)).distance hello command c.proxies.length + 1
          ≤ (command.length - buffer.length) + (c.proxies.length + 4)
        omega
    | ended => exact hattended.elim
    | _ => cases hstep
  | @opening o rest _ hconnect hfailed hopened =>
    cases e with
    | opening e =>
      obtain ⟨⟨o', es'⟩, hopening, heq⟩ := Option.bind_eq_some_iff.mp hstep
      cases heq
      obtain ⟨-, hclient, -⟩ := Opening.step_quiet hopening
      obtain ⟨hanswering, hdistance⟩ := ofOpening_answering link hello command c.proxies.length
        hconnect o' rest (read ++ Event.octets (.opening e))
      rw [hclient, List.append_nil]
      refine ⟨hanswering, ?_⟩
      change (ofOpening o' rest).distance hello command c.proxies.length +
        (if e.isHeartbeat then 0 else 1) ≤ o.phase.distance + 1
      by_cases hbeat : e.isHeartbeat = true
      · rw [Opening.step_of_isHeartbeat hopening hbeat] at hdistance ⊢
        rwa [if_pos hbeat]
      · have hless := Opening.distance_of_step hopening (by simpa using hbeat)
        rw [if_neg hbeat]
        omega
    | _ => cases hstep
  | confirming o rest _ hconnect =>
    cases e with
    | wrote success =>
      cases success with
      | true =>
        simp only [SocksSession.step, Option.some.injEq, Prod.mk.injEq] at hstep
        obtain ⟨-, rfl, rfl⟩ := hstep
        rw [Relay.forClient_cons_start]
        exact ⟨.settled _ trivial (.connected _ hconnect), Nat.le_refl _⟩
      | false => exact hattended.elim
    | _ => cases hstep
  | refusing _ hanswer =>
    cases e with
    | wrote success =>
      cases success with
      | true =>
        cases hstep
        exact ⟨.settled _ trivial hanswer, Nat.le_refl _⟩
      | false => exact hattended.elim
    | _ => cases hstep
  | binding _ hassociate =>
    cases e with
    | bound address =>
      cases address with
      | none =>
        cases hstep
        exact ⟨.refusing _ (.failed (.inr hassociate)), Nat.le_refl _⟩
      | some address =>
        obtain ⟨rs₁, a, hgranting⟩ := exists_granting c.userToken hattended address
        simp only [SocksSession.step, hgranting, Option.some.injEq, Prod.mk.injEq] at hstep
        obtain ⟨-, rfl, rfl⟩ := hstep
        exact ⟨.granting a address _ hassociate, Nat.le_refl _⟩
    | _ => cases hstep
  | granting a bound _ hassociate =>
    cases e with
    | wrote success =>
      cases success with
      | true =>
        cases hstep
        rw [AgentEffect.forClient_cons_toClient, show AgentEffect.forClient [] = [] from rfl,
          List.append_nil]
        exact ⟨.settled _ trivial (.associated a bound hassociate), Nat.le_refl _⟩
      | false => exact hattended.elim
    | _ => cases hstep
  | settled _ hsettled _ => exact absurd hsettled hopen
  | unanswered _ _ _ => exact absurd trivial hopen

/-- The events in which no heartbeat is read. -/
def others (es : List Event) : List Event := es.filter (!·.isHeartbeat)

/-- **Whatever happens keeps a session on the way to its answer**, and each event but the heartbeats
has its share of the way. -/
theorem Attends.answering (h : Socks.Speaks hello command ms q)
    (hrun : Attends c link hello command es s read told) :
    Answering link hello command q s read told ∧
      (others es).length + s.distance hello command c.proxies.length ≤
        hello.length + command.length + c.proxies.length + 5 := by
  induction hrun with
  | start =>
    have hpart : ([] : Bytes) <+: hello := List.nil_prefix
    have hne : [] ≠ hello := by
      rintro rfl
      cases h.hello
    refine ⟨.greeting hpart hne, ?_⟩
    change 0 + ((hello.length - 0) + (command.length + c.proxies.length + 5)) ≤ _
    omega
  | @step es s s' read told rs rs' e effects _ hopen hattended hagrees hstep ih =>
    obtain ⟨hs, hleft⟩ := ih
    obtain ⟨hanswering, hless⟩ := hs.step h hopen hattended hagrees hstep
    refine ⟨hanswering, ?_⟩
    have hcount : (others (es ++ [e])).length =
        (others es).length + (if e.isHeartbeat then 0 else 1) := by
      cases he : e.isHeartbeat <;> simp [others, he]
    rw [hcount]
    omega

theorem Attends.agrees (hrun : Attends c link hello command es s read told) :
    (Handshake.socks hello command).Agrees read := by
  cases hrun with
  | start => exact .inl List.nil_prefix
  | step _ _ _ hagrees _ => exact hagrees

/-- **A session that has not settled is never stuck.** -/
theorem Answering.exists_step (hs : Answering link hello command q s read told)
    (hopen : ¬s.IsSettled) (hfree : rs.associations.get? link.id = none)
    (hagrees : (Handshake.socks hello command).Agrees read) (c : AgentContext) :
    ∃ e next, e.Attended link rs ∧ e.isHeartbeat = false ∧
      (Handshake.socks hello command).Agrees (read ++ e.octets) ∧
      s.step c link rs e = some next := by
  have hquiet : (Handshake.socks hello command).Agrees (read ++ []) := by rwa [List.append_nil]
  cases hs with
  | greeting hpart hne =>
    obtain ⟨missing, hmissing, rfl⟩ := Bytes.exists_missing hpart hne
    exact ⟨.read missing, _, trivial, rfl, .inl (List.prefix_append _ command), if_neg hmissing⟩
  | choosing buffer => exact ⟨.wrote true, _, trivial, rfl, hquiet, rfl⟩
  | @command buffer hpart hne =>
    obtain ⟨missing, hmissing, rfl⟩ := Bytes.exists_missing hpart hne
    refine ⟨.read missing, _, trivial, rfl, .inl ?_, if_neg hmissing⟩
    exact (List.append_assoc hello buffer missing).symm ▸ List.prefix_rfl
  | @opening o rest _ hconnect hfailed hopened =>
    obtain ⟨e, next, hbeat, hstep⟩ := Opening.exists_step c.userToken hfailed hopened
    exact ⟨.opening e, _, trivial, hbeat, hquiet, Option.bind_eq_some_iff.mpr ⟨_, hstep, rfl⟩⟩
  | confirming o rest _ hconnect => exact ⟨.wrote true, _, trivial, rfl, hquiet, rfl⟩
  | refusing _ hanswer => exact ⟨.wrote true, _, trivial, rfl, hquiet, rfl⟩
  | binding _ hassociate => exact ⟨.bound none, _, hfree, rfl, hquiet, rfl⟩
  | granting a bound _ hassociate => exact ⟨.wrote true, _, trivial, rfl, hquiet, rfl⟩
  | settled _ hsettled _ => exact absurd hsettled hopen
  | unanswered _ _ _ => exact absurd trivial hopen

/-! ## The answer -/

/-- A client that sends `hello` and `command` and stays connected has one answer. -/
structure AnswersOnce (c : AgentContext) (link : ClientLink) (hello command : Bytes)
    (q : Socks.Request) : Prop where
  /-- By its first octet it is taken for a client that speaks SOCKS. -/
  begins : AgentSession.ofFirst hello.head? = .socks .start
  /-- Until its session has settled it is told nothing but that it needs no authentication. -/
  before : ∀ {es s read told}, Attends c link hello command es s read told → ¬s.IsSettled →
    told = [] ∨ told = chosen
  /-- When it has settled the client has been told this and one reply to its command. -/
  answered : ∀ {es s read told}, Attends c link hello command es s read told → s.IsSettled →
    ∃ reply, Answer link q s reply ∧ told = chosen ++ reply.toBytes
  /-- Before that there is always something that can happen next. -/
  goesOn : ∀ {es s read told} {rs : AgentRegistries},
    Attends c link hello command es s read told → ¬s.IsSettled →
      rs.associations.get? link.id = none → ∃ e next, e.Attended link rs ∧ e.isHeartbeat = false ∧
        (Handshake.socks hello command).Agrees (read ++ e.octets) ∧
        s.step c link rs e = some next
  /-- And not much more can happen than octets come and proxies are tried. -/
  soon : ∀ {es s read told}, Attends c link hello command es s read told →
    (others es).length ≤ hello.length + command.length + c.proxies.length + 5

/-- A target that is no text is never connected, and the client is not told. -/
theorem exists_unanswered (h : Socks.Speaks hello command ms q) (c : AgentContext)
    (link : ClientLink) (hconnect : q.command = .connect)
    (hhost : ∀ host, q.target.hostText ≠ .ok host) :
    ∃ es, Attends c link hello command es closed (hello ++ command) chosen := by
  let rs : AgentRegistries := ⟨.empty, .empty⟩
  have hhello : hello ≠ [] := by
    rintro rfl
    cases h.hello
  have hcommand : command ≠ [] := by
    rintro rfl
    cases h.command
  have hgreeted : start.step c link rs (.read hello) = some (rs, choosing [], []) := by
    simp only [start, step, hhello, if_false, List.nil_append, greeted, h.hello]
  have hchosen : (choosing []).step c link rs (.wrote true) =
      some (rs, SocksSession.command [], [.toClient chosen]) := rfl
  have hclosed : (SocksSession.command []).step c link rs (.read command) =
      some (rs, closed, []) := by
    simp only [step, hcommand, if_false, List.nil_append, commanded, h.command, obey, hconnect]
    split
    · rfl
    · rename_i host hok
      exact absurd hok (hhost host)
  have hread : hello ++ Event.octets (.wrote true) = hello := List.append_nil hello
  have hstart : Attends c link hello command [.read hello] (choosing []) hello [] :=
    Attends.start.step (e := .read hello) id trivial (.inl (List.prefix_append hello command))
      hgreeted
  have htold : Attends c link hello command [.read hello, .wrote true] (SocksSession.command [])
      hello chosen := by
    have hstep := hstart.step (e := .wrote true) id trivial
      (.inl (hread.symm ▸ List.prefix_append hello command)) hchosen
    rwa [hread] at hstep
  have hrun : Attends c link hello command [.read hello, .wrote true, .read command] closed
      (hello ++ command) chosen :=
    htold.step (e := .read command) id trivial (.inl List.prefix_rfl) hclosed
  exact ⟨_, hrun⟩

/-- **A command is answered exactly once**, unless it is to connect to a domain name that is not
UTF-8. -/
theorem answersOnce_iff (h : Socks.Speaks hello command ms q) (c : AgentContext)
    (link : ClientLink) :
    AnswersOnce c link hello command q ↔
      (q.command = .connect → ∃ host, q.target.hostText = .ok host) := by
  constructor
  · intro hanswers hconnect
    by_contra hnone
    obtain ⟨es, hrun⟩ := exists_unanswered h c link hconnect (not_exists.mp hnone)
    obtain ⟨reply, -, htold⟩ := hanswers.answered hrun trivial
    have hlength := congrArg List.length htold
    simp [Socks.Reply.toBytes] at hlength
  · intro hhost
    refine ⟨?_, fun hrun hopen => ?_, fun hrun hsettled => ?_, fun hrun hopen hfree => ?_,
      fun hrun => ?_⟩
    · rw [Socks.head?_of_greeting h.hello]
      rfl
    · cases (hrun.answering h).1 with
      | greeting _ _ => exact .inl rfl
      | choosing _ => exact .inl rfl
      | settled _ hsettled _ => exact absurd hsettled hopen
      | _ => exact .inr rfl
    · cases (hrun.answering h).1 with
      | settled _ _ hanswer => exact ⟨_, hanswer, rfl⟩
      | unanswered _ hconnect hnone =>
        obtain ⟨host, hok⟩ := hhost hconnect
        exact absurd hok (hnone host)
      | _ => exact hsettled.elim
    · exact (hrun.answering h).1.exists_step hopen hfree hrun.agrees c
    · exact Nat.le_trans (Nat.le_add_right _ _) (hrun.answering h).2

/-- A client that greets with one method and commands to connect to an address is answered. -/
theorem address_answersOnce :
    Socks.Speaks [5, 1, 0] [5, 1, 0, 1, 127, 0, 0, 1, 0, 80] [.noAuthentication]
        ⟨.connect, .ofIp (.v4 ⟨127, 0, 0, 1⟩) 80⟩ ∧
      AnswersOnce Association.oneProxy Association.localLink [5, 1, 0]
        [5, 1, 0, 1, 127, 0, 0, 1, 0, 80] ⟨.connect, .ofIp (.v4 ⟨127, 0, 0, 1⟩) 80⟩ := by
  have hspeaks : Socks.Speaks [5, 1, 0] [5, 1, 0, 1, 127, 0, 0, 1, 0, 80] [.noAuthentication]
      ⟨.connect, .ofIp (.v4 ⟨127, 0, 0, 1⟩) 80⟩ := ⟨by decide, by decide⟩
  refine ⟨hspeaks, (answersOnce_iff hspeaks _ _).mpr fun _ => ⟨"127.0.0.1", ?_⟩⟩
  rfl

/-- A command to connect to a domain name that is not UTF-8. -/
def nameless : Bytes := [5, 1, 0, 3, 2, 0xff, 0xfe, 1, 0xbb]

/-- The connection is closed without an answer. -/
theorem nameless_unanswered :
    Socks.Speaks [5, 1, 0] nameless [.noAuthentication]
        ⟨.connect, ⟨.domain, [0xff, 0xfe], 443⟩⟩ ∧
      (∃ es, Attends Association.oneProxy Association.localLink [5, 1, 0] nameless es closed
        ([5, 1, 0] ++ nameless) [5, 0]) ∧
      ¬AnswersOnce Association.oneProxy Association.localLink [5, 1, 0] nameless
        ⟨.connect, ⟨.domain, [0xff, 0xfe], 443⟩⟩ := by
  have hspeaks : Socks.Speaks [5, 1, 0] nameless [.noAuthentication]
      ⟨.connect, ⟨.domain, [0xff, 0xfe], 443⟩⟩ := ⟨by decide, by decide⟩
  have hhost : ∀ host, (⟨.domain, [0xff, 0xfe], 443⟩ : Socks.Address).hostText ≠ .ok host := by
    intro host h
    have herror : (⟨.domain, [0xff, 0xfe], 443⟩ : Socks.Address).hostText.isOk = false := by
      decide +kernel
    rw [h] at herror
    cases herror
  have hrun := exists_unanswered hspeaks Association.oneProxy Association.localLink rfl hhost
  refine ⟨hspeaks, hrun, fun hanswers => ?_⟩
  obtain ⟨es, hrun⟩ := hrun
  obtain ⟨reply, -, htold⟩ := hanswers.answered hrun trivial
  cases htold

end SocksSession

end TunnelRelay
