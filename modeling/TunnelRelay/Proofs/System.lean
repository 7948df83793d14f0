import TunnelRelay.Proofs.Agent.Ledger
import TunnelRelay.Proofs.Proxy.Passage

/-!
# Transparency

Between a client that has asked for an opaque stream and its target stand an agent, a tunnel and a
proxy, and each of them passes octets on in order. The invariant lines their accounts up: what the
agent has passed on is what the proxy has taken out of the tunnel and, behind that, what is still in
it, and so in the other direction. So whatever the order of events, the target receives a part from
the front of what the client has sent behind its handshake, the client receives a part from the
front of what the target has said, and what is missing is on its way as long as nobody has ended the
direction.
-/

namespace TunnelRelay.System

variable {w : Setting} {h : Handshake} {s t : System}

/-- **What a client and its target see of each other.** -/
structure IsTransparent (w : Setting) (h : Handshake) (s : System) : Prop where
  /-- The target has received nothing but what the client has sent behind its handshake. -/
  up : s.atTarget <+: s.client.sent.drop h.octets.length
  /-- The client has received nothing behind the reply but what the target has said. -/
  down : ∀ x, s.atClient = h.reply w.link ++ x → x <+: s.target.sent
  /-- As long as neither end has ended the direction, all that the client has sent is, in this
  order, taken as its handshake, at the target, at the proxy, in the tunnel, at the agent, or not
  read. -/
  upWhole : ∀ {u v}, s.agent.unsent = some u → s.proxy.undelivered = some v →
    s.client.sent =
      s.agent.taken h ++ s.atTarget ++ v ++ Body.stream .tcpData s.up ++ u ++ s.client.unread
  /-- As long as neither end has ended the direction, all that the target has said is, in this
  order, at the client behind what the agent has told it, at the agent, in the tunnel, at the proxy,
  or not read. -/
  downWhole : ∀ {u v}, s.proxy.unsent = some u → s.agent.undelivered = some v →
    ∃ x, s.atClient = s.agent.told w.link ++ x ∧
      s.target.sent = x ++ v ++ Body.stream .okTcp s.down ++ u ++ s.target.unread

/-- How the accounts of both ends fit: what the agent has read from the client, what the proxy has
taken out of the tunnel, what the proxy has read from the target, and what the agent has taken out
of the tunnel. -/
structure Balances (w : Setting) (h : Handshake) (read taken said heard : Bytes) (s : System) :
    Prop where
  client : s.client.sent = read ++ s.client.unread
  agent : s.agent.Carries w.link h read (taken ++ Body.stream .tcpData s.up) heard s.atClient
  proxyUp : Passes s.proxy.undelivered taken s.atTarget
  target : s.target.sent = said ++ s.target.unread
  proxyDown : Passes s.proxy.unsent said (heard ++ Body.stream .okTcp s.down)

/-! ## One event -/

/-- What an event of the agent takes and puts where. -/
theorem eq_of_agentMoves {e : AgentSession.Event} (hmove : s.agentMoves w e = some t) :
    s.client.shows e.sees ∧ ∃ client down registries agent effects,
      s.client.get? e.reads = some client ∧ takeNext s.down e.receives = some down ∧
        s.agent.step w.agent w.link s.agentRegistries e = some (registries, agent, effects) ∧
        t = { s with
          agent, agentRegistries := registries, client, down
          atClient := s.atClient ++ AgentEffect.forClient effects
          up := s.up ++ AgentEffect.messages effects } := by
  unfold agentMoves at hmove
  split at hmove
  · cases hmove
  · rename_i hshows
    simp only [bind, pure, Option.bind_eq_some_iff, Option.some.injEq] at hmove
    obtain ⟨client, hclient, down, hdown, ⟨registries, agent, effects⟩, hstep, rfl⟩ := hmove
    exact ⟨by simpa using hshows, client, down, registries, agent, effects, hclient, hdown, hstep,
      rfl⟩

/-- What an event of the proxy takes and puts where. -/
theorem eq_of_proxyMoves {e : ProxySession.Event} (hmove : s.proxyMoves w e = some t) :
    ∃ target up registries proxy effects,
      s.target.get? e.reads = some target ∧ takeNext s.up e.receives = some up ∧
        s.proxy.step w.proxy w.id s.proxyRegistries e = some (registries, proxy, effects) ∧
        t = { s with
          proxy, proxyRegistries := registries, target, up
          atTarget := s.atTarget ++ ProxyEffect.forTarget effects
          down := s.down ++ ProxyEffect.messages effects } := by
  unfold proxyMoves at hmove
  simp only [bind, pure, Option.bind_eq_some_iff, Option.some.injEq] at hmove
  obtain ⟨target, htarget, up, hup, ⟨registries, proxy, effects⟩, hstep, rfl⟩ := hmove
  exact ⟨target, up, registries, proxy, effects, htarget, hup, hstep, rfl⟩

variable {read taken said heard : Bytes}

/-- An event of the agent keeps the accounts. -/
theorem Balances.agentMoves (hcomplete : h.IsComplete) {e : AgentSession.Event}
    (hmove : s.agentMoves w e = some t) (hs : Balances w h read taken said heard s)
    (hagrees : h.Agrees s.client.sent) :
    ∃ read heard, Balances w h read taken said heard t := by
  obtain ⟨hshows, client, down, registries, agent, effects, hclient, hdown, hstep, rfl⟩ :=
    eq_of_agentMoves hmove
  obtain ⟨hsent, hunread⟩ := Pipe.eq_of_get? hclient
  have hqueue := eq_of_takeNext hdown
  have hall : s.client.sent = read ++ e.reads.getD [] ++ client.unread := by
    rw [hs.client, hunread, List.append_assoc]
  -- what has been read agrees with the handshake because all that was sent does
  have hread : h.Agrees (read ++ e.reads.getD []) := hagrees.mono ⟨client.unread, hall.symm⟩
  -- the first octet is looked at before anything has been read
  have hsees : read = [] → ∀ octet, e.sees = some octet → h.octets.head? = some octet := by
    intro hnone octet hoctet
    rw [hoctet] at hshows
    simp only [Pipe.shows, decide_eq_true_eq] at hshows
    obtain ⟨rest, hrest⟩ := List.head?_eq_some_iff.mp hshows
    rw [hs.client, hnone, hrest] at hagrees
    exact hagrees.head? hcomplete
  have hagent := AgentSession.step_carries hcomplete hstep hs.agent hread hsees
  refine ⟨read ++ e.reads.getD [], heard ++ Body.stream .okTcp (Received.bodies e.receives), ?_⟩
  exact {
    client := by rw [hsent]; exact hall
    agent := by
      rw [Body.stream_append, ← List.append_assoc]
      exact hagent
    proxyUp := hs.proxyUp
    target := hs.target
    proxyDown := by
      have hproxy := hs.proxyDown
      rw [hqueue, Body.stream_append, ← List.append_assoc] at hproxy
      exact hproxy }

/-- An event of the proxy keeps the accounts. -/
theorem Balances.proxyMoves {e : ProxySession.Event} (hmove : s.proxyMoves w e = some t)
    (hs : Balances w h read taken said heard s) :
    ∃ taken said, Balances w h read taken said heard t := by
  obtain ⟨target, up, registries, proxy, effects, htarget, hup, hstep, rfl⟩ :=
    eq_of_proxyMoves hmove
  obtain ⟨hsent, hunread⟩ := Pipe.eq_of_get? htarget
  have hqueue := eq_of_takeNext hup
  obtain ⟨hproxyUp, hproxyDown⟩ := ProxySession.step_passes hstep hs.proxyUp hs.proxyDown
  refine ⟨taken ++ Body.stream .tcpData (Received.bodies e.receives), said ++ e.reads.getD [], ?_⟩
  exact {
    client := hs.client
    agent := by
      have hagent := hs.agent
      rw [hqueue, Body.stream_append, ← List.append_assoc] at hagent
      exact hagent
    proxyUp := hproxyUp
    target := by rw [hsent, hs.target, hunread, List.append_assoc]
    proxyDown := by
      rw [Body.stream_append, ← List.append_assoc]
      exact hproxyDown }

/-- Any event keeps the accounts. -/
theorem Balances.step (hcomplete : h.IsComplete) (hstep : Step w s t)
    (hs : Balances w h read taken said heard s)
    (hagrees : h.Agrees s.client.sent) :
    ∃ read taken said heard, Balances w h read taken said heard t := by
  cases hstep with
  | client b =>
    have hclient : s.client.sent ++ b = read ++ (s.client.unread ++ b) := by
      rw [hs.client, List.append_assoc]
    exact ⟨read, taken, said, heard, { hs with client := hclient }⟩
  | target b =>
    have htarget : s.target.sent ++ b = said ++ (s.target.unread ++ b) := by
      rw [hs.target, List.append_assoc]
    exact ⟨read, taken, said, heard, { hs with target := htarget }⟩
  | agent e hmove =>
    obtain ⟨read, heard, ht⟩ := hs.agentMoves hcomplete hmove hagrees
    exact ⟨read, taken, said, heard, ht⟩
  | proxy e hmove =>
    obtain ⟨taken, said, ht⟩ := hs.proxyMoves hmove
    exact ⟨read, taken, said, heard, ht⟩

/-- What a client has sent, it has sent. -/
theorem sent_prefix_of_step (hstep : Step w s t) : s.client.sent <+: t.client.sent := by
  cases hstep with
  | client b => exact List.prefix_append s.client.sent b
  | target b => exact List.prefix_rfl
  | agent e hmove =>
    obtain ⟨-, client, down, registries, agent, effects, hclient, -, -, rfl⟩ :=
      eq_of_agentMoves hmove
    rw [(Pipe.eq_of_get? hclient).1]
  | proxy e hmove =>
    obtain ⟨target, up, registries, proxy, effects, -, -, -, rfl⟩ := eq_of_proxyMoves hmove
    exact List.prefix_rfl

/-! ## Any number of events -/

/-- Whatever happens keeps the accounts. -/
theorem exists_balances {agentRegistries : AgentRegistries} {proxyRegistries : ProxyRegistries}
    (hcomplete : h.IsComplete) (hreaches : Reaches w (start agentRegistries proxyRegistries) s)
    (hagrees : h.Agrees s.client.sent) :
    ∃ read taken said heard, Balances w h read taken said heard s := by
  -- induction on the events: there always are accounts that balance
  induction hreaches with
  | refl =>
    exact ⟨[], [], [], [], {
      client := rfl, agent := .fresh h, proxyUp := rfl, target := rfl, proxyDown := rfl }⟩
  | step hreaches hstep ih =>
    have hagrees' := hagrees.mono (sent_prefix_of_step hstep)
    obtain ⟨read, taken, said, heard, hs⟩ := ih hagrees'
    exact hs.step hcomplete hstep hagrees'

/-- Accounts that fit leave no room for any other octets. -/
theorem Balances.isTransparent (hs : Balances w h read taken said heard s) :
    s.IsTransparent w h := by
  have hledger := hs.agent.ledger
  have htaken := hs.proxyUp.isPrefix
  -- what the agent has taken out is in front of what is still in the tunnel
  have hheard : heard <+: s.target.sent := by
    obtain ⟨rest, hrest⟩ := hs.proxyDown.isPrefix
    exact ⟨Body.stream .okTcp s.down ++ rest ++ s.target.unread, by
      rw [hs.target, ← hrest]; simp [List.append_assoc]⟩
  exact {
    up := by
      have hsent : read.drop h.octets.length <+: s.client.sent.drop h.octets.length := by
        rw [hs.client]
        exact List.IsPrefix.drop (List.prefix_append _ _) _
      exact ((htaken.trans (List.prefix_append taken _)).trans hledger.behind).trans hsent
    down := fun x hx => (hledger.afterReply x hx).trans hheard
    upWhole := by
      intro u v hu hv
      -- both legs run, so both accounts are equations and can be put one into the other
      have hagent := hledger.up
      have hproxy := hs.proxyUp
      rw [hu] at hagent
      rw [hv] at hproxy
      rw [hs.client, ← show _ = read from hagent, ← show _ = taken from hproxy]
      simp [List.append_assoc]
    downWhole := by
      intro u v hu hv
      obtain ⟨x, hx, hv⟩ := hledger.down v hv
      have hproxy := hs.proxyDown
      rw [hu] at hproxy
      refine ⟨x, hx, ?_⟩
      rw [hs.target, ← show _ = said from hproxy, ← hv] }

/-! ## Runs -/

/-- One event anywhere, by name. -/
inductive Event where
  | client (b : Bytes)
  | target (b : Bytes)
  | agent (e : AgentSession.Event)
  | proxy (e : ProxySession.Event)

/-- What a sequence of events leads to; nothing when one of them is not possible. -/
def run (w : Setting) (s : System) : List Event → Option System
  | [] => some s
  | .client b :: es => run w { s with client := s.client.put b } es
  | .target b :: es => run w { s with target := s.target.put b } es
  | .agent e :: es => (s.agentMoves w e).bind (run w · es)
  | .proxy e :: es => (s.proxyMoves w e).bind (run w · es)

theorem reaches_of_run {r : System} {es : List Event} (hs : Reaches w r s)
    (hrun : run w s es = some t) : Reaches w r t := by
  induction es generalizing s with
  | nil =>
    cases hrun
    exact hs
  | cons e es ih =>
    cases e with
    | client b => exact ih (hs.step (.client b)) hrun
    | target b => exact ih (hs.step (.target b)) hrun
    | agent e =>
      obtain ⟨s', hmove, hrest⟩ := Option.bind_eq_some_iff.mp hrun
      exact ih (hs.step (.agent e hmove)) hrest
    | proxy e =>
      obtain ⟨s', hmove, hrest⟩ := Option.bind_eq_some_iff.mp hrun
      exact ih (hs.step (.proxy e hmove)) hrest

/-- A client, an agent and a proxy on one machine. -/
def loopback : Setting where
  agent := {
    userToken := "user", proxies := [⟨"127.0.0.1", 80⟩], proxyConnectTimeout := 20
    responseTimeout := 60, limits := ⟨false, 1024⟩, pieceSize := 16, retry := .default
    idle := ⟨none, none, none⟩ }
  link := ⟨"link", ⟨.v4 ⟨127, 0, 0, 1⟩, 9⟩, ⟨.v4 ⟨127, 0, 0, 1⟩, 10⟩⟩
  proxy := {
    limits := ⟨false, 1024⟩, pieceSize := 16, targetConnectTimeout := 20, initTimeout := 60
    retry := .default, idle := ⟨none, none, none⟩ }
  id := "tunnel"

/-- A client greets and commands, and its first octet comes glued to the command. -/
def exchange : List Event :=
  let target : Target := ⟨"127.0.0.1", 80⟩
  let host := target.host
  [.client [5, 1], .agent (.first (some 5)), .agent (.socks (.read [5])), .client [0],
   .agent (.socks (.read [1, 0])), .agent (.socks (.wrote true)),
   .client [5, 1, 0, 1, 127, 0, 0, 1, 0, 80, 71], .agent (.socks (.read [5, 1, 0])),
   .agent (.socks (.read [1, 127, 0, 0, 1, 0, 80, 71])),
   .agent (.socks (.opening (.tried true))), .agent (.socks (.opening (.sent "a" .done))),
   .proxy (.received (.body (Body.connect "a" "user" host 80 true))),
   .proxy (.connected [] (some ⟨.v4 ⟨127, 0, 0, 1⟩, 80⟩)), .proxy (.relay (.sent "b" .done)),
   .agent (.socks (.opening (.received (.body (Body.connectSuccess "b" "user" host 80))))),
   .agent (.socks (.wrote true)), .agent (.socks (.relay (.sent "c" .done))), .target [72, 73],
   .proxy (.relay (.down (.read [72]))), .proxy (.relay (.down (.sent "d" .done))),
   .proxy (.relay (.up (.received (.body (Body.tcpData "c" "user" host 80 [71]))))),
   .proxy (.relay (.up (.wrote [] []))),
   .agent (.socks (.relay (.down (.received (.body (Body.okTcp "d" "user" host 80 [72])))))),
   .agent (.socks (.relay (.down (.wrote [] []))))]

/-! ## The theorem -/

/-- **The relay is transparent end to end.** Whatever the order of events, the cuts of the streams
and the heartbeats: as long as what the client sends begins with a complete handshake, its target
receives what it sends behind the handshake, and it receives what the target says. -/
theorem reaches_transparent {agentRegistries : AgentRegistries}
    {proxyRegistries : ProxyRegistries} (hcomplete : h.IsComplete)
    (hreaches : Reaches w (start agentRegistries proxyRegistries) s)
    (hagrees : h.Agrees s.client.sent) :
    s.IsTransparent w h := by
  obtain ⟨read, taken, said, heard, hs⟩ := exists_balances hcomplete hreaches hagrees
  exact hs.isTransparent

theorem exchange_transparent :
    ∃ s, Reaches loopback (start ⟨.empty, .empty⟩ ⟨.empty, .empty⟩) s ∧ s.atTarget = [71] ∧
      s.atClient = (Handshake.socks [5, 1, 0] [5, 1, 0, 1, 127, 0, 0, 1, 0, 80]).reply
        loopback.link ++ [72] ∧
      s.IsTransparent loopback (.socks [5, 1, 0] [5, 1, 0, 1, 127, 0, 0, 1, 0, 80]) := by
  have houtcome : (run loopback (start ⟨.empty, .empty⟩ ⟨.empty, .empty⟩) exchange).map
      (fun s => (s.atTarget, s.atClient, s.client.sent)) =
      some ([71], [5, 0, 5, 0, 0, 1, 127, 0, 0, 1, 0, 10, 72],
        [5, 1, 0, 5, 1, 0, 1, 127, 0, 0, 1, 0, 80, 71]) := by
    decide +kernel
  obtain ⟨s, hrun, heq⟩ := Option.map_eq_some_iff.mp houtcome
  simp only [Prod.mk.injEq] at heq
  obtain ⟨htarget, hclient, hsent⟩ := heq
  have hreaches := reaches_of_run Reaches.refl hrun
  refine ⟨s, hreaches, htarget, by rw [hclient]; decide +kernel, ?_⟩
  refine reaches_transparent ⟨⟨[.noAuthentication], ?_⟩, ⟨.connect, ⟨.v4, [127, 0, 0, 1], 80⟩⟩, ?_,
    rfl⟩ hreaches ?_
  · decide +kernel
  · decide +kernel
  · rw [hsent]
    exact Or.inr ⟨[71], rfl⟩

end TunnelRelay.System
