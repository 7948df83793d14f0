import TunnelRelay.Http.Reading
import TunnelRelay.Proofs.Agent.Handshake
import TunnelRelay.Proofs.Agent.Passage

/-!
# The session of a client with an opaque stream

Until its relay starts, a session holds all octets that came behind the handshake, and it has told
the client nothing but the replies of the handshake. From then on it carries what its relay carries.
-/

namespace TunnelRelay

namespace AgentSession.Event

@[simp] theorem reads_socks_relay (e : Relay.Event) : reads (.socks (.relay e)) = e.reads := by
  cases e with
  | up e => cases e <;> rfl
  | _ => rfl

@[simp] theorem reads_http_relay (e : Relay.Event) : reads (.http (.relay e)) = e.reads := by
  cases e with
  | up e => cases e <;> rfl
  | _ => rfl

@[simp] theorem receives_socks_relay (e : Relay.Event) :
    receives (.socks (.relay e)) = e.receives := by
  cases e with
  | down e => cases e <;> rfl
  | _ => rfl

@[simp] theorem receives_http_relay (e : Relay.Event) :
    receives (.http (.relay e)) = e.receives := by
  cases e with
  | down e => cases e <;> rfl
  | _ => rfl

@[simp] theorem receives_socks_opening (e : Opening.Event) :
    receives (.socks (.opening e)) = e.receives := by
  cases e <;> rfl

@[simp] theorem receives_http_opening (e : Opening.Event) :
    receives (.http (.opening e)) = e.receives := by
  cases e <;> rfl

end AgentSession.Event

/-! ## A client that speaks SOCKS -/

namespace SocksSession

/-- What the client is told of its greeting. -/
abbrev chosen : Bytes := Socks.choice .noAuthentication

/-- What a session has read from a client that sends a greeting and a command to connect, what it
has passed on to the proxy, what it has taken out of the tunnel and what it has written to the
client. -/
inductive Carries (hello command : Bytes) (link : ClientLink) :
    SocksSession → Bytes → Bytes → Bytes → Bytes → Prop
  | greeting (buffer : Bytes) : Carries hello command link (greeting buffer) buffer [] [] []
  | choosing (buffer : Bytes) :
    Carries hello command link (choosing buffer) (hello ++ buffer) [] [] []
  | command (buffer : Bytes) :
    Carries hello command link (.command buffer) (hello ++ buffer) [] [] chosen
  | opening (o : Opening) (rest : Bytes) :
    Carries hello command link (opening o rest) (hello ++ command ++ rest) [] [] chosen
  | confirming (o : Opening) (rest : Bytes) :
    Carries hello command link (confirming o rest) (hello ++ command ++ rest) [] [] chosen
  | refusing {status : Socks.Status} (read consumed : Bytes) : status ≠ .succeeded →
    Carries hello command link (refusing status) read [] consumed chosen
  | relaying {r : Relay} {read passed consumed delivered : Bytes} :
    r.phase.Carries read passed consumed delivered →
    Carries hello command link (relaying r) (hello ++ command ++ read) passed consumed
      (chosen ++ grant link.own ++ delivered)
  /-- Nobody who is not relayed is told that the target is connected. -/
  | closed {written : Bytes} (read consumed : Bytes) : ¬chosen ++ grant link.own <+: written →
    Carries hello command link closed read [] consumed written

variable {hello command read passed consumed written : Bytes} {link : ClientLink}

/-- A reply that offers an address is not the one that the client was told before. -/
theorem not_grant_prefix_nil : ¬chosen ++ grant link.own <+: [] := by
  intro h
  cases List.prefix_nil.mp h

theorem not_grant_prefix_chosen : ¬chosen ++ grant link.own <+: chosen := by
  intro h
  have hlength := h.length_le
  simp [chosen, Socks.choice, grant, Socks.Reply.toBytes] at hlength

theorem not_grant_prefix_refusal {status : Socks.Status} (h : status ≠ .succeeded) :
    ¬chosen ++ grant link.own <+: chosen ++ (Socks.Reply.refusal status).toBytes := by
  rw [List.prefix_append_right_inj]
  intro hpart
  cases status with
  | succeeded => exact h rfl
  | _ => simp [grant, Socks.Reply.toBytes, Socks.Reply.refusal, Socks.Status.code] at hpart

/-- What comes behind the greeting is kept. -/
theorem greeted_carries {ms : List Socks.AuthMethod}
    (hhello : Socks.greeting hello = .complete ms [])
    (hread : read <+: hello ++ command ∨ hello ++ command <+: read) :
    Carries hello command link (greeted read) read [] [] [] := by
  unfold greeted
  cases hscan : Socks.greeting read with
  | incomplete => exact .greeting read
  | invalid e => exact .closed read [] not_grant_prefix_nil
  | complete ms' rest =>
    have hfront : read <+: hello ∨ hello <+: read := by
      rcases hread with h | h
      · exact List.prefix_or_prefix_of_prefix h (List.prefix_append hello command)
      · exact Or.inr ((List.prefix_append hello command).trans h)
    obtain ⟨-, rfl⟩ := Socks.stable_greeting.eq_append_of_complete hhello hfront hscan
    exact .choosing rest

/-- What comes behind the command is kept while a tunnel is opened. -/
theorem ofOpening_carries (o : Opening) (rest : Bytes) (h : ¬o.IsFailed → consumed = []) :
    Carries hello command link (ofOpening o rest) (hello ++ command ++ rest) [] consumed
      chosen := by
  unfold ofOpening
  split
  · exact .refusing _ consumed (by decide)
  · rename_i hphase
    rw [h (by rintro ⟨e, he⟩; rw [he] at hphase; cases hphase)]
    exact .confirming o rest
  · rename_i hfailed _
    rw [h (by rintro ⟨e, he⟩; exact hfailed e he)]
    exact .opening o rest

theorem commanded_carries {q : Socks.Request} (hq : Socks.request command = .complete q [])
    (hconnect : q.command = .connect) (proxies : List ProxyAddress) {buffer : Bytes}
    (hread : hello ++ buffer <+: hello ++ command ∨ hello ++ command <+: hello ++ buffer) :
    Carries hello command link (commanded link proxies buffer) (hello ++ buffer) [] [] chosen := by
  unfold commanded
  cases hscan : Socks.request buffer with
  | incomplete => exact .command buffer
  | invalid e => exact .closed _ [] not_grant_prefix_chosen
  | complete q' rest =>
    rw [List.prefix_append_right_inj, List.prefix_append_right_inj] at hread
    obtain ⟨rfl, rfl⟩ := Socks.stable_request.eq_append_of_complete hq hread hscan
    simp only [obey, hconnect]
    split
    · exact .closed _ [] not_grant_prefix_chosen
    · rw [← List.append_assoc]
      exact ofOpening_carries _ rest fun _ => rfl

variable {c : AgentContext} {rs rs' : AgentRegistries} {s s' : SocksSession} {e : Event}
  {es : List AgentEffect}

/-- **A session that connects carries octets in both directions**, in whatever order its events
come. -/
theorem step_carries (hcomplete : (Handshake.socks hello command).IsComplete)
    (h : step c link rs s e = some (rs', s', es))
    (hs : Carries hello command link s read passed consumed written)
    (hread : read ++ (AgentSession.Event.reads (.socks e)).getD [] <+: hello ++ command ∨
      hello ++ command <+: read ++ (AgentSession.Event.reads (.socks e)).getD []) :
    Carries hello command link s' (read ++ (AgentSession.Event.reads (.socks e)).getD [])
      (passed ++ Body.stream .tcpData (AgentEffect.messages es))
      (consumed ++ Body.stream .okTcp (Received.bodies (AgentSession.Event.receives (.socks e))))
      (written ++ AgentEffect.forClient es) := by
  obtain ⟨⟨ms, hhello⟩, q, hq, hconnect⟩ := hcomplete
  cases hs with
  | greeting buffer =>
    cases e with
    | read b =>
      simp only [step] at h
      split at h
      · cases h
      · cases h
        -- the handshake is taken off the front, and what is glued to it is kept
        exact greeted_carries hhello hread
    | ended =>
      cases h
      exact .closed _ _ not_grant_prefix_nil
    | _ => cases h
  | choosing buffer =>
    cases e with
    | wrote success =>
      cases success with
      | true =>
        cases h
        have hbuffer : hello ++ buffer ++ [] = hello ++ buffer := List.append_nil _
        simp only [AgentSession.Event.reads, Option.getD_none, hbuffer] at hread ⊢
        exact commanded_carries hq hconnect c.proxies hread
      | false =>
        cases h
        exact .closed _ _ not_grant_prefix_nil
    | _ => cases h
  | command buffer =>
    cases e with
    | read b =>
      simp only [step] at h
      split at h
      · cases h
      · cases h
        have hbuffer : hello ++ buffer ++ b = hello ++ (buffer ++ b) := List.append_assoc _ _ _
        simp only [AgentSession.Event.reads, Option.getD_some, hbuffer] at hread ⊢
        exact commanded_carries hq hconnect c.proxies hread
    | ended =>
      cases h
      exact .closed _ _ not_grant_prefix_chosen
    | _ => cases h
  | opening o rest =>
    cases e with
    | opening e =>
      obtain ⟨⟨o', es'⟩, hstep, heq⟩ := Option.bind_eq_some_iff.mp h
      cases heq
      -- data may come out of the tunnel before it is open, but then the opening fails
      obtain ⟨hdata, hclient, hreceived⟩ := Opening.step_quiet hstep
      have hopening : Carries hello command link (ofOpening o' rest) _ [] _ chosen :=
        ofOpening_carries o' rest hreceived
      simpa [AgentSession.Event.reads, hdata, hclient] using hopening
    | _ => cases h
  | confirming o rest =>
    cases e with
    | wrote success =>
      cases success with
      | true =>
        simp only [step, Option.some.injEq, Prod.mk.injEq] at h
        obtain ⟨-, rfl, rfl⟩ := h
        -- what came glued to the command is the first that the relay holds
        have hstart : Passes (some rest) rest [] := rfl
        have hrelay := Relay.start_carries c.userToken rs.streams o hstart Passes.start
        obtain ⟨hmessages, hclient⟩ := Relay.start_quiet c.userToken rs.streams o rest .octets
        have hcarries : Carries hello command link _ _ _ _ _ := .relaying hrelay
        simpa [AgentSession.Event.reads, AgentSession.Event.receives, Received.bodies,
          AgentEffect.messages_cons_toClient, AgentEffect.forClient_cons_toClient, hmessages,
          hclient] using hcarries
      | false =>
        cases h
        exact .closed _ _ not_grant_prefix_chosen
    | _ => cases h
  | refusing read consumed hstatus =>
    cases e with
    | wrote success =>
      cases success with
      | true =>
        cases h
        -- a client that has been told a refusal is told nothing else
        exact .closed _ _ (not_grant_prefix_refusal hstatus)
      | false =>
        cases h
        exact .closed _ _ not_grant_prefix_chosen
    | _ => cases h
  | relaying hr =>
    cases e with
    | relay e =>
      obtain ⟨⟨streams, r', es'⟩, hstep, heq⟩ := Option.bind_eq_some_iff.mp h
      cases heq
      have hcarries : Carries hello command link _ _ _ _ _ :=
        .relaying (Relay.step_carries hstep hr)
      simpa [List.append_assoc] using hcarries
    | _ => cases h
  | closed read consumed hreply => cases e <;> cases h

end SocksSession

/-! ## A client that speaks HTTP -/

namespace HttpSession

/-- What the client is told when its opaque stream stands. -/
abbrev established : Bytes := Http.Response.connectionEstablished.toBytes

/-- What a session has read from a client that sends a head to connect, what it has passed on to the
proxy, what it has taken out of the tunnel and what it has written to the client. -/
inductive Carries (head : Bytes) : HttpSession → Bytes → Bytes → Bytes → Bytes → Prop
  | first {s : Http.Inbound} : s.bodyRemaining = 0 → Carries head (first s) s.buffer [] [] []
  | naming (target : Target) {q : Http.Request} (s : Http.Inbound) : q.head.isConnect →
    Carries head (naming target q s) (head ++ s.buffer) [] [] []
  | opening (o : Opening) {q : Http.Request} (s : Http.Inbound) : q.head.isConnect →
    Carries head (opening o q s) (head ++ s.buffer) [] [] []
  | establishing (o : Opening) (s : Http.Inbound) :
    Carries head (establishing o s) (head ++ s.buffer) [] [] []
  | relaying {r : Relay} {read passed consumed delivered : Bytes} :
    r.phase.Carries read passed consumed delivered →
    Carries head (relaying r) (head ++ read) passed consumed (established ++ delivered)
  | rejecting {r : Http.Response} (read consumed : Bytes) : r ≠ .connectionEstablished →
    Carries head (rejecting r) read [] consumed []
  /-- Nobody who is not relayed is told that the stream stands. -/
  | closed {written : Bytes} (read consumed : Bytes) : ¬established <+: written →
    Carries head closed read [] consumed written

variable {head read passed consumed written : Bytes}

theorem not_established_prefix_nil : ¬established <+: [] := by decide +kernel

theorem not_established_prefix_toBytes {r : Http.Response} (h : r ≠ .connectionEstablished) :
    ¬established <+: r.toBytes := by
  cases r with
  | connectionEstablished => exact absurd rfl h
  | badRequest => decide +kernel
  | badGateway => decide +kernel

theorem response_ne (e : AgentError) : response e ≠ .connectionEstablished := by
  unfold response
  split <;> decide

theorem request_of_isConnect {h : Http.Head} (hconnect : h.isConnect) :
    h.request = .ok ⟨h, 0, h.isChunked⟩ := by
  simp [Http.Head.request, hconnect]

/-- What comes behind the head is kept. -/
theorem firstHead_carries {h : Http.Head} (hhead : Http.head head = .complete h [])
    (hconnect : h.isConnect) (pieceSize : Nat) {s : Http.Inbound} (hs : s.bodyRemaining = 0)
    (hread : s.buffer <+: head ∨ head <+: s.buffer) :
    Carries head (firstHead pieceSize s) s.buffer [] [] [] := by
  have hanswer := Http.next_answers pieceSize s
  unfold firstHead
  generalize Http.next pieceSize s = answer at hanswer
  cases hanswer with
  | nothing => exact .first hs
  | failure => exact .rejecting _ _ (by decide)
  | piece => exact .rejecting _ _ (by decide)
  | @head front q t _ hfound hrequest hbuffer _ hlength =>
    have hagrees : front <+: head ∨ head <+: front := by
      have hfront : front <+: s.buffer := ⟨t.buffer, hbuffer.symm⟩
      rcases hread with hread | hread
      · exact Or.inl (hfront.trans hread)
      · exact List.prefix_or_prefix_of_prefix hfront hread
    obtain ⟨hsame, hfront⟩ := Http.stable_head.eq_append_of_complete hhead hagrees hfound
    rw [hsame, request_of_isConnect hconnect] at hrequest
    obtain rfl := Except.ok.inj hrequest
    rw [hbuffer, hfront, List.append_nil]
    simp only [handle]
    split
    · exact .rejecting _ _ (by decide)
    · obtain ⟨rest, remaining⟩ := t
      obtain rfl : remaining = 0 := hlength
      exact .naming _ ⟨rest, 0⟩ hconnect

/-- What comes behind the head is kept while a tunnel is opened. -/
theorem ofOpening_carries (head : Bytes) (user : String) (streams : Streams) (o : Opening)
    {q : Http.Request} (hconnect : q.head.isConnect) (s : Http.Inbound)
    (h : ¬o.IsFailed → consumed = []) :
    Carries head (ofOpening user streams o q s).2.1 (head ++ s.buffer) [] consumed [] ∧
      (ofOpening user streams o q s).2.2 = [] := by
  unfold ofOpening
  split
  · exact ⟨.rejecting _ consumed (response_ne _), rfl⟩
  · rename_i hphase
    rw [h (by rintro ⟨e, he⟩; rw [he] at hphase; cases hphase), if_pos hconnect]
    exact ⟨.establishing o s, rfl⟩
  · rename_i hfailed _
    rw [h (by rintro ⟨e, he⟩; exact hfailed e he)]
    exact ⟨.opening o s hconnect, rfl⟩

/-- A relay of an opaque stream hands nothing back. -/
theorem ofRelay_of_isOpaque {r : Relay} (h : r.phase.IsOpaque) : ofRelay r = relaying r := by
  unfold ofRelay
  split
  · rename_i hphase
    rw [hphase] at h
    cases h
  · rfl

variable {c : AgentContext} {link : ClientLink} {streams streams' : Streams}
  {s s' : HttpSession} {e : Event} {es : List AgentEffect}

/-- **A session that connects carries octets in both directions**, in whatever order its events
come. -/
theorem step_carries (hcomplete : (Handshake.http head).IsComplete)
    (h : step c link streams s e = some (streams', s', es))
    (hs : Carries head s read passed consumed written)
    (hread : read ++ (AgentSession.Event.reads (.http e)).getD [] <+: head ∨
      head <+: read ++ (AgentSession.Event.reads (.http e)).getD []) :
    Carries head s' (read ++ (AgentSession.Event.reads (.http e)).getD [])
      (passed ++ Body.stream .tcpData (AgentEffect.messages es))
      (consumed ++ Body.stream .okTcp (Received.bodies (AgentSession.Event.receives (.http e))))
      (written ++ AgentEffect.forClient es) := by
  obtain ⟨hd, hhead, hconnect⟩ := hcomplete
  cases hs with
  | first hbody =>
    cases e with
    | read b =>
      simp only [step] at h
      split at h
      · cases h
      · cases h
        exact firstHead_carries hhead hconnect c.pieceSize hbody hread
    | ended =>
      cases h
      split
      · exact .closed _ _ not_established_prefix_nil
      · exact .rejecting _ _ (by decide)
    | failed =>
      cases h
      exact .rejecting _ _ (by decide)
    | _ => cases h
  | naming target s hq =>
    cases e with
    | named suffix =>
      simp only [step, Option.some.injEq] at h
      obtain ⟨hcarries, heffects⟩ := ofOpening_carries head c.userToken streams
        (Opening.start s!"{link.id}-{suffix}" target (keepsAlive _) c.proxies) hq s
        (fun _ => rfl : _ → ([] : Bytes) = [])
      rw [h] at hcarries heffects
      obtain rfl : es = [] := heffects
      simpa [AgentSession.Event.reads, AgentSession.Event.receives, Received.bodies] using hcarries
    | _ => cases h
  | opening o s hq =>
    cases e with
    | opening e =>
      obtain ⟨⟨o', es'⟩, hstep, heq⟩ := Option.bind_eq_some_iff.mp h
      obtain ⟨hdata, hclient, hreceived⟩ := Opening.step_quiet hstep
      obtain ⟨hcarries, heffects⟩ := ofOpening_carries head c.userToken streams o' hq s hreceived
      simp only [pure, Option.some.injEq, Prod.mk.injEq, heffects, List.append_nil] at heq
      obtain ⟨-, rfl, rfl⟩ := heq
      simpa [AgentSession.Event.reads, hdata, hclient] using hcarries
    | _ => cases h
  | establishing o s =>
    cases e with
    | wrote success =>
      cases success with
      | true =>
        simp only [step, Option.some.injEq, Prod.mk.injEq] at h
        obtain ⟨-, rfl, rfl⟩ := h
        -- what came glued to the head is the first that the relay holds
        have hstart : Passes (some s.buffer) s.buffer [] := rfl
        have hrelay := Relay.start_carries c.userToken streams o hstart Passes.start
        obtain ⟨hmessages, hclient⟩ := Relay.start_quiet c.userToken streams o s.buffer .octets
        have hcarries : Carries head _ _ _ _ _ := .relaying hrelay
        simpa [AgentSession.Event.reads, AgentSession.Event.receives, Received.bodies, hmessages,
          hclient] using hcarries
      | false =>
        cases h
        exact .closed _ _ not_established_prefix_nil
    | _ => cases h
  | rejecting read consumed hresponse =>
    cases e with
    | wrote success =>
      cases success with
      | true =>
        cases h
        refine .closed _ _ ?_
        rw [AgentEffect.forClient_cons_toClient, AgentEffect.forClient_nil, List.nil_append,
          List.append_nil]
        exact not_established_prefix_toBytes hresponse
      | false =>
        cases h
        exact .closed _ _ not_established_prefix_nil
    | _ => cases h
  | relaying hr =>
    cases e with
    | relay e =>
      obtain ⟨⟨streams, r', es'⟩, hstep, heq⟩ := Option.bind_eq_some_iff.mp h
      cases heq
      have hrelay := Relay.step_carries hstep hr
      have hcarries : Carries head _ _ _ _ _ := .relaying hrelay
      rw [ofRelay_of_isOpaque hrelay.isOpaque]
      simpa [List.append_assoc] using hcarries
    | _ => cases h
  | closed read consumed hreply => cases e <;> cases h

end HttpSession

/-! ## A client's connection -/

namespace AgentSession

/-- What the connection of a client with a handshake has read, what it has passed on to the proxy,
what it has taken out of the tunnel and what it has written to the client. -/
inductive Carries (link : ClientLink) :
    Handshake → AgentSession → Bytes → Bytes → Bytes → Bytes → Prop
  | fresh (h : Handshake) : Carries link h fresh [] [] [] []
  | socks {hello command read passed consumed written : Bytes} {s : SocksSession} :
    s.Carries hello command link read passed consumed written →
    Carries link (.socks hello command) (socks s) read passed consumed written
  | http {head read passed consumed written : Bytes} {s : HttpSession} :
    s.Carries head read passed consumed written →
    Carries link (.http head) (http s) read passed consumed written
  | closed (h : Handshake) : Carries link h closed [] [] [] []

variable {c : AgentContext} {link : ClientLink} {rs rs' : AgentRegistries} {h : Handshake}
  {s s' : AgentSession} {e : Event} {es : List AgentEffect} {octet : UInt8}
  {read passed consumed written : Bytes}

/-- The first octet of a head is that of HTTP. -/
theorem ofFirst_of_head {b rest : Bytes} {hd : Http.Head}
    (hhead : Http.head (octet :: b) = .complete hd rest) :
    ofFirst (some octet) = http HttpSession.start := by
  have hversion : octet ≠ Socks.version := by
    rintro rfl
    rw [Http.head_eq_invalid b (by decide) (by decide) (by decide)] at hhead
    cases hhead
  have hold : octet ≠ Socks.oldVersion := by
    rintro rfl
    rw [Http.head_eq_invalid b (by decide) (by decide) (by decide)] at hhead
    cases hhead
  simp only [ofFirst, if_neg hversion, if_neg hold]

/-- The first octet tells the protocol of the handshake. -/
theorem ofFirst_carries (hcomplete : h.IsComplete) (hfirst : h.octets.head? = some octet) :
    Carries link h (ofFirst (some octet)) [] [] [] [] := by
  cases h with
  | socks hello command =>
    obtain ⟨⟨ms, hhello⟩, -⟩ := hcomplete
    have hversion := Socks.head?_of_greeting hhello
    obtain rfl : octet = Socks.version := by
      cases hello with
      | nil => cases hversion
      | cons x hello =>
        cases hfirst
        cases hversion
        rfl
    exact .socks (.greeting [])
  | http head =>
    obtain ⟨hd, hhead, -⟩ := hcomplete
    obtain ⟨b, rfl⟩ : ∃ b, head = octet :: b := List.head?_eq_some_iff.mp hfirst
    rw [ofFirst_of_head hhead]
    exact .http (.first rfl)

/-- **A connection carries octets in both directions**, in whatever order its events come. -/
theorem step_carries (hcomplete : h.IsComplete) (hstep : step c link rs s e = some (rs', s', es))
    (hs : Carries link h s read passed consumed written)
    (hread : h.Agrees (read ++ e.reads.getD []))
    (hsees : read = [] → ∀ octet, e.sees = some octet → h.octets.head? = some octet) :
    Carries link h s' (read ++ e.reads.getD [])
      (passed ++ Body.stream .tcpData (AgentEffect.messages es))
      (consumed ++ Body.stream .okTcp (Received.bodies e.receives))
      (written ++ AgentEffect.forClient es) := by
  cases hs with
  | fresh h =>
    cases e with
    | first octet =>
      cases hstep
      cases octet with
      | none => exact .closed h
      -- the octet is only looked at: the handshake will be read from its first octet
      | some octet => exact ofFirst_carries hcomplete (hsees rfl octet rfl)
    | _ => cases hstep
  | socks hs =>
    cases e with
    | socks e =>
      obtain ⟨⟨rs, s, es⟩, hsocks, heq⟩ := Option.bind_eq_some_iff.mp hstep
      cases heq
      exact .socks (SocksSession.step_carries hcomplete hsocks hs hread)
    | _ => cases hstep
  | http hs =>
    cases e with
    | http e =>
      obtain ⟨⟨streams, s, es⟩, hhttp, heq⟩ := Option.bind_eq_some_iff.mp hstep
      cases heq
      exact .http (HttpSession.step_carries hcomplete hhttp hs hread)
    | _ => cases hstep
  | closed h => cases e <;> cases hstep

end AgentSession

end TunnelRelay
