import TunnelRelay.Proofs.Network.Opening

/-!
# What a session knows of its tunnels

The state of an agent's session tells what its client has asked for, what it was told, and what the
tunnels are. `Stands` says so for each state, and each event keeps it, be it one of the session or
one at the other end of a tunnel. So a client is about to be told of success only when the target
that it has asked for is connected, and once one is told of a failure the session is over.
-/

namespace TunnelRelay

open Network

variable {ks : List Line} {id : String} {registries : ProxyRegistries}

/-! ## A client that speaks SOCKS -/

namespace SocksSession

/-- What is known of the client and of the tunnels. -/
def Stands (w : Setting) (n : Network) : SocksSession → Prop
  | greeting buffer => n.read = buffer ∧ n.IsQuiet w
  | choosing buffer | command buffer =>
    (∃ methods, Socks.greeting n.read = .complete methods buffer) ∧ n.IsQuiet w
  | opening o _ => n.HasAsked w (grant w.link.own) o.target ∧ n.told = [] ∧
      o.Stands w.retries n.lines ∧ ¬o.IsFailed
  | confirming o _ => n.HasAsked w (grant w.link.own) o.target ∧ n.told = [] ∧
      Latest w.retries (Line.Connected w.retries o.target) n.lines
  | refusing status => n.IsRefusing w (status = .failure)
  | relaying _ => Relaying w.retries n.lines
  | binding | granting _ _ | associated _ => n.IsQuiet w
  | closed => n.IsOver w (Socks.Reply.refusal .failure).toBytes

variable {w : Setting} {n : Network} {rs rs' : AgentRegistries} {s s' : SocksSession} {e : Event}
  {es : List AgentEffect} {o : Opening} {buffer rest : Bytes}

theorem greeted_stands (h : n.IsQuiet w) : (greeted n.read).Stands w n := by
  unfold greeted
  cases hscan : Socks.greeting n.read with
  | incomplete => exact ⟨rfl, h⟩
  | invalid e => exact .inl h.2
  | complete methods rest => exact ⟨⟨methods, hscan⟩, h⟩

theorem ofOpening_stands (hasked : n.HasAsked w (grant w.link.own) o.target) (htold : n.told = [])
    (ho : o.Stands w.retries n.lines) : (ofOpening o rest).Stands w n := by
  unfold ofOpening
  split
  · exact ⟨htold, .inr ⟨rfl, ho.tail⟩⟩
  · rename_i hphase
    rw [Opening.Stands, hphase] at ho
    exact ⟨hasked, htold, ho⟩
  · rename_i hfailed _
    exact ⟨hasked, htold, ho, not_exists.mpr hfailed⟩

theorem commanded_stands
    (hgreeting : ∃ methods, Socks.greeting n.read = .complete methods buffer)
    (h : n.IsQuiet w) : (commanded w.link w.agent.proxies buffer).Stands w n := by
  obtain ⟨methods, hgreeting⟩ := hgreeting
  unfold commanded
  cases hscan : Socks.request buffer with
  | incomplete => exact ⟨⟨methods, hgreeting⟩, h⟩
  | invalid e => exact .inl h.2
  | complete q rest =>
    simp only [obey]
    cases hcommand : q.command with
    | connect =>
      simp only
      cases hhost : q.target.hostText with
      | error e => exact .inl h.2
      | ok host =>
        exact ofOpening_stands (.socks hgreeting hscan hcommand hhost) h.1
          (Opening.start_stands _ _ _ _ h.2)
    | associate => exact h
    | bind => exact ⟨h.1, .inl h.2⟩
    | unsupported code => exact ⟨h.1, .inl h.2⟩

theorem associate_stands {bound : Endpoint} {user : String} (h : n.IsQuiet w) :
    (associate user w.link rs bound).2.Stands w n := by
  unfold associate
  split
  · exact h
  · exact .inl h.2
  · exact .inl h.2

/-- What happens at the other ends leaves a session where it stands. -/
theorem Stands.goOn (hall : List.Forall₂ Line.GoesOn n.lines ks) (h : s.Stands w n) :
    s.Stands w { n with lines := ks } := by
  have hgrows := hall.imp fun _ _ hg => hg.toGrows
  cases s with
  | greeting buffer | choosing buffer | command buffer => exact ⟨h.1, h.2.goOn hall⟩
  | opening o rest => exact ⟨h.1, h.2.1, h.2.2.1.goOn hall, h.2.2.2⟩
  | confirming o rest =>
    exact ⟨h.1, h.2.1, h.2.2.grow hgrows (fun _ _ hg => hg) fun _ _ hg hl => hl.grow hg⟩
  | refusing status => exact IsRefusing.goOn hall h
  | relaying r => exact Relaying.grow hgrows h
  | binding | granting a bound | associated a => exact IsQuiet.goOn hall h
  | closed => exact IsOver.goOn hall h

/-- **A session knows its tunnels**, whatever comes. -/
theorem step_stands (h : step w.agent w.link rs s e = some (rs', s', es))
    (hagent : n.agent = .socks s)
    (htake : takeLatest n.lines (AgentSession.Event.receives (.socks e)) = some ks)
    (hsound : ∀ l ∈ n.lines, l.Sound w.retries) (hs : s.Stands w n) :
    s'.Stands w (n.after (.fresh id registries) ks (.socks e) es) := by
  have hgrows := forall₂_of_takeLatest htake
  -- most events tell the client nothing
  have htold (hnotice : (AgentSession.socks s).notice? (.socks e) es = none) (hn : n.told = []) :
      (n.after (.fresh id registries) ks (.socks e) es).told = [] := by
    rw [told_after _ (by rw [hagent]; exact hnotice), hn]
  have hquiet (hnotice : (AgentSession.socks s).notice? (.socks e) es = none)
      (hms : ∀ m ∈ AgentEffect.messages es, m.kind = .udpData) (hn : n.IsQuiet w) :
      (n.after (.fresh id registries) ks (.socks e) es).IsQuiet w :=
    hn.after htake (by rw [hagent]; exact hnotice) hms
  have hnone : ∀ m ∈ AgentEffect.messages [], m.kind = .udpData :=
    List.forall_mem_nil _
  cases s with
  | greeting buffer =>
    obtain ⟨rfl, hn⟩ := hs
    cases e with
    | read b =>
      simp only [step] at h
      split at h
      · cases h
      · cases h
        exact greeted_stands (hquiet rfl hnone hn)
    | ended =>
      cases h
      exact .inl (hquiet rfl hnone hn).2
    | _ => cases h
  | choosing buffer =>
    obtain ⟨hgreeting, hn⟩ := hs
    cases e with
    | wrote success =>
      cases success with
      | true =>
        cases h
        refine commanded_stands ?_ (hquiet rfl hnone hn)
        rw [read_after _ rfl]
        exact hgreeting
      | false =>
        cases h
        exact .inl (hquiet rfl hnone hn).2
    | _ => cases h
  | command buffer =>
    obtain ⟨⟨methods, hgreeting⟩, hn⟩ := hs
    cases e with
    | read b =>
      simp only [step] at h
      split at h
      · cases h
      · cases h
        -- where the greeting ends does not depend on what follows it
        have hmore := Socks.stable_greeting n.read b
        rw [hgreeting] at hmore
        exact commanded_stands ⟨methods, hmore⟩ (hquiet rfl hnone hn)
    | ended =>
      cases h
      exact .inl (hquiet rfl hnone hn).2
    | _ => cases h
  | opening o rest =>
    obtain ⟨hasked, hn, ho, -⟩ := hs
    cases e with
    | opening e =>
      obtain ⟨⟨o', es'⟩, hstep, heq⟩ := Option.bind_eq_some_iff.mp h
      cases heq
      rw [AgentSession.Event.receives_socks_opening] at htake
      have htarget := Opening.target_of_step hstep
      refine ofOpening_stands ?_ (htold rfl hn) (Opening.step_stands hstep htake hsound ho)
      rw [htarget]
      exact hasked.append _
    | _ => cases h
  | confirming o rest =>
    obtain ⟨hasked, hn, hconnected⟩ := hs
    have hrelaying := (relaying_of_connected hconnected).grow hgrows
    cases e with
    | wrote success =>
      cases success with
      | true =>
        simp only [step, Option.some.injEq, Prod.mk.injEq] at h
        obtain ⟨-, rfl, rfl⟩ := h
        refine hrelaying.carry _ ?_
        rw [AgentEffect.opensTunnel_cons_toClient]
        exact Relay.opensTunnel_of_start _ _ _ _ _
      | false =>
        cases h
        exact .inl (hrelaying.carry _ rfl).settled
    | _ => cases h
  | refusing status =>
    cases e with
    | wrote success =>
      cases success with
      | true =>
        cases h
        refine IsRefusing.after _ hs htake (by rw [hagent]; rfl) (fun hdue => ?_) rfl rfl
        rw [hdue]
        exact .inr (List.append_nil _)
      | false =>
        cases h
        exact IsRefusing.after _ hs htake (by rw [hagent]; rfl) (fun _ => .inl rfl) rfl rfl
    | _ => cases h
  | relaying r =>
    cases e with
    | relay e =>
      obtain ⟨⟨streams, r', es'⟩, hstep, heq⟩ := Option.bind_eq_some_iff.mp h
      cases heq
      exact (hs.grow hgrows).carry _ (Relay.opensTunnel_of_step hstep)
    | _ => cases h
  | binding =>
    cases e with
    | bound address =>
      cases address with
      | none =>
        cases h
        have hn := hquiet rfl hnone hs
        exact ⟨hn.1, .inl hn.2⟩
      | some address =>
        simp only [step, Option.some.injEq, Prod.mk.injEq] at h
        obtain ⟨-, rfl, rfl⟩ := h
        exact associate_stands (hquiet rfl hnone hs)
    | _ => cases h
  | granting a bound =>
    cases e with
    | wrote success =>
      cases success with
      | true =>
        cases h
        exact hquiet rfl hnone hs
      | false =>
        cases h
        exact .inl (hquiet rfl hnone hs).2
    | _ => cases h
  | associated a =>
    cases e with
    | association e =>
      obtain ⟨⟨associations, a', es'⟩, hstep, heq⟩ := Option.bind_eq_some_iff.mp h
      cases heq
      exact hquiet rfl (fun _ hm => Association.kind_of_step hstep hm) hs
    | _ => cases h
  | closed => cases e <;> cases h

end SocksSession

/-! ## A client that speaks HTTP -/

namespace HttpSession

/-- The client has sent a request for that target. -/
def Wants (w : Setting) (n : Network) (q : Http.Request) (target : Target) : Prop :=
  Http.Requested w.agent.pieceSize n.read q ∧
    q.head.targetAddress = .ok (target.host, target.port)

/-- What is known of the client and of the tunnels. Behind a request to connect the stream is opaque
for good, and as long as it is not, the client has been told nothing. -/
def Stands (w : Setting) (n : Network) : HttpSession → Prop
  | first s => Http.Decodes w.agent.pieceSize n.read s ∧ n.IsQuiet w
  | naming target q s => Wants w n q target ∧ Http.Decodes w.agent.pieceSize n.read s ∧ n.IsQuiet w
  | opening o q s => Wants w n q o.target ∧ Http.Decodes w.agent.pieceSize n.read s ∧
      n.told = [] ∧ o.Stands w.retries n.lines ∧ ¬o.IsFailed
  | establishing o _ => n.HasAsked w established o.target ∧ n.told = [] ∧
      Latest w.retries (Line.Connected w.retries o.target) n.lines
  | relaying r =>
    (r.phase.IsOpaque ∨ n.told = [] ∧ r.phase.Decodes w.agent.pieceSize n.read) ∧
      Relaying w.retries n.lines
  | rejecting a => n.IsRefusing w (a = .badGateway)
  | closed => n.IsOver w Http.Response.badGateway.toBytes

variable {w : Setting} {n : Network} {streams streams' : Streams} {s s' : HttpSession} {e : Event}
  {es : List AgentEffect} {o : Opening} {q : Http.Request} {inbound : Http.Inbound}

theorem handle_stands (hq : Http.Requested w.agent.pieceSize n.read q)
    (hs : Http.Decodes w.agent.pieceSize n.read inbound) (h : n.IsQuiet w) :
    (handle q inbound).Stands w n := by
  unfold handle
  split
  · exact ⟨h.1, .inl h.2⟩
  · rename_i host port htarget
    exact ⟨⟨hq, htarget⟩, hs, h⟩

theorem firstHead_stands (hs : Http.Decodes w.agent.pieceSize n.read inbound) (h : n.IsQuiet w) :
    (firstHead w.agent.pieceSize inbound).Stands w n := by
  unfold firstHead
  split
  · rename_i hnext
    rw [Http.eq_of_next hnext fun _ hsome => nomatch hsome]
    exact ⟨hs, h⟩
  · exact ⟨h.1, .inl h.2⟩
  · exact ⟨h.1, .inl h.2⟩
  · rename_i q s' hnext
    exact handle_stands (Http.requested_of_next hs hnext) (hs.next hnext) h

theorem ofOpening_stands (user : String) (hwants : Wants w n q o.target)
    (hs : Http.Decodes w.agent.pieceSize n.read inbound) (htold : n.told = [])
    (ho : o.Stands w.retries n.lines) : (ofOpening user streams o q inbound).2.1.Stands w n := by
  unfold ofOpening
  split
  · rename_i cause hphase
    rw [Opening.Stands, hphase] at ho
    exact ⟨htold, .inr ho⟩
  · rename_i hphase
    rw [Opening.Stands, hphase] at ho
    split
    · rename_i hconnect
      exact ⟨.http hwants.1 hconnect hwants.2, htold, ho⟩
    · have hsource : (ahead q inbound).2.Decodes w.agent.pieceSize n.read := by
        unfold ahead
        split
        · trivial
        · exact hs
      exact ⟨.inr ⟨htold, Relay.start_decodes _ _ _ _ hsource⟩, relaying_of_connected ho⟩
  · rename_i hfailed _
    exact ⟨hwants, hs, htold, ho, not_exists.mpr hfailed⟩

/-- The same after an event that takes nothing from the client and tells it nothing. -/
theorem after_ofOpening_stands (user : String) (es : List AgentEffect) {e : AgentSession.Event}
    {next : Line}
    (hreads : e.reads = none) (hwants : Wants w n q o.target)
    (hs : Http.Decodes w.agent.pieceSize n.read inbound)
    (htold : (n.after next ks e (es ++ (ofOpening user streams o q inbound).2.2)).told = [])
    (ho : o.Stands w.retries (carry next es ks)) :
    (ofOpening user streams o q inbound).2.1.Stands w
      (n.after next ks e (es ++ (ofOpening user streams o q inbound).2.2)) := by
  refine ofOpening_stands user ?_ ?_ htold ?_
  · rw [Wants, read_after next hreads]
    exact hwants
  · rw [read_after next hreads]
    exact hs
  · -- a relay that starts leaves the tunnels as they are
    have hcarry : carry next (es ++ (ofOpening user streams o q inbound).2.2) ks =
        carry next es ks :=
      carry_append_of_quiet next (opensTunnel_of_ofOpening user streams o q inbound)
        (messages_of_ofOpening user streams o q inbound)
    rw [Network.after, hcarry]
    exact ho

/-- What a relay leaves behind when it is closed is the next request. -/
theorem ofRelay_stands {r : Relay} (hn : n.told = [])
    (hr : r.phase.Decodes w.agent.pieceSize n.read) (hlines : Relaying w.retries n.lines) :
    (ofRelay r).Stands w n := by
  unfold ofRelay
  split
  · rename_i q s hphase
    rw [hphase] at hr
    obtain ⟨hq, hs⟩ := hr q s rfl
    exact handle_stands hq hs ⟨hn, hlines.settled⟩
  · exact ⟨.inr ⟨hn, hr⟩, hlines⟩

/-- What happens at the other ends leaves a session where it stands. -/
theorem Stands.goOn (hall : List.Forall₂ Line.GoesOn n.lines ks) (h : s.Stands w n) :
    s.Stands w { n with lines := ks } := by
  have hgrows := hall.imp fun _ _ hg => hg.toGrows
  cases s with
  | first inbound => exact ⟨h.1, h.2.goOn hall⟩
  | naming target q inbound => exact ⟨h.1, h.2.1, h.2.2.goOn hall⟩
  | opening o q inbound => exact ⟨h.1, h.2.1, h.2.2.1, h.2.2.2.1.goOn hall, h.2.2.2.2⟩
  | establishing o inbound =>
    exact ⟨h.1, h.2.1, h.2.2.grow hgrows (fun _ _ hg => hg) fun _ _ hg hl => hl.grow hg⟩
  | relaying r => exact ⟨h.1, h.2.grow hgrows⟩
  | rejecting a => exact IsRefusing.goOn hall h
  | closed => exact IsOver.goOn hall h

/-- **A session knows its tunnels**, whatever comes. -/
theorem step_stands (h : step w.agent w.link streams s e = some (streams', s', es))
    (hagent : n.agent = .http s)
    (htake : takeLatest n.lines (AgentSession.Event.receives (.http e)) = some ks)
    (hsound : ∀ l ∈ n.lines, l.Sound w.retries) (hs : s.Stands w n) :
    s'.Stands w (n.after (.fresh id registries) ks (.http e) es) := by
  have hgrows := forall₂_of_takeLatest htake
  -- most events tell the client nothing
  have htold (hnotice : (AgentSession.http s).notice? (.http e) es = none) (hn : n.told = []) :
      (n.after (.fresh id registries) ks (.http e) es).told = [] := by
    rw [told_after _ (by rw [hagent]; exact hnotice), hn]
  have hquiet (hnotice : (AgentSession.http s).notice? (.http e) es = none)
      (hms : ∀ m ∈ AgentEffect.messages es, m.kind = .udpData) (hn : n.IsQuiet w) :
      (n.after (.fresh id registries) ks (.http e) es).IsQuiet w :=
    hn.after htake (by rw [hagent]; exact hnotice) hms
  have hnone : ∀ m ∈ AgentEffect.messages [], m.kind = .udpData :=
    List.forall_mem_nil _
  cases s with
  | first inbound =>
    obtain ⟨hs, hn⟩ := hs
    cases e with
    | read b =>
      simp only [step] at h
      split at h
      · cases h
      · cases h
        exact firstHead_stands (hs.push b) (hquiet rfl hnone hn)
    | ended =>
      cases h
      have hn' := hquiet rfl hnone hn
      split
      · exact .inl hn'.2
      · exact ⟨hn'.1, .inl hn'.2⟩
    | failed =>
      cases h
      have hn' := hquiet rfl hnone hn
      exact ⟨hn'.1, .inl hn'.2⟩
    | _ => cases h
  | naming target q inbound =>
    obtain ⟨hwants, hs, hn⟩ := hs
    cases e with
    | named suffix =>
      simp only [step, Option.some.injEq, Prod.ext_iff] at h
      obtain ⟨-, rfl, rfl⟩ := h
      refine after_ofOpening_stands _ [] rfl hwants hs (htold rfl hn.1) ?_
      rw [carry_of_quiet _ rfl rfl]
      exact Opening.start_stands _ _ _ _ (hn.2.grow hgrows)
    | _ => cases h
  | opening o q inbound =>
    obtain ⟨hwants, hs, hn, ho, -⟩ := hs
    cases e with
    | opening e =>
      obtain ⟨⟨o', es'⟩, hstep, heq⟩ := Option.bind_eq_some_iff.mp h
      simp only [Option.pure_def, Option.some.injEq, Prod.mk.injEq] at heq
      obtain ⟨-, rfl, rfl⟩ := heq
      rw [AgentSession.Event.receives_http_opening] at htake
      have htarget := Opening.target_of_step hstep
      refine after_ofOpening_stands _ _ ?_ ?_ hs (htold rfl hn)
        (Opening.step_stands hstep htake hsound ho)
      · cases e <;> rfl
      · rw [htarget]
        exact hwants
    | _ => cases h
  | establishing o inbound =>
    obtain ⟨hasked, hn, hconnected⟩ := hs
    have hrelaying := (relaying_of_connected hconnected).grow hgrows
    cases e with
    | wrote success =>
      cases success with
      | true =>
        simp only [step, Option.some.injEq, Prod.mk.injEq] at h
        obtain ⟨-, rfl, rfl⟩ := h
        refine ⟨.inl (Relay.isOpaque_of_start _ _ _ _), hrelaying.carry _ ?_⟩
        rw [AgentEffect.opensTunnel_cons_toClient]
        exact Relay.opensTunnel_of_start _ _ _ _ _
      | false =>
        cases h
        exact .inl (hrelaying.carry _ rfl).settled
    | _ => cases h
  | relaying r =>
    obtain ⟨hr, hlines⟩ := hs
    cases e with
    | relay e =>
      obtain ⟨⟨streams, r', es'⟩, hstep, heq⟩ := Option.bind_eq_some_iff.mp h
      cases heq
      have hlines' := (hlines.grow hgrows).carry (.fresh id registries)
        (Relay.opensTunnel_of_step hstep)
      rcases hr with hopaque | ⟨hn, hr⟩
      · have hopaque' := Relay.isOpaque_of_step hstep hopaque
        rw [ofRelay_of_isOpaque hopaque']
        exact ⟨.inl hopaque', hlines'⟩
      · have hr' := Relay.step_decodes hstep hr
        rw [← AgentSession.Event.reads_http_relay] at hr'
        exact ofRelay_stands (htold rfl hn) hr' hlines'
    | _ => cases h
  | rejecting a =>
    cases e with
    | wrote success =>
      cases success with
      | true =>
        cases h
        refine IsRefusing.after _ hs htake (by rw [hagent]; rfl) (fun hdue => ?_) rfl rfl
        rw [hdue]
        exact .inr (List.append_nil _)
      | false =>
        cases h
        exact IsRefusing.after _ hs htake (by rw [hagent]; rfl) (fun _ => .inl rfl) rfl rfl
    | _ => cases h
  | closed => cases e <;> cases h

end HttpSession

/-! ## A client's connection -/

namespace AgentSession

/-- What is known of the client and of the tunnels. -/
def Stands (w : Setting) (n : Network) : AgentSession → Prop
  | fresh => n.read = [] ∧ n.IsQuiet w
  | socks s => s.Stands w n
  | http s => s.Stands w n
  | refusing | closed => n.IsQuiet w

variable {w : Setting} {n : Network} {rs rs' : AgentRegistries} {s s' : AgentSession} {e : Event}
  {es : List AgentEffect}

theorem Stands.goOn (hall : List.Forall₂ Line.GoesOn n.lines ks) (h : s.Stands w n) :
    s.Stands w { n with lines := ks } := by
  cases s with
  | fresh => exact ⟨h.1, h.2.goOn hall⟩
  | socks s => exact SocksSession.Stands.goOn hall h
  | http s => exact HttpSession.Stands.goOn hall h
  | refusing | closed => exact IsQuiet.goOn hall h

/-- **A connection knows its tunnels**, whatever comes. -/
theorem step_stands (h : step w.agent w.link rs s e = some (rs', s', es)) (hagent : n.agent = s)
    (htake : takeLatest n.lines e.receives = some ks) (hsound : ∀ l ∈ n.lines, l.Sound w.retries)
    (hs : s.Stands w n) : s'.Stands w (n.after (.fresh id registries) ks e es) := by
  cases s with
  | fresh =>
    obtain ⟨hread, hn⟩ := hs
    cases e with
    | first octet =>
      cases h
      have hquiet : (n.after (.fresh id registries) ks (.first octet) []).IsQuiet w :=
        hn.after htake (by rw [hagent]; rfl) (List.forall_mem_nil _)
      have hempty : (n.after (.fresh id registries) ks (.first octet) []).read = [] := by
        rw [read_after _ rfl, hread]
      cases octet with
      | none => exact hquiet
      | some octet =>
        simp only [ofFirst]
        split
        · exact ⟨hempty, hquiet⟩
        · split
          · exact hquiet
          · refine ⟨?_, hquiet⟩
            rw [hempty]
            exact .empty
    | _ => cases h
  | refusing =>
    cases e with
    | wrote success =>
      cases h
      refine IsQuiet.after hs htake (by rw [hagent]; rfl) ?_
      cases success <;> exact List.forall_mem_nil _
    | _ => cases h
  | socks s =>
    cases e with
    | socks e =>
      obtain ⟨⟨rs, s, es⟩, hstep, heq⟩ := Option.bind_eq_some_iff.mp h
      cases heq
      exact SocksSession.step_stands hstep hagent htake hsound hs
    | _ => cases h
  | http s =>
    cases e with
    | http e =>
      obtain ⟨⟨streams, s, es⟩, hstep, heq⟩ := Option.bind_eq_some_iff.mp h
      cases heq
      exact HttpSession.step_stands hstep hagent htake hsound hs
    | _ => cases h
  | closed => cases e <;> cases h

end AgentSession

end TunnelRelay
