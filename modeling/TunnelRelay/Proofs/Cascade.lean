import TunnelRelay.Proofs.Cascade.Agent
import TunnelRelay.Proofs.Cascade.Proxy

/-!
# No session leaves anything behind

Four handlers register a session and run its legs: an agent relays streams and datagrams, and so
does a proxy. A leg that ends closes the session, which tells the others to end as well, and the
handler removes the entry after the last of them. Whatever happens to a session, and whatever other
sessions do in the meantime, the registry has the entry as long as the legs run and the entries of
the others are theirs alone; in the end the entry is gone, the lifecycle is closed, and nothing
moves any more. One end is missing in this: when a proxy loses a target between connecting it and
telling the agent, it returns with the lifecycle still open.
-/

namespace TunnelRelay

/-- **Every handler is clean, except where a target is lost.** An agent's relay over a tunnel that has
been opened, an agent's association for which an address has been bound and a proxy's relay of
datagrams are clean wherever they get to, if the id that was drawn for the session was free. So is a
proxy's service of a connect message unless it has been deserted, and it is discreet even then. It is
deserted in the one step in which its target is lost. The association and the service are the
sessions themselves, with the lifecycle in sight. -/
theorem handlers_clean (agent : AgentContext) (proxy : ProxyContext) :
    (∀ (id : String) (target : Target) (keepAlive : Bool) (o : Opening) (streams : Streams)
        (data : Bytes) (source : Source) (d : Scene StreamEntry Relay),
      Opening.Reaches agent.userToken (.start id target keepAlive agent.proxies) o →
      o.phase = .opened → streams.get? o.id = none →
      (Relay.handler agent o.id).Reaches (Relay.scene agent.userToken streams o data source) d →
      (Relay.handler agent o.id).Clean d) ∧
    (∀ (link : ClientLink) (rs : AgentRegistries) (bound : Endpoint),
      rs.associations.get? link.id = none →
      let begun := Grant.scene agent.userToken link rs.associations bound
      SocksSession.associate agent.userToken link rs bound =
          ({ rs with associations := begun.registry }, begun.state.session) ∧
        ∀ d, (Grant.handler agent link.id).Reaches begun d →
          (Grant.handler agent link.id).Clean d ∧
          ∀ rs e, SocksSession.step agent link rs d.state.session e =
            ((Grant.handler agent link.id).step rs.associations d.state e).map
              (Grant.outcome rs)) ∧
    (∀ (id : String) (streams : ProxyStreams) (m : Body AgentKind),
      m.kind = .connectWithKeepAlive ∨ m.kind = .connectWithoutKeepAlive →
      streams.get? id = none →
      let begun := StreamService.scene streams m
      ProxySession.first id (.body m) = (begun.state.session, []) ∧
        ∀ d, (StreamService.handler proxy id).Reaches begun d →
          (StreamService.handler proxy id).Discreet d ∧
          ((StreamService.handler proxy id).Clean d ↔ d.state ≠ .deserted) ∧
          (∀ e, (∃ streams effects, (StreamService.handler proxy id).step d.registry d.state e =
              some (streams, .deserted, effects)) ↔
            ∃ m script address, d.state = .connecting m ⟨.connecting, false⟩ ∧
              e = .connected script address ∧
              ProxySession.IsLost proxy.retry.connectRetryLimit script address) ∧
          ∀ rs e, ProxySession.step proxy id rs d.state.session e =
            ((StreamService.handler proxy id).step rs.streams d.state e).map
              (StreamService.outcome rs)) ∧
    (∀ (id : String) (all : ProxyDatagrams) (own : Endpoint) (m : Body AgentKind),
      all.get? id = none →
      ∃ entered r, DatagramRelay.start all id own m = some (entered, r) ∧
        ∀ d, (DatagramRelay.handler id).Reaches ⟨entered, all.get?, r⟩ d →
          (DatagramRelay.handler id).Clean d) := by
  refine ⟨?_, ?_, ?_, ?_⟩
  · intro id target keepAlive o streams data source d hopening hopened hfree hreaches
    have hlifecycle := Opening.lifecycle_of_opened hopening hopened
    exact (Relay.tidy agent o.id).clean Relay.closed_of_over
      (Relay.right_scene agent _ hlifecycle hfree data source) hreaches
  · intro link rs bound hfree begun
    refine ⟨Grant.scene_session agent.userToken link rs bound, ?_⟩
    intro d hreaches
    have hright := Grant.right_scene agent agent.userToken link hfree bound
    exact ⟨(Grant.tidy agent link.id).clean Grant.closed_of_over hright hreaches,
      fun rs e => Grant.step_session agent link rs d.state e⟩
  · intro id streams m hconnect hfree begun
    refine ⟨StreamService.scene_session id streams hconnect, ?_⟩
    intro d hreaches
    have hbegun := StreamService.right_scene proxy hfree m
    have hright := (StreamService.tidy proxy id).right hbegun hreaches
    have hdiscreet := (StreamService.tidy proxy id).discreet hbegun hreaches
    exact ⟨hdiscreet, StreamService.clean_iff hright hdiscreet,
      fun e => StreamService.step_deserted_iff hright,
      fun rs e => StreamService.step_session proxy id rs d.state e⟩
  · intro id all own m hfree
    obtain ⟨entered, r, hstart, hright⟩ := DatagramRelay.exists_start hfree own m
    exact ⟨entered, r, hstart, fun d hreaches =>
      (DatagramRelay.tidy id).clean DatagramRelay.closed_of_over hright hreaches⟩

/-! ## Four sessions that come to an end -/

/-- An agent with one proxy. -/
def smallAgent : AgentContext where
  userToken := "user"
  proxies := [⟨"127.0.0.1", 80⟩]
  proxyConnectTimeout := 20
  responseTimeout := 60
  limits := ⟨false, Frame.defaultMaxFrameSize⟩
  pieceSize := 65536
  retry := .default
  idle := .ofSeconds 90 0 0

/-- A proxy with nothing configured. -/
def smallProxy : ProxyContext where
  limits := ⟨false, Frame.defaultMaxFrameSize⟩
  pieceSize := 65536
  targetConnectTimeout := 20
  initTimeout := 30
  retry := .default
  idle := .ofSeconds 0 0 30

/-- An end of a connection on one machine. -/
def localEnd : Endpoint := ⟨.v4 ⟨127, 0, 0, 1⟩, 9⟩

/-- One other stream is registered. -/
def oneStream : Registry StreamEntry := ⟨[("other", ⟨⟨"host", 80⟩, "user", true⟩)], by simp⟩

/-- A silent tunnel, a client that goes away, an answer to a connect message that cannot be sent and
an agent that goes away: four sessions end, each in its way, and nothing of them is left. A fifth
loses its target, and the registry has nothing of it either. -/
theorem ended_sessions_clean :
    (∃ o d, Opening.Reaches "user" (.start "a" ⟨"host", 80⟩ true smallAgent.proxies) o ∧
      o.phase = .opened ∧
      (Relay.handler smallAgent "a").Reaches (Relay.scene "user" oneStream o [] .octets) d ∧
      (Relay.handler smallAgent "a").isOver d.state ∧ (Relay.handler smallAgent "a").Clean d) ∧
    (∃ d, (Grant.handler smallAgent "b").Reaches
        (Grant.scene "user" ⟨"b", localEnd, localEnd⟩ .empty localEnd) d ∧
      (Grant.handler smallAgent "b").isOver d.state ∧ (Grant.handler smallAgent "b").Clean d) ∧
    (∃ d, (StreamService.handler smallProxy "c").Reaches
        (StreamService.scene oneStream (.connect "m" "user" "host" 80 true)) d ∧
      (StreamService.handler smallProxy "c").isOver d.state ∧
      (StreamService.handler smallProxy "c").Clean d) ∧
    (∃ d, (StreamService.handler smallProxy "c").Reaches
        (StreamService.scene oneStream (.connect "m" "user" "host" 80 true)) d ∧
      (StreamService.handler smallProxy "c").isOver d.state ∧
      (StreamService.handler smallProxy "c").Discreet d) ∧
    ∃ entered r d, DatagramRelay.start .empty "d" localEnd (.udpData "m" "user" "host" 80 [1]) =
        some (entered, r) ∧
      (DatagramRelay.handler "d").Reaches ⟨entered, Registry.empty.get?, r⟩ d ∧
      (DatagramRelay.handler "d").isOver d.state ∧ (DatagramRelay.handler "d").Clean d := by
  obtain ⟨hrelay, hgrant, hservice, hdatagrams⟩ := handlers_clean smallAgent smallProxy
  obtain ⟨-, hservice⟩ := hservice "c" oneStream (.connect "m" "user" "host" 80 true)
    (.inl rfl) rfl
  refine ⟨?_, ?_, ?_, ?_, ?_⟩
  · have hopening : Opening.Reaches "user" (.start "a" ⟨"host", 80⟩ true smallAgent.proxies)
        ⟨"a", ⟨"host", 80⟩, true, ⟨.established, false⟩, .opened⟩ :=
      .step (e := .received (.body (.connectSuccess "m" "user" "host" 80)))
        (.step (e := .sent "m" .done) (.step (e := .tried true) .refl rfl) rfl) rfl
    have hreaches : (Relay.handler smallAgent "a").Reaches
        (Relay.scene "user" oneStream ⟨"a", ⟨"host", 80⟩, true, ⟨.established, false⟩, .opened⟩ []
          .octets)
        ⟨oneStream, oneStream.get?, ⟨"a", ⟨"host", 80⟩, ⟨.closed, true⟩, .closed none⟩⟩ :=
      Handler.reaches_play [.silent, .up .closed, .down .closed, .finished] .refl rfl
    exact ⟨_, _, hopening, rfl, hreaches, rfl,
      hrelay _ _ _ _ oneStream [] .octets _ hopening rfl rfl hreaches⟩
  · have hreaches : (Grant.handler smallAgent "b").Reaches
        (Grant.scene "user" ⟨"b", localEnd, localEnd⟩ .empty localEnd)
        ⟨.empty, Registry.empty.get?, .withdrawn ⟨.closed, true⟩⟩ :=
      Handler.reaches_play [.wrote false] .refl rfl
    obtain ⟨-, hclean⟩ := hgrant ⟨"b", localEnd, localEnd⟩ ⟨.empty, .empty⟩ localEnd rfl
    exact ⟨_, hreaches, trivial, (hclean _ hreaches).1⟩
  · have hreaches : (StreamService.handler smallProxy "c").Reaches
        (StreamService.scene oneStream (.connect "m" "user" "host" 80 true))
        ⟨oneStream, oneStream.get?,
          .relaying ⟨"c", ⟨"host", 80⟩, "user", ⟨.closed, true⟩, .closed⟩⟩ :=
      Handler.reaches_play
        [.connected [] (some localEnd), .relay (.sent "m" (.refused (.channelClosed "")))] .refl rfl
    obtain ⟨-, hclean, -⟩ := hservice _ hreaches
    exact ⟨_, hreaches, rfl, hclean.mpr nofun⟩
  · have hreaches : (StreamService.handler smallProxy "c").Reaches
        (StreamService.scene oneStream (.connect "m" "user" "host" 80 true))
        ⟨oneStream, oneStream.get?, .deserted⟩ :=
      Handler.reaches_play [.connected [] none] .refl rfl
    exact ⟨_, hreaches, trivial, (hservice _ hreaches).1⟩
  · obtain ⟨entered, r, hstart, hclean⟩ :=
      hdatagrams "d" .empty localEnd (.udpData "m" "user" "host" 80 [1]) rfl
    have hreaches : (DatagramRelay.handler "d").Reaches
        ⟨entered, Registry.empty.get?, r⟩
        ⟨.empty, Registry.empty.get?, ⟨"d", "user", ⟨.closed, true⟩, .ended, .ended, true⟩⟩ := by
      cases hstart
      exact Handler.reaches_play [.passed none, .received .ended, .inboundClosed, .finished] .refl
        rfl
    exact ⟨entered, r, _, hstart, hreaches, rfl, hclean _ hreaches⟩

/-- **A lost target leaves its lifecycle open**: the first attempt to connect succeeds, the target
resets the connection before its address is asked for, and the handler returns while the session is
still connecting and its token is not cancelled. -/
theorem lost_target_not_clean :
    ∃ d, (StreamService.handler smallProxy "c").Reaches
        (StreamService.scene oneStream (.connect "m" "user" "host" 80 true)) d ∧
      (StreamService.handler smallProxy "c").isOver d.state ∧
      (StreamService.handler smallProxy "c").lifecycle d.state = ⟨.connecting, false⟩ ∧
      ¬(StreamService.handler smallProxy "c").Clean d := by
  have hreaches : (StreamService.handler smallProxy "c").Reaches
      (StreamService.scene oneStream (.connect "m" "user" "host" 80 true))
      ⟨oneStream, oneStream.get?, .deserted⟩ :=
    Handler.reaches_play [.connected [] none] .refl rfl
  refine ⟨_, hreaches, trivial, rfl, fun hclean => ?_⟩
  cases hclean.closed trivial

end TunnelRelay
