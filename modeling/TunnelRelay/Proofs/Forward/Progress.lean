import TunnelRelay.Proofs.Forward.Session

/-!
# A connection comes to its end

A connection on errands is never stuck: as long as its errands are not done, nor given up because
the watch fired, there is an event that everybody else's part allows, and it makes the connection
lighter. The weight counts what the client has not been asked for, what has been read and not used,
and how far the session is from its next octet.
-/

namespace TunnelRelay

open Http (Item Stands Begins)

/-! ## The leg to the proxy -/

/-- How many octets are kept for later. -/
def Source.buffered : Source → Nat
  | octets => 0
  | requests s => s.buffer.length

namespace ToProxy

/-- What is left to do for a leg. -/
def weight : ToProxy → Nat
  | reading source => 100 * source.buffered + 10
  | sending _ rest source => 100 * source.buffered + (if rest = [] then 11 else 12)
  | ended (some (_, s)) => 100 * s.buffer.length + 50
  | ended none => 1

variable {size : Nat} {user : String} {target : Target} {leg : ToProxy} {unread owed : Bytes}
  {next : List Item}

/-- Something lighter can come next, in which nobody but the leg decides what happens. -/
def CanStep (size : Nat) (user : String) (target : Target) (leg : ToProxy) (unread : Bytes) :
    Prop :=
  ∃ e unread' leg' es, unread = e.reads.getD [] ++ unread' ∧
    step size user target leg e = some (leg', es) ∧ e.IsFriendly ∧ e ≠ .closed ∧
      (e = .ended → unread' = []) ∧
        leg'.weight + 200 * unread'.length < leg.weight + 200 * unread.length

/-- A leg that looks at what has been read moves on when a head or a piece of a body is there. -/
theorem weight_of_decode (target : Target) {s : Http.Inbound} {rest : Bytes} {items : List Item}
    (hs : Stands s unread rest items) (hmore : needsMore size (.requests s) = false) :
    ∃ leg, decode size target s = some leg ∧ leg.weight < 100 * s.buffer.length + 10 := by
  have hcomes := Http.next_comes size hs
  simp only [needsMore] at hmore
  unfold decode
  -- whatever comes out, the buffer has become shorter
  generalize Http.next size s = outcome at hmore hcomes
  cases hcomes with
  | needsMore _ => cases hmore
  | piece hrest hne hless hs' =>
    refine ⟨_, rfl, ?_⟩
    simp only [weight, Source.buffered, if_true]
    omega
  | @head i items s' hrest hitems hless hbegins =>
    refine ⟨_, rfl, ?_⟩
    unfold forward
    split
    · simp only [weight]
      omega
    · split
      · simp only [weight, Source.buffered]
        split <;> omega
      · simp only [weight, Source.buffered, if_true]
        omega

/-- A leg that has not ended is not stuck. -/
theorem Owes.canStep (user : String) (hsize : 0 < size) (ho : leg.Owes target unread owed next)
    (hopen : leg.isEnded = false) : CanStep size user target leg unread := by
  cases ho with
  | @reading s unread rest items hs =>
    cases hmore : needsMore size (.requests s) with
    | false =>
      obtain ⟨leg', hdecode, hless⟩ := weight_of_decode target hs hmore
      refine ⟨.decode, unread, leg', [], rfl, ?_, trivial, by rintro ⟨⟩, by rintro ⟨⟩, ?_⟩
      · simp only [step, hdecode, Option.map_some]
      · show leg'.weight + 200 * unread.length < 100 * s.buffer.length + 10 + 200 * unread.length
        omega
    | true =>
      -- nothing more can be used: either the stream ends here, or the client sends its rest
      by_cases hunread : unread = []
      · refine ⟨.ended, unread, .ended none, [], rfl, ?_, trivial, by rintro ⟨⟩, fun _ => hunread,
          ?_⟩
        · simp only [step, hmore, if_true]
        · simp only [weight]
          omega
      · refine ⟨.read unread, [], take unread (.requests s), [], ?_, ?_, trivial, by rintro ⟨⟩,
          by rintro ⟨⟩, ?_⟩
        · exact (List.append_nil unread).symm
        · simp [step, hmore, fits, hunread]
        · have hlength := List.length_pos_iff.mpr hunread
          simp only [take, weight, Source.buffered, Http.Inbound.push, List.length_append,
            List.length_nil]
          omega
  | sending data hs =>
    refine ⟨.sent "" .done, unread, _, _, rfl, rfl, rfl, by rintro ⟨⟩, by rintro ⟨⟩, ?_⟩
    simp only [if_true, weight]
    omega
  | readingOctets =>
    cases unread with
    | nil =>
      refine ⟨.ended, [], .ended none, [], rfl, rfl, trivial, by rintro ⟨⟩, fun _ => rfl, ?_⟩
      simp [weight]
    | cons x unread =>
      refine ⟨.read [x], unread, .sending [x] [] .octets, [], rfl, ?_, trivial, by rintro ⟨⟩,
        by rintro ⟨⟩, ?_⟩
      · have hfits : 1 ≤ size := hsize
        simp [step, needsMore, fits, take, hfits]
      · simp only [weight, if_true, List.length_cons]
        omega
  | sendingOctets data rest =>
    refine ⟨.sent "" .done, unread, _, _, rfl, rfl, rfl, by rintro ⟨⟩, by rintro ⟨⟩, ?_⟩
    by_cases hrest : rest = []
    · simp only [if_pos hrest, weight]
      omega
    · simp only [if_neg hrest, weight, if_true]
      omega
  | handedBack hbegins => cases hopen
  | ended => cases hopen

end ToProxy

/-! ## The relay -/

/-- What is left to do for a leg to the client. -/
def FromProxy.weight : FromProxy → Nat
  | reading => 1
  | writing _ => 2
  | ended => 0

/-- A client that takes everything takes all that is written. -/
theorem writeAll_nil (limit : UInt32) (data : Bytes) :
    (writeAll limit [] [] data).result = .ok () := by
  cases data <;> rfl

namespace Relay

/-- What is left to do for a relay. -/
def Phase.weight : Phase → Nat
  | starting _ source => 100 * source.buffered + 25
  | running up down watching => up.weight + down.weight + (if watching then 1 else 0)
  | closed (some (_, s)) => 100 * s.buffer.length + 40
  | closed none => 0

/-- Something lighter can come next, in which nobody but the relay decides what happens. -/
def CanStep (c : AgentContext) (fires : Bool) (streams : Streams) (r : Relay) (unread : Bytes) :
    Prop :=
  ∃ e unread' streams' r' es, unread = e.reads.getD [] ++ unread' ∧
    step c streams r e = some (streams', r', es) ∧ e.IsFriendly c fires r ∧
      (e.ends → unread' = []) ∧
        r'.phase.weight + 200 * unread'.length < r.phase.weight + 200 * unread.length

variable {c : AgentContext} {fires : Bool} {r : Relay} {unread owed : Bytes} {next : List Item}

theorem weight_legs (source : Source) :
    (legs source).weight = 100 * source.buffered + 12 := rfl

/-- A relay that is told to stop closes. -/
theorem canStep_ending (streams : Streams) {id : String} {target : Target} {l : Lifecycle}
    (handed : Option HandBack) (down : FromProxy) (watching : Bool) (hl : l.cancelled) :
    CanStep c fires streams ⟨id, target, l, .running (.ended handed) down watching⟩ unread := by
  -- the legs stop in turn: that to the client first, then the one that watches
  cases down with
  | writing data =>
    have hstep : step c streams ⟨id, target, l, .running (.ended handed) (.writing data) watching⟩
        (.down (.wrote [] [])) =
        some (streams, ⟨id, target, l, .running (.ended handed) .reading watching⟩,
          [.toClient (writeAll c.retry.writeRetryLimit [] [] data).received]) := by
      simp only [step, visible, FromProxy.step, writeAll_nil]
      rfl
    refine ⟨_, unread, _, _, _, rfl, hstep, ?_, by rintro ⟨⟩, ?_⟩
    · intro up leg watching hphase data _
      exact writeAll_nil _ data
    · simp [Phase.weight, FromProxy.weight]
  | reading =>
    have hstep : step c streams ⟨id, target, l, .running (.ended handed) .reading watching⟩
        (.down .closed) =
        some (streams, ⟨id, target, l.close.2, .running (.ended handed) .ended watching⟩, []) := by
      simp only [step, visible, hl, FromProxy.step]
      rfl
    refine ⟨_, unread, _, _, _, rfl, hstep, ?_, by rintro ⟨⟩, ?_⟩
    · intro up leg watching hphase
      trivial
    · simp [Phase.weight, FromProxy.weight]
  | ended =>
    cases watching with
    | true =>
      have hstep : step c streams ⟨id, target, l, .running (.ended handed) .ended true⟩ .unwatched =
          some (streams, ⟨id, target, l, .running (.ended handed) .ended false⟩, []) := by
        simp only [step, visible, hl]
        rfl
      refine ⟨_, unread, _, _, _, rfl, hstep, trivial, by rintro ⟨⟩, ?_⟩
      simp [Phase.weight]
    | false =>
      refine ⟨.finished, unread, _, _, _, rfl, rfl, trivial, by rintro ⟨⟩, ?_⟩
      rcases handed with _ | ⟨q, s⟩
      · simp [Phase.weight, ToProxy.weight, FromProxy.weight]
      · simp [Phase.weight, ToProxy.weight, FromProxy.weight]

/-- What the leg to the proxy can do, the relay can do. -/
theorem canStep_up (hsize : 0 < c.pieceSize) (streams : Streams) {id : String} {target : Target}
    {l : Lifecycle} {up : ToProxy} (down : FromProxy) (watching : Bool)
    (hup : up.Owes target unread owed next) (hopen : up.isEnded = false) :
    CanStep c fires streams ⟨id, target, l, .running up down watching⟩ unread := by
  obtain ⟨e, unread', leg', es, hreads, hleg, hfriendly, hne, hends, hless⟩ :=
    ToProxy.Owes.canStep c.userToken hsize hup hopen
  have hstep : step c streams ⟨id, target, l, .running up down watching⟩ (.up e) =
      some (streams, ⟨id, target, after leg'.isEnded l, .running leg' down watching⟩, es) := by
    -- only an event that sees the session closed would have to wait for that
    have hvisible : visible l (.up e) = true := by
      cases e <;> first | rfl | exact absurd rfl hne
    simp only [step, hvisible, hleg]
    rfl
  refine ⟨.up e, unread', _, _, _, hreads, hstep, hfriendly, ?_, ?_⟩
  · intro he
    cases e <;> first | exact he.elim | exact hends rfl
  · simp only [Phase.weight]
    omega

/-- A relay on an errand is not stuck. -/
theorem Owes.canStep (hsize : 0 < c.pieceSize) (streams : Streams)
    (ho : r.Owes fires unread owed next) : CanStep c fires streams r unread := by
  cases ho with
  | @starting id target data source _ _ _ hup =>
    have hstep : step c streams ⟨id, target, ⟨.established, false⟩, .starting data source⟩
        (.sent "" .done) =
        some (streams, ⟨id, target, ⟨.established, false⟩, legs source⟩,
          [.message (Body.tcpData "" c.userToken target.host target.port data)]) := rfl
    refine ⟨_, unread, _, _, _, rfl, hstep, rfl, by rintro ⟨⟩, ?_⟩
    show (legs source).weight + 200 * unread.length <
      100 * source.buffered + 25 + 200 * unread.length
    rw [weight_legs]
    omega
  | running hup hopen hdown => exact canStep_up hsize streams _ _ hup hopen
  | alarmed hfires hup hopen hl => exact canStep_up hsize streams _ _ hup hopen
  | ending hleaves hl => exact canStep_ending streams _ _ _ hl

end Relay

/-! ## A client that speaks HTTP -/

/-- What is left to do until a tunnel is open, and behind that. -/
def Opening.Phase.weight : Opening.Phase → Nat
  | choosing _ => 29
  | asking => 28
  | waiting => 27
  | opened => 26
  | failed _ => 0

/-- A tunnel that will be opened is not stuck. -/
theorem Opening.Underway.canStep {user : String} {o : Opening} {current : Option Tunnel}
    (hu : o.Underway user current) (hphase : o.phase ≠ .opened) :
    ∃ e o' es, step user o e = some (o', es) ∧ e.IsFriendly o ∧
      o'.phase.weight < o.phase.weight := by
  obtain ⟨id, target, keepAlive, lifecycle, phase⟩ := o
  cases hu with
  | choosing a left hchoosing hl =>
    simp only at hchoosing hl
    subst hchoosing hl
    exact ⟨.tried true, _, _, rfl, Or.inl rfl, Nat.lt_succ_self 28⟩
  | asking hasking hl =>
    simp only at hasking hl
    subst hasking hl
    exact ⟨.sent "" .done, _, _, rfl, rfl, Nat.lt_succ_self 27⟩
  | waiting hwaiting hl ht =>
    simp only at hwaiting hl
    subst hwaiting hl
    exact ⟨.received (.body (Body.connectSuccess "" "" "" 0)), _, _, rfl, ⟨_, rfl, Or.inr rfl⟩,
      Nat.lt_succ_self 26⟩
  | opened hopened hl ht => exact absurd hopened hphase

theorem exists_longer (ids : List String) : ∃ n, ∀ id ∈ ids, id.length < n := by
  induction ids with
  | nil => exact ⟨0, nofun⟩
  | cons id ids ih =>
    obtain ⟨n, hn⟩ := ih
    refine ⟨max n (id.length + 1), fun other hother => ?_⟩
    rcases List.mem_cons.mp hother with rfl | hmem
    · omega
    · have hless := hn other hmem
      omega

/-- No registry has all ids. -/
theorem Registry.exists_free {ν : Type} (r : Registry ν) (id : String) :
    ∃ suffix : String, r.get? s!"{id}-{suffix}" = none := by
  obtain ⟨n, hn⟩ := exists_longer (r.entries.map Prod.fst)
  -- an id that is longer than all that are taken is free
  obtain ⟨suffix, hsuffix⟩ : ∃ suffix : String, suffix.length = n :=
    ⟨String.ofList (List.replicate n 'x'), by rw [String.length_ofList, List.length_replicate]⟩
  refine ⟨suffix, ?_⟩
  rw [get?, List.lookup_eq_none_iff]
  intro entry hentry
  have hless := hn entry.1 (List.mem_map_of_mem hentry)
  have hlong : n ≤ (s!"{id}-{suffix}").length := by
    simp only [String.length_append, toString, hsuffix]
    omega
  rw [bne_iff_ne]
  rintro heq
  rw [← heq] at hless
  omega

namespace HttpSession

/-- What is left to do for a session. -/
def weight : HttpSession → Nat
  | first s => 100 * s.buffer.length + 41
  | naming _ _ s => 100 * s.buffer.length + 30
  | opening o _ s => 100 * s.buffer.length + o.phase.weight
  | establishing _ s => 100 * s.buffer.length + 26
  | relaying r => r.phase.weight
  | rejecting _ | closed => 0

/-- Something lighter can come next, in which nobody but the session decides what happens. -/
def CanStep (c : AgentContext) (link : ClientLink) (fires : Bool) (streams : Streams)
    (s : HttpSession) (unread : Bytes) : Prop :=
  ∃ e unread' streams' s' es, unread = (AgentSession.Event.reads (.http e)).getD [] ++ unread' ∧
    step c link streams s e = some (streams', s', es) ∧ e.IsFriendly c link fires streams s ∧
      (e.ends → unread' = []) ∧
        s'.weight + 200 * unread'.length < s.weight + 200 * unread.length

variable {c : AgentContext} {link : ClientLink} {fires : Bool} {streams : Streams}
  {session : HttpSession}
  {plan : List Errand} {unread : Bytes} {w : Wire}

theorem weight_handle (q : Http.Request) (s : Http.Inbound) :
    (handle q s).weight ≤ 100 * s.buffer.length + 30 := by
  unfold handle
  split
  · exact Nat.zero_le _
  · exact Nat.le_refl _

theorem weight_ofRelay (r : Relay) : (ofRelay r).weight ≤ r.phase.weight := by
  unfold ofRelay
  split
  · rename_i q s hphase
    rw [hphase]
    have hhandle := weight_handle q s
    simp only [Relay.Phase.weight]
    omega
  · exact Nat.le_refl _

theorem weight_start (user : String) (streams : Streams) (o : Opening) (data : Bytes)
    (source : Source) :
    (Relay.start user streams o data source).2.1.phase.weight ≤ 100 * source.buffered + 25 := by
  unfold Relay.start
  split
  · exact Nat.zero_le _
  · split
    · rw [Relay.weight_legs]
      omega
    · exact Nat.le_refl _

theorem weight_ofOpening (user : String) (streams : Streams) (o : Opening) (q : Http.Request)
    (s : Http.Inbound) :
    (ofOpening user streams o q s).2.1.weight ≤ 100 * s.buffer.length + o.phase.weight := by
  unfold ofOpening
  split
  · exact Nat.zero_le _
  · rename_i hphase
    rw [hphase]
    split
    · exact Nat.le_refl _
    · have hstart := weight_start user streams o (ahead q s).1 (ahead q s).2
      have hahead : (ahead q s).2.buffered ≤ s.buffer.length := by
        unfold ahead
        split
        · exact Nat.zero_le _
        · exact Nat.le_refl _
      refine Nat.le_trans hstart ?_
      simp only [Opening.Phase.weight]
      omega
  · exact Nat.le_refl _

/-- A first head that has come is taken off what has been read. -/
theorem weight_firstHead {s : Http.Inbound} {items : List Item}
    (h : Stands s unread [] items) (hne : unread ≠ []) (pieceSize : Nat) :
    (firstHead pieceSize (s.push unread)).weight <
      100 * s.buffer.length + 41 + 200 * unread.length := by
  have hpush : Stands (s.push unread) [] [] items := by
    apply Stands.push
    rw [List.append_nil]
    exact h
  have hcomes := Http.next_comes pieceSize hpush
  have hlength : (s.push unread).buffer.length = s.buffer.length + unread.length :=
    List.length_append
  have hpos := List.length_pos_iff.mpr hne
  unfold firstHead
  -- an octet that has been read weighs less than one that has not
  generalize Http.next pieceSize (s.push unread) = outcome at hcomes
  cases hcomes with
  | needsMore hmore =>
    simp only [weight]
    omega
  | piece hrest hpiece hless hs' =>
    simp only [weight]
    omega
  | @head i items s' hrest hitems hless hbegins =>
    have hhandle := weight_handle i.request s'
    simp only
    omega

/-- A session on errands that are neither done nor given up is not stuck. -/
theorem Keeps.canStep (link : ClientLink) (hproxies : c.proxies ≠ []) (hsize : 0 < c.pieceSize)
    (hk : Keeps c.userToken fires plan streams session unread w) :
    CanStep c link fires streams session unread ∨
      ∃ r ts, session = HttpSession.relaying r ∧ r.phase = .closed none ∧ w = ⟨ts, none⟩ ∧
        (fires ∨ unread = [] ∧ List.Forall₂ (Errand.DoneBy c.userToken) plan ts) := by
  cases hk with
  | @first s _ items hs hne hplan =>
    refine Or.inl ⟨.read unread, [], streams, firstHead c.pieceSize (s.push unread), [], ?_, ?_,
      trivial, by rintro ⟨⟩, ?_⟩
    · exact (List.append_nil unread).symm
    · simp only [step, if_neg hne]
    · exact weight_firstHead hs hne c.pieceSize
  | @naming s _ i items ts hdue =>
    obtain ⟨suffix, hfree⟩ := streams.exists_free link.id
    refine Or.inl ⟨.named suffix, unread, _, _, _, rfl, rfl, hfree, by rintro ⟨⟩, ?_⟩
    have hweight := weight_ofOpening c.userToken streams
      (Opening.start s!"{link.id}-{suffix}" i.target (keepsAlive i.request) c.proxies) i.request s
    have hphase : (Opening.start s!"{link.id}-{suffix}" i.target (keepsAlive i.request)
        c.proxies).phase.weight = 29 := by
      simp only [Opening.start, Opening.choose, if_neg hproxies, Opening.Phase.weight]
    rw [hphase] at hweight
    exact Nat.add_lt_add_right (Nat.lt_of_le_of_lt hweight (Nat.lt_succ_self _)) _
  | @opening s _ i items ts o current hdue hu hfree htarget hkeep hphase =>
    obtain ⟨e, o', es, hstep, hfriendly, hless⟩ := hu.canStep hphase
    have hsession : step c link streams (HttpSession.opening o i.request s) (.opening e) =
        some ((ofOpening c.userToken streams o' i.request s).1,
          (ofOpening c.userToken streams o' i.request s).2.1,
          es ++ (ofOpening c.userToken streams o' i.request s).2.2) := by
      simp only [step, hstep]
      rfl
    refine Or.inl ⟨.opening e, unread, _, _, _, rfl, hsession, ?_, by rintro ⟨⟩, ?_⟩
    · rintro o q s heq
      cases heq
      exact hfriendly
    · have hweight := weight_ofOpening c.userToken streams o' i.request s
      show _ < 100 * s.buffer.length + o.phase.weight + 200 * unread.length
      omega
  | @establishing s _ i items ts o t hdue hconnect hl hfree htarget ht =>
    refine Or.inl ⟨.wrote true, unread, _, _, _, rfl, rfl, rfl, by rintro ⟨⟩, ?_⟩
    have hweight := weight_start c.userToken streams o s.buffer .octets
    show (Relay.start c.userToken streams o s.buffer .octets).2.1.phase.weight +
      200 * unread.length < 100 * s.buffer.length + 26 + 200 * unread.length
    rw [Source.buffered] at hweight
    omega
  | @relaying r _ _ _ _ _ _ _ _ ho hdone ht hplan =>
    obtain ⟨e, unread', streams', r', es, hreads, hstep, hfriendly, hends, hless⟩ :=
      ho.canStep hsize streams
    have hsession : step c link streams (HttpSession.relaying r) (.relay e) =
        some (streams', ofRelay r', es) := by
      simp only [step, hstep]
      rfl
    refine Or.inl ⟨.relay e, unread', _, _, _, ?_, hsession, ?_, hends, ?_⟩
    · rw [AgentSession.Event.reads_http_relay]
      exact hreads
    · rintro r heq
      cases heq
      exact hfriendly
    · have hweight := weight_ofRelay r'
      show _ < r.phase.weight + 200 * unread.length
      omega
  | finished hphase hdone => exact Or.inr ⟨_, _, rfl, hphase, rfl, .inr ⟨rfl, hdone⟩⟩
  | deserted _ hfires hphase htaken => exact Or.inr ⟨_, _, rfl, hphase, rfl, .inl hfires⟩

end HttpSession

end TunnelRelay
