import TunnelRelay.Agent.Session
import TunnelRelay.Proofs.Agent.Session
import TunnelRelay.Proofs.Forward.Relay
import Mathlib.Data.List.Forall2

/-!
# A connection on errands

A client's connection does its errands one after the other: a tunnel is opened for the request that
is due, the relay carries that request and all behind it that go to the same target, and the first
that does not is due next. At any time the errands are those that have been done, that of the open
tunnel, and those of the requests that are left. When the watch of the tunnel fires, the connection
may end at that, and then the last errand is done in part and none after it.
-/

namespace TunnelRelay

open Http (Item Stands Begins)

/-! ## What is left -/

namespace Http.Item

variable {i : Item} {items : List Item}

/-- The errand of a request takes along what goes to its target. -/
theorem errands_cons (h : i.request.head.isConnect = false) :
    errands (i :: items) =
      ⟨i.target, HttpSession.keepsAlive i.request,
          i.data ++ (items.takeWhile (isFor i.target)).flatMap data⟩ ::
        errands (items.dropWhile (isFor i.target)) := by
  have hjoins : i.joins = isFor i.target := by
    funext j
    rw [joins, h, Bool.not_false, Bool.true_and]
  rw [errands, hjoins]

/-- The errand of an opaque stream is that stream. -/
theorem errands_connect (h : i.request.head.isConnect) :
    errands [i] = [⟨i.target, HttpSession.keepsAlive i.request, i.behind⟩] := by
  rw [errands, data, if_pos h, List.takeWhile_nil, List.dropWhile_nil, List.flatMap_nil,
    List.append_nil, errands_nil]

end Http.Item

/-! ## Opening a tunnel -/

namespace Opening

/-- An event that does not keep the tunnel from being opened: some proxy accepts, messages enter the
tunnel, and the proxy answers in time that the target is connected. -/
def Event.IsFriendly (o : Opening) : Event → Prop
  | tried accepted => accepted = true ∨ ∃ a b left, o.phase = .choosing (a :: b :: left)
  | sent _ outcome => outcome = .done
  | received r => ∃ m, r = .body m ∧ (m.kind = .heartbeat ∨ m.kind = .connectSuccess)
  | timedOut => False

/-- How far a tunnel has come that will be opened, and what has gone into it. -/
inductive Underway (user : String) (o : Opening) : Option Tunnel → Prop
  | choosing (a : ProxyAddress) (left : List ProxyAddress) : o.phase = .choosing (a :: left) →
    o.lifecycle = ⟨.idle, false⟩ → Underway user o none
  | asking : o.phase = .asking → o.lifecycle = ⟨.connecting, false⟩ →
    Underway user o (some ⟨o.id, []⟩)
  | waiting {t : Tunnel} : o.phase = .waiting → o.lifecycle = ⟨.connecting, false⟩ →
    Errand.DoneBy user ⟨o.target, o.keepAlive, []⟩ t → Underway user o (some t)
  | opened {t : Tunnel} : o.phase = .opened → o.lifecycle = ⟨.established, false⟩ →
    Errand.DoneBy user ⟨o.target, o.keepAlive, []⟩ t → Underway user o (some t)

variable {user : String} {o o' : Opening} {e : Event} {es : List AgentEffect}
  {current : Option Tunnel}

/-- A tunnel is on its way from the start. -/
theorem underway_start (user id : String) (target : Target) (keepAlive : Bool)
    {proxies : List ProxyAddress} (h : proxies ≠ []) :
    (start id target keepAlive proxies).Underway user none := by
  cases proxies with
  | nil => exact absurd rfl h
  | cons a left => exact .choosing a left rfl rfl

/-- A connect message by itself carries no octets yet. -/
theorem doneBy_connect (user id first : String) (target : Target) (keepAlive : Bool) :
    Errand.DoneBy user ⟨target, keepAlive, []⟩
      ⟨id, [Body.connect first user target.host target.port keepAlive]⟩ :=
  ⟨first, [], rfl, nofun, rfl⟩

/-- Nothing friendly keeps a tunnel from being opened. -/
theorem step_underway (h : step user o e = some (o', es)) (hfriendly : e.IsFriendly o)
    (hu : o.Underway user current) :
    ∃ current', o'.Underway user current' ∧
      (∀ ts, Wire.followAll ⟨ts, current⟩ es = some ⟨ts, current'⟩) ∧
      o'.id = o.id ∧ o'.target = o.target ∧ o'.keepAlive = o.keepAlive := by
  obtain ⟨id, target, keepAlive, lifecycle, phase⟩ := o
  cases hu with
  | choosing a left hphase hl =>
    simp only at hphase hl
    subst hphase hl
    cases e with
    | tried accepted =>
      cases accepted with
      | true =>
        cases h
        exact ⟨_, .asking rfl rfl, fun _ => rfl, rfl, rfl, rfl⟩
      | false =>
        cases h
        -- a proxy that does not accept is not the last one that can be tried
        rcases hfriendly with hfalse | ⟨a', b, more, hmore⟩
        · cases hfalse
        · cases hmore
          exact ⟨_, .choosing b more rfl rfl, fun _ => rfl, rfl, rfl, rfl⟩
    | _ => cases h
  | asking hphase hl =>
    simp only at hphase hl
    subst hphase hl
    cases e with
    | sent first outcome =>
      obtain rfl : outcome = .done := hfriendly
      cases h
      exact ⟨_, .waiting rfl rfl (doneBy_connect user id first target keepAlive), fun _ => rfl,
        rfl, rfl, rfl⟩
    | _ => cases h
  | waiting hphase hl ht =>
    simp only at hphase hl
    subst hphase hl
    cases e with
    | received r =>
      obtain ⟨m, rfl, hkind | hkind⟩ := hfriendly
      · simp only [step, answer, hkind, Option.some.injEq, Prod.mk.injEq] at h
        obtain ⟨rfl, rfl⟩ := h
        exact ⟨_, .waiting rfl rfl ht, fun _ => rfl, rfl, rfl, rfl⟩
      · simp only [step, answer, hkind, Option.some.injEq, Prod.mk.injEq] at h
        obtain ⟨rfl, rfl⟩ := h
        exact ⟨_, .opened rfl rfl ht, fun _ => rfl, rfl, rfl, rfl⟩
    | timedOut => exact hfriendly.elim
    | _ => cases h
  | opened hphase hl ht =>
    simp only at hphase hl
    subst hphase hl
    cases e with
    | tried accepted => cases accepted <;> cases h
    | _ => cases h

end Opening

/-- A relay over a tunnel under an id that is free owes what its first octets and the rest are. -/
theorem Relay.start_owes (user : String) {fires : Bool} {streams : Streams} {o : Opening}
    {data : Bytes} {source : Source} {unread owed : Bytes} {next : List Item}
    (hfree : streams.get? o.id = none) (hl : o.lifecycle = ⟨.established, false⟩)
    (ho : (ToProxy.sending data [] source).Owes o.target unread owed next) :
    (start user streams o data source).2.1.Owes fires unread owed next ∧
      (start user streams o data source).2.1.target = o.target ∧
      (start user streams o data source).2.2 = [] := by
  obtain ⟨streams', hcreate⟩ := Registry.exists_create hfree ⟨o.target, user, o.keepAlive⟩
  simp only [start, hcreate, hl, and_self, and_true]
  by_cases hdata : data = []
  · subst hdata
    obtain ⟨owed', rfl, hreading⟩ := ho.sent
    exact .running hreading rfl (by rintro ⟨⟩)
  · rw [if_neg hdata]
    exact .starting ho

/-! ## A client that speaks HTTP -/

namespace HttpSession

/-- An event in which nobody but the session decides what happens: an id is drawn that is free, and
the client takes what is written. -/
def Event.IsFriendly (c : AgentContext) (link : ClientLink) (fires : Bool) (streams : Streams)
    (s : HttpSession) : Event → Prop
  | failed => False
  | named suffix => streams.get? s!"{link.id}-{suffix}" = none
  | wrote success => success = true
  | opening e => ∀ o q i, s = .opening o q i → e.IsFriendly o
  | relay e => ∀ r, s = .relaying r → e.IsFriendly c fires r
  | _ => True

/-- The client ends its stream in the event. -/
def Event.ends : Event → Prop
  | ended => True
  | relay e => e.ends
  | _ => False

/-- The errands, by those that are done and those of the requests from the one that is due. -/
structure Due (user : String) (plan : List Errand) (s : Http.Inbound) (unread : Bytes) (i : Item)
    (items : List Item) (ts : List Tunnel) : Prop where
  begins : Begins s unread i items
  done : ∃ done, List.Forall₂ (Errand.DoneBy user) done ts ∧
    plan = done ++ Item.errands (i :: items)

/-- The errands, by those that are done, that of the open tunnel and those of the requests that are
left. -/
inductive Keeps (user : String) (fires : Bool) (plan : List Errand) :
    Streams → HttpSession → Bytes → Wire → Prop
  | first {streams : Streams} {s : Http.Inbound} {unread : Bytes} {items : List Item} :
    Stands s unread [] items → unread ≠ [] → plan = Item.errands items →
    Keeps user fires plan streams (first s) unread .empty
  | naming (streams : Streams) {s : Http.Inbound} {unread : Bytes} {i : Item}
    {items : List Item} {ts : List Tunnel} : Due user plan s unread i items ts →
    Keeps user fires plan streams (naming i.target i.request s) unread ⟨ts, none⟩
  | opening {streams : Streams} {s : Http.Inbound} {unread : Bytes} {i : Item}
    {items : List Item} {ts : List Tunnel} {o : Opening} {current : Option Tunnel} :
    Due user plan s unread i items ts → o.Underway user current → streams.get? o.id = none →
    o.target = i.target → o.keepAlive = keepsAlive i.request → o.phase ≠ .opened →
    Keeps user fires plan streams (opening o i.request s) unread ⟨ts, current⟩
  | establishing {streams : Streams} {s : Http.Inbound} {unread : Bytes} {i : Item}
    {items : List Item} {ts : List Tunnel} {o : Opening} {t : Tunnel} :
    Due user plan s unread i items ts → i.request.head.isConnect →
    o.lifecycle = ⟨.established, false⟩ → streams.get? o.id = none → o.target = i.target →
    Errand.DoneBy user ⟨i.target, keepsAlive i.request, []⟩ t →
    Keeps user fires plan streams (establishing o s) unread ⟨ts, some t⟩
  | relaying (streams : Streams) {r : Relay} {unread sent owed : Bytes} {keepAlive : Bool}
    {next : List Item} {done : List Errand} {ts : List Tunnel} {t : Tunnel} :
    r.Owes fires unread owed next → List.Forall₂ (Errand.DoneBy user) done ts →
    Errand.DoneBy user ⟨r.target, keepAlive, sent⟩ t →
    plan = done ++ ⟨r.target, keepAlive, sent ++ owed⟩ :: Item.errands next →
    Keeps user fires plan streams (relaying r) unread ⟨ts, some t⟩
  | finished (streams : Streams) {r : Relay} {ts : List Tunnel} : r.phase = .closed none →
    List.Forall₂ (Errand.DoneBy user) plan ts →
    Keeps user fires plan streams (relaying r) [] ⟨ts, none⟩
  | deserted (streams : Streams) {r : Relay} {ts : List Tunnel} (unread : Bytes) : fires →
    r.phase = .closed none → Errand.TakenUpBy user plan ts →
    Keeps user fires plan streams (relaying r) unread ⟨ts, none⟩

variable {user : String} {fires : Bool} {plan : List Errand} {streams streams' : Streams}
  {s : Http.Inbound} {unread : Bytes} {i : Item} {items : List Item} {ts : List Tunnel} {t : Tunnel}

/-- A request that is due and has a target gets a tunnel. -/
theorem handle_keeps (streams : Streams) (h : Due user plan s unread i items ts) :
    Keeps user fires plan streams (handle i.request s) unread ⟨ts, none⟩ := by
  rw [handle, i.resolves]
  exact .naming streams h

/-- The relay of the request that is due owes what its errand asks. -/
theorem start_keeps {o : Opening} {data : Bytes} {source : Source} {owed : Bytes}
    {next : List Item} (h : Due user plan s unread i items ts)
    (hl : o.lifecycle = ⟨.established, false⟩) (hfree : streams.get? o.id = none)
    (htarget : o.target = i.target)
    (ht : Errand.DoneBy user ⟨i.target, keepsAlive i.request, []⟩ t)
    (ho : (ToProxy.sending data [] source).Owes i.target unread owed next)
    (herrands : Item.errands (i :: items) =
      ⟨i.target, keepsAlive i.request, owed⟩ :: Item.errands next) :
    Keeps user fires plan (Relay.start user streams o data source).1
        (relaying (Relay.start user streams o data source).2.1) unread ⟨ts, some t⟩ ∧
      (Relay.start user streams o data source).2.2 = [] := by
  rw [← htarget] at ho ht herrands
  obtain ⟨howes, hsame, heffects⟩ := Relay.start_owes user hfree hl ho
  obtain ⟨done, hdone, hplan⟩ := h.done
  rw [← hsame] at ht herrands
  refine ⟨.relaying _ howes hdone ht ?_, heffects⟩
  rw [hplan, herrands, List.nil_append]

/-- What goes ahead of a forwarded request is owed with the rest of its errand. -/
theorem ahead_owes (target : Target) (h : Begins s unread i items)
    (hconnect : i.request.head.isConnect = false) :
    (ToProxy.sending (ahead i.request s).1 [] (ahead i.request s).2).Owes target unread
      (i.data ++ (items.takeWhile (Item.isFor target)).flatMap Item.data)
      (items.dropWhile (Item.isFor target)) := by
  have hlegs := ToProxy.owes_ahead target h hconnect
  unfold ahead
  split
  · rename_i hchunked
    rw [if_pos hchunked] at hlegs
    exact hlegs.join
  · rename_i hchunked
    rw [if_neg hchunked] at hlegs
    exact hlegs

/-- A tunnel that comes nearer to being open keeps the errands. -/
theorem ofOpening_keeps {o : Opening} {current : Option Tunnel}
    (h : Due user plan s unread i items ts) (hu : o.Underway user current)
    (hfree : streams.get? o.id = none) (htarget : o.target = i.target)
    (hkeep : o.keepAlive = keepsAlive i.request) :
    Keeps user fires plan (ofOpening user streams o i.request s).1
        (ofOpening user streams o i.request s).2.1 unread ⟨ts, current⟩ ∧
      (ofOpening user streams o i.request s).2.2 = [] := by
  cases hu with
  | choosing a left hphase hl =>
    simp only [ofOpening, hphase]
    exact ⟨.opening h (.choosing a left hphase hl) hfree htarget hkeep (by rw [hphase]; nofun),
      trivial⟩
  | asking hphase hl =>
    simp only [ofOpening, hphase]
    exact ⟨.opening h (.asking hphase hl) hfree htarget hkeep (by rw [hphase]; nofun),
      trivial⟩
  | waiting hphase hl ht =>
    simp only [ofOpening, hphase]
    exact ⟨.opening h (.waiting hphase hl ht) hfree htarget hkeep (by rw [hphase]; nofun),
      trivial⟩
  | opened hphase hl ht =>
    rw [htarget, hkeep] at ht
    by_cases hconnect : i.request.head.isConnect = true
    · simp only [ofOpening, hphase, if_pos hconnect]
      exact ⟨.establishing h hconnect hl hfree htarget ht, trivial⟩
    · simp only [ofOpening, hphase, if_neg hconnect]
      rw [Bool.not_eq_true] at hconnect
      exact start_keeps h hl hfree htarget ht (ahead_owes i.target h.begins hconnect)
        (Item.errands_cons hconnect)

variable {c : AgentContext} {link : ClientLink} {session session' : HttpSession} {e : Event}
  {es : List AgentEffect} {w : Wire}

/-- The first head, once it has come, is that of the first request. -/
theorem firstHead_keeps (streams : Streams) (pieceSize : Nat) {b : Bytes}
    (h : Stands s (b ++ unread) [] items) (hne : b ++ unread ≠ [])
    (hplan : plan = Item.errands items) :
    Keeps user fires plan streams (firstHead pieceSize (s.push b)) unread .empty := by
  have hpush := h.push
  have hcomes := Http.next_comes pieceSize hpush
  unfold firstHead
  generalize Http.next pieceSize (s.push b) = outcome at hcomes
  cases hcomes with
  | needsMore hmore =>
    refine .first hpush ?_ hplan
    rcases hmore with hmore | ⟨-, rfl⟩
    · exact hmore
    · -- without a request there is nothing to come
      have hoctets := h.octets
      rw [Item.stream_nil, List.append_nil, List.append_eq_nil_iff] at hoctets
      exact absurd hoctets.2 hne
  | piece hrest hpiece hless hs' =>
    exact absurd (List.append_eq_nil_iff.mp hrest.symm).1 hpiece
  | head hrest hitems hless hbegins =>
    exact handle_keeps streams ⟨hbegins, [], .nil, by rw [hplan, hitems, List.nil_append]⟩

/-- The relay goes on as long as its legs do. -/
theorem ofRelay_of_owes {r : Relay} {owed : Bytes} {next : List Item}
    (h : r.Owes fires unread owed next) : ofRelay r = relaying r := by
  cases h <;> rfl

/-- What a relay pays of its errand keeps the errands; when it closes, its errand is done. -/
theorem pays_keeps {r r' : Relay} {sent owed : Bytes} {keepAlive : Bool} {next : List Item}
    {done : List Errand} (streams : Streams)
    (h : Relay.Pays fires r.target c.userToken unread owed next r' es)
    (hdone : List.Forall₂ (Errand.DoneBy c.userToken) done ts)
    (ht : Errand.DoneBy c.userToken ⟨r.target, keepAlive, sent⟩ t)
    (hplan : plan = done ++ ⟨r.target, keepAlive, sent ++ owed⟩ :: Item.errands next) :
    ∃ w', Wire.followAll ⟨ts, some t⟩ es = some w' ∧
      Keeps c.userToken fires plan streams (ofRelay r') unread w' := by
  cases h with
  | nothing hes htarget ho =>
    rw [ofRelay_of_owes ho]
    rw [← htarget] at ht hplan
    rcases hes with rfl | ⟨b, rfl⟩
    · exact ⟨_, rfl, .relaying streams ho hdone ht hplan⟩
    · exact ⟨_, rfl, .relaying streams ho hdone ht hplan⟩
  | @part id b owed' howed htarget ho =>
    rw [ofRelay_of_owes ho]
    have hcarried := ht.carry id b
    rw [howed, ← List.append_assoc] at hplan
    rw [← htarget] at hcarried hplan
    refine ⟨_, rfl, .relaying streams ho hdone ?_ hplan⟩
    rw [← htarget]
    exact hcarried
  | closing hphase hleaves =>
    -- the open tunnel has carried its errand whole, and joins those that are closed
    have hall : List.Forall₂ (Errand.DoneBy c.userToken)
        (done ++ [⟨r.target, keepAlive, sent⟩]) (ts ++ [t]) :=
      List.rel_append hdone (.cons ht .nil)
    refine ⟨_, rfl, ?_⟩
    rcases hleaves with ho | ⟨hfires, rfl⟩
    · cases ho with
      | handedBack hbegins =>
        rw [ofRelay, hphase]
        refine handle_keeps streams ⟨hbegins, _, hall, ?_⟩
        rw [hplan, List.append_nil, List.append_assoc, List.singleton_append]
      | ended =>
        rw [ofRelay, hphase]
        refine .finished streams hphase ?_
        rw [hplan, Item.errands_nil, List.append_nil]
        exact hall
    · -- the watch has fired, and what is still owed will not be carried
      rw [ofRelay, hphase]
      refine .deserted streams unread hfires hphase ?_
      rw [hplan]
      exact Errand.takenUpBy_append hdone (.last (.inr ⟨sent, List.prefix_append _ _, ht⟩))

/-- **A session keeps its errands**: it does a part of them or nothing, and nothing else. -/
theorem step_keeps (hproxies : c.proxies ≠ [])
    (h : step c link streams session e = some (streams', session', es))
    (hfriendly : e.IsFriendly c link fires streams session) (hends : e.ends → unread = [])
    (hk : Keeps c.userToken fires plan streams session
      ((AgentSession.Event.reads (.http e)).getD [] ++ unread) w) :
    ∃ w', w.followAll es = some w' ∧ Keeps c.userToken fires plan streams' session' unread w' := by
  generalize hall : (AgentSession.Event.reads (.http e)).getD [] ++ unread = all at hk
  cases hk with
  | first hs hne hplan =>
    subst hall
    cases e with
    | read b =>
      simp only [step] at h
      split at h
      · cases h
      · cases h
        exact ⟨_, rfl, firstHead_keeps streams c.pieceSize hs hne hplan⟩
    | ended => exact absurd (hends trivial) hne
    | failed => exact hfriendly.elim
    | _ => cases h
  | @naming s _ i items ts hdue =>
    subst hall
    cases e with
    | named suffix =>
      simp only [step, Option.some.injEq] at h
      have hu := Opening.underway_start c.userToken s!"{link.id}-{suffix}" i.target
        (keepsAlive i.request) hproxies
      obtain ⟨hkeeps, heffects⟩ := ofOpening_keeps hdue hu hfriendly rfl rfl
      rw [h] at hkeeps heffects
      obtain rfl : es = [] := heffects
      exact ⟨_, rfl, hkeeps⟩
    | _ => cases h
  | opening hdue hu hfree htarget hkeep hphase =>
    subst hall
    cases e with
    | opening e =>
      obtain ⟨⟨o', es'⟩, hstep, heq⟩ := Option.bind_eq_some_iff.mp h
      -- the octets that have been read wait until the tunnel is open
      obtain ⟨current', hu', hwire, hid, htarget', hkeep'⟩ :=
        Opening.step_underway hstep (hfriendly _ _ _ rfl) hu
      obtain ⟨hkeeps, heffects⟩ := ofOpening_keeps hdue hu' (hid ▸ hfree)
        (htarget'.trans htarget) (hkeep'.trans hkeep)
      simp only [pure, Option.some.injEq, Prod.mk.injEq, heffects, List.append_nil] at heq
      obtain ⟨rfl, rfl, rfl⟩ := heq
      exact ⟨_, hwire _, hkeeps⟩
    | _ => cases h
  | @establishing s _ i items ts o t hdue hconnect hl hfree htarget ht =>
    subst hall
    cases e with
    | wrote success =>
      obtain rfl : success = true := hfriendly
      -- all that stands behind a head to connect belongs to the opaque stream
      obtain ⟨rfl, hbehind⟩ := hdue.begins.last (by simp [Item.isPlain, hconnect])
      have ho : (ToProxy.sending s.buffer [] .octets).Owes i.target unread i.behind [] := by
        rw [← hbehind]
        exact .sendingOctets s.buffer [] unread
      obtain ⟨hkeeps, heffects⟩ := start_keeps hdue hl hfree htarget ht ho
        (by rw [Item.errands_connect hconnect, Item.errands_nil])
      simp only [step, heffects, Option.some.injEq, Prod.mk.injEq] at h
      obtain ⟨rfl, rfl, rfl⟩ := h
      exact ⟨_, rfl, hkeeps⟩
    | _ => cases h
  | relaying ho hdone ht hplan =>
    subst hall
    cases e with
    | relay e =>
      obtain ⟨⟨streams'', r', es'⟩, hstep, heq⟩ := Option.bind_eq_some_iff.mp h
      cases heq
      rw [AgentSession.Event.reads_http_relay] at ho
      exact pays_keeps _ (Relay.step_pays hstep (hfriendly _ rfl) hends ho) hdone ht hplan
    | _ => cases h
  | finished hphase hdone =>
    cases e with
    | relay e =>
      have hnone : Relay.step c streams _ e = none := Relay.step_closed hphase e
      simp only [step, hnone, bind, Option.bind] at h
      cases h
    | _ => cases h
  | deserted _ hfires hphase htaken =>
    cases e with
    | relay e =>
      have hnone : Relay.step c streams _ e = none := Relay.step_closed hphase e
      simp only [step, hnone, bind, Option.bind] at h
      cases h
    | _ => cases h

/-- A tunnel that will be opened has begun its errand. -/
theorem begunBy_of_underway {o : Opening} {current : Tunnel}
    (hu : o.Underway user (some current)) (htarget : o.target = i.target)
    (hkeep : o.keepAlive = keepsAlive i.request) (data : Bytes) :
    Errand.BegunBy user ⟨i.target, keepsAlive i.request, data⟩ current := by
  rw [← htarget, ← hkeep]
  cases hu with
  | asking hphase hl => exact .inl rfl
  | waiting hphase hl ht => exact .inr ⟨[], List.nil_prefix, ht⟩
  | opened hphase hl ht => exact .inr ⟨[], List.nil_prefix, ht⟩

/-- What is due is taken up by the tunnel that has begun it. -/
theorem Due.takenUp (h : Due user plan s unread i items ts)
    (hbegun : ∀ data, Errand.BegunBy user ⟨i.target, keepsAlive i.request, data⟩ t) :
    Errand.TakenUpBy user plan (ts ++ [t]) := by
  obtain ⟨done, hdone, rfl⟩ := h.done
  rw [Item.errands]
  exact Errand.takenUpBy_append hdone (.last (hbegun _))

/-- The tunnels of a session have taken the errands up in their order. -/
theorem Keeps.takenUp (hk : Keeps user fires plan streams session unread w) :
    Errand.TakenUpBy user plan w.tunnels := by
  have hclosed (ts : List Tunnel) : (⟨ts, none⟩ : Wire).tunnels = ts := List.append_nil ts
  cases hk with
  | first => exact .none plan
  | naming hdue =>
    obtain ⟨done, hdone, rfl⟩ := hdue.done
    rw [hclosed]
    exact Errand.takenUpBy_of_done hdone _
  | @opening s _ i items ts o current hdue hu hfree htarget hkeep =>
    cases current with
    | none =>
      obtain ⟨done, hdone, rfl⟩ := hdue.done
      rw [hclosed]
      exact Errand.takenUpBy_of_done hdone _
    | some t => exact hdue.takenUp (begunBy_of_underway hu htarget hkeep)
  | establishing hdue hconnect hl hfree htarget ht =>
    exact hdue.takenUp fun _ => .inr ⟨[], List.nil_prefix, ht⟩
  | @relaying r _ sent owed _ _ done _ _ ho hdone ht hplan =>
    rw [hplan]
    exact Errand.takenUpBy_append hdone (.last (.inr ⟨sent, List.prefix_append _ _, ht⟩))
  | finished hphase hdone =>
    rw [hclosed]
    simpa using Errand.takenUpBy_of_done hdone []
  | deserted unread hfires hphase htaken =>
    rw [hclosed]
    exact htaken

end HttpSession

/-! ## A client's connection -/

namespace AgentSession

/-- An event in which nobody but the agent decides what happens: the first octet is the client's,
and all that comes later is a friendly event of its session. -/
def Event.IsFriendly (c : AgentContext) (link : ClientLink) (fires : Bool) (rs : AgentRegistries)
    (s : AgentSession) (unread : Bytes) : Event → Prop
  | first octet => octet = unread.head?
  | http e => ∀ h, s = .http h → e.IsFriendly c link fires rs.streams h
  | _ => True

/-- The client ends its stream in the event. -/
def Event.ends : Event → Prop
  | http e => e.ends
  | _ => False

/-- The errands of a client's requests, by what the connection has done and what it will do. -/
inductive Keeps (user : String) (fires : Bool) (plan : List Errand) :
    AgentRegistries → AgentSession → Bytes → Wire → Prop
  | fresh (rs : AgentRegistries) {items : List Item} : Item.Sequence items →
    plan = Item.errands items → Keeps user fires plan rs fresh (Item.stream items) .empty
  | http {rs : AgentRegistries} {s : HttpSession} {unread : Bytes} {w : Wire} :
    s.Keeps user fires plan rs.streams unread w → Keeps user fires plan rs (http s) unread w
  | closed (rs : AgentRegistries) : plan = [] → Keeps user fires plan rs closed [] .empty

variable {c : AgentContext} {link : ClientLink} {fires : Bool} {rs rs' : AgentRegistries}
  {s s' : AgentSession} {e : Event} {es : List AgentEffect} {plan : List Errand} {unread : Bytes}
  {w : Wire} {octet : UInt8}

/-- The first octet of requests is that of HTTP. -/
theorem ofFirst_eq_http {items : List Item} (h : (Item.stream items).head? = some octet) :
    ofFirst (some octet) = http HttpSession.start := by
  cases items with
  | nil => cases h
  | cons i items =>
    have hfront := i.front_ne_nil
    have hhead := i.isHead
    rw [Item.stream_cons] at h
    generalize i.front = front at h hfront hhead
    cases front with
    | nil => exact absurd rfl hfront
    | cons x front =>
      cases h
      exact ofFirst_of_head hhead

/-- **A connection keeps its errands.** -/
theorem step_keeps (hproxies : c.proxies ≠ []) (h : step c link rs s e = some (rs', s', es))
    (hfriendly : e.IsFriendly c link fires rs s (e.reads.getD [] ++ unread))
    (hends : e.ends → unread = [])
    (hk : Keeps c.userToken fires plan rs s (e.reads.getD [] ++ unread) w) :
    ∃ w', w.followAll es = some w' ∧ Keeps c.userToken fires plan rs' s' unread w' := by
  generalize hall : e.reads.getD [] ++ unread = all at hk hfriendly
  cases hk with
  | @fresh items hsequence hplan =>
    cases e with
    | first octet =>
      obtain rfl : octet = (Item.stream items).head? := hfriendly
      obtain rfl : unread = Item.stream items := hall
      cases h
      refine ⟨_, rfl, ?_⟩
      cases hfirst : (Item.stream items).head? with
      | none =>
        -- a client that sends nothing asks nothing
        have hnil := List.head?_eq_none_iff.mp hfirst
        rw [hnil]
        refine .closed _ ?_
        rw [hplan, Item.eq_nil_of_stream hnil, Item.errands_nil]
      | some octet =>
        rw [ofFirst_eq_http hfirst]
        refine .http (.first (Http.stands_empty hsequence) ?_ hplan)
        intro hnil
        rw [hnil] at hfirst
        cases hfirst
    | _ => cases h
  | http hs =>
    subst hall
    cases e with
    | http e =>
      obtain ⟨⟨streams, s'', es'⟩, hstep, heq⟩ := Option.bind_eq_some_iff.mp h
      cases heq
      obtain ⟨w', hwire, hkeeps⟩ :=
        HttpSession.step_keeps hproxies hstep (hfriendly _ rfl) hends hs
      exact ⟨w', hwire, .http hkeeps⟩
    | _ => cases h
  | closed hplan => cases e <;> cases h

/-- The tunnels of a connection have taken the errands up in their order. -/
theorem Keeps.takenUp (hk : Keeps c.userToken fires plan rs s unread w) :
    Errand.TakenUpBy c.userToken plan w.tunnels := by
  cases hk with
  | fresh hsequence hplan => exact .none plan
  | http hs => exact hs.takenUp
  | closed hplan => exact .none plan

end AgentSession

end TunnelRelay
