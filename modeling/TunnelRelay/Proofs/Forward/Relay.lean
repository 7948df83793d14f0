import TunnelRelay.Proofs.Agent.Passage
import TunnelRelay.Proofs.Forward.Plan

/-!
# A relay on an errand

While everybody else does their part, the leg to the proxy owes a definite sequence of octets to its
tunnel: what it is about to send, what it has read and will send, and what is still to come for this
target. Each step pays a part of that or none, and nothing but that. When the leg ends it owes
nothing, and the requests that are left are those for other tunnels, the first of which it hands
back. Only the relay's own watch can make the leg end before: a tunnel on which nothing comes back
for too long is given up, and an upload is no reason to wait.
-/

namespace TunnelRelay

open Http (Item Stands Begins)

/-! ## The leg to the proxy -/

namespace ToProxy

/-- What a leg owes to its tunnel, and the requests that are left for others. -/
inductive Owes (target : Target) : ToProxy → Bytes → Bytes → List Item → Prop
  | reading {s : Http.Inbound} {unread rest : Bytes} {items : List Item} :
    Stands s unread rest items →
    Owes target (reading (.requests s)) unread
      (rest ++ (items.takeWhile (Item.isFor target)).flatMap Item.data)
      (items.dropWhile (Item.isFor target))
  | sending (data : Bytes) {s : Http.Inbound} {unread rest : Bytes} {items : List Item} :
    Stands s unread rest items →
    Owes target (sending data [] (.requests s)) unread
      (data ++ (rest ++ (items.takeWhile (Item.isFor target)).flatMap Item.data))
      (items.dropWhile (Item.isFor target))
  | readingOctets (unread : Bytes) : Owes target (reading .octets) unread unread []
  | sendingOctets (data rest unread : Bytes) :
    Owes target (sending data rest .octets) unread (data ++ (rest ++ unread)) []
  | handedBack {s : Http.Inbound} {unread : Bytes} {i : Item} {items : List Item} :
    Begins s unread i items → Owes target (ended (some (i.request, s))) unread [] (i :: items)
  | ended : Owes target (ended none) [] [] []

/-- An event in which nobody but the leg decides what happens. -/
def Event.IsFriendly : Event → Prop
  | failed => False
  | sent _ outcome => outcome = .done
  | _ => True

variable {target : Target} {unread owed : Bytes} {next : List Item}

/-- What has been sent is not owed any more. -/
theorem Owes.sent {data : Bytes} {source : Source}
    (h : Owes target (.sending data [] source) unread owed next) :
    ∃ owed', owed = data ++ owed' ∧ Owes target (.reading source) unread owed' next := by
  cases h with
  | sending data hs => exact ⟨_, rfl, .reading hs⟩
  | sendingOctets data rest unread => exact ⟨unread, rfl, .readingOctets unread⟩

/-- Octets may be sent with those that follow them. -/
theorem Owes.join {data rest : Bytes}
    (h : Owes target (.sending data rest .octets) unread owed next) :
    Owes target (.sending (data ++ rest) [] .octets) unread owed next := by
  cases h with
  | sendingOctets data rest unread =>
    rw [← List.append_assoc]
    exact .sendingOctets (data ++ rest) [] unread

/-- Whether a leg takes a request is told by its target. -/
theorem isFor_head (target : Target) (i : Item) :
    isFor target i.request.head = i.isFor target := by
  have heq : (i.target.host = target.host ∧ i.target.port = target.port) ↔ i.target = target := by
    constructor
    · rintro ⟨hhost, hport⟩
      cases hi : i.target with
      | mk host port => simp_all
    · rintro rfl
      exact ⟨rfl, rfl⟩
  simp only [isFor, i.resolves, Item.isFor, Bool.and_assoc, ← Bool.decide_and, heq]

/-- The octets that go ahead of a request that is taken, and those of the requests behind it that
are taken with it. -/
theorem owes_ahead (target : Target) {s : Http.Inbound} {i : Item} {items : List Item}
    (h : Begins s unread i items) (hplain : i.request.head.isConnect = false) :
    Owes target
      (if i.request.chunked then .sending i.request.head.toBytes s.buffer .octets
        else .sending i.request.head.toBytes [] (.requests s))
      unread (i.data ++ (items.takeWhile (Item.isFor target)).flatMap Item.data)
      (items.dropWhile (Item.isFor target)) := by
  simp only [Item.data, hplain, Bool.false_eq_true, if_false, List.append_assoc]
  -- only the target knows where a chunked body ends, so all that follows belongs to it
  by_cases hchunked : i.request.chunked = true
  · obtain ⟨rfl, hbehind⟩ := h.last (by simp [Item.isPlain, hchunked])
    rw [if_pos hchunked, ← hbehind]
    simpa using Owes.sendingOctets i.request.head.toBytes s.buffer unread
  · rw [if_neg hchunked]
    exact .sending _ (h.stands (by simp [Item.isPlain, hplain, hchunked]))

/-- What the requests that have been read lead to owes the same. -/
theorem decode_owes {size : Nat} {s : Http.Inbound} {rest : Bytes} {items : List Item}
    {leg : ToProxy} (hs : Stands s unread rest items) (h : decode size target s = some leg) :
    Owes target leg unread (rest ++ (items.takeWhile (Item.isFor target)).flatMap Item.data)
      (items.dropWhile (Item.isFor target)) := by
  have hcomes := Http.next_comes size hs
  unfold decode at h
  generalize Http.next size s = outcome at h hcomes
  cases hcomes with
  | needsMore hmore => cases h
  | piece hrest hne hless hs' =>
    cases h
    rw [hrest, List.append_assoc]
    exact .sending _ hs'
  | @head i items s' hrest hitems hless hbegins =>
    cases h
    subst hrest hitems
    rw [List.nil_append, forward, isFor_head]
    -- a request for another target ends the leg, and is handed back with those behind it
    by_cases hfor : i.isFor target = true
    · rw [hfor, List.takeWhile_cons_of_pos hfor, List.dropWhile_cons_of_pos hfor,
        List.flatMap_cons]
      have hconnect : i.request.head.isConnect = false := by
        rw [Item.isFor, Bool.and_eq_true, Bool.not_eq_true'] at hfor
        exact hfor.1
      exact owes_ahead target hbegins hconnect
    · rw [List.takeWhile_cons_of_neg hfor, List.dropWhile_cons_of_neg hfor,
        Bool.not_eq_true _ |>.mp hfor]
      exact .handedBack hbegins

/-- A leg that sees the session closed drops what it has. -/
theorem step_of_closed {size : Nat} {user : String} {leg leg' : ToProxy} {es : List AgentEffect}
    (h : step size user target leg .closed = some (leg', es)) : leg' = ended none ∧ es = [] := by
  cases leg with
  | reading source =>
    cases h
    exact ⟨rfl, rfl⟩
  | _ => cases h

/-- A leg pays a part of what it owes, or nothing. -/
theorem step_owes {size : Nat} {user : String} {leg leg' : ToProxy} {e : Event}
    {es : List AgentEffect} (h : step size user target leg e = some (leg', es))
    (hfriendly : e.IsFriendly) (hopen : e ≠ .closed) (hended : e = .ended → unread = [])
    (ho : Owes target leg (e.reads.getD [] ++ unread) owed next) :
    (es = [] ∧ Owes target leg' unread owed next) ∨
      ∃ id b owed', es = [.message (Body.tcpData id user target.host target.port b)] ∧
        owed = b ++ owed' ∧ Owes target leg' unread owed' next := by
  cases e with
  | closed => exact absurd rfl hopen
  | failed => exact hfriendly.elim
  | read b =>
    generalize hall : (Event.read b).reads.getD [] ++ unread = all at ho
    cases ho with
    | reading hs =>
      simp only [step] at h
      split at h
      · cases h
        subst hall
        exact Or.inl ⟨rfl, .reading hs.push⟩
      · cases h
    | readingOctets =>
      simp only [step] at h
      split at h
      · cases h
        subst hall
        exact Or.inl ⟨rfl, .sendingOctets b [] unread⟩
      · cases h
    | _ => cases h
  | ended =>
    -- a client that has sent everything ends its stream between two requests
    obtain rfl := hended rfl
    cases ho with
    | @reading s _ rest items hs =>
      simp only [step] at h
      split at h
      · rename_i hneeds
        cases h
        have hcomes := Http.next_comes size hs
        simp only [needsMore] at hneeds
        generalize Http.next size s = outcome at hneeds hcomes
        cases hcomes with
        | needsMore hmore =>
          rcases hmore with hmore | ⟨rfl, rfl⟩
          · exact absurd rfl hmore
          · exact Or.inl ⟨rfl, .ended⟩
        | piece hrest hne hless hs' => cases hneeds
        | head hrest hitems hless hbegins => cases hneeds
      · cases h
    | readingOctets =>
      cases h
      exact Or.inl ⟨rfl, .ended⟩
    | _ => cases h
  | decode =>
    cases ho with
    | @reading s _ rest items hs =>
      obtain ⟨leg, hdecode, heq⟩ := Option.map_eq_some_iff.mp h
      cases heq
      exact Or.inl ⟨rfl, decode_owes hs hdecode⟩
    | _ => cases h
  | sent id outcome =>
    obtain rfl : outcome = .done := hfriendly
    cases ho with
    | sending data hs =>
      cases h
      exact Or.inr ⟨id, data, _, rfl, rfl, .reading hs⟩
    | sendingOctets data rest =>
      cases h
      refine Or.inr ⟨id, data, rest ++ unread, rfl, rfl, ?_⟩
      -- what was read behind the head goes next, and then the stream as it comes
      by_cases hrest : rest = []
      · rw [if_pos hrest, hrest]
        exact .readingOctets unread
      · rw [if_neg hrest]
        simpa using Owes.sendingOctets rest [] unread
    | _ => cases h

end ToProxy

/-! ## The leg to the client -/

/-- An event in which the proxy sends what belongs to a stream and the client takes what is
written. -/
def FromProxy.Event.IsFriendly (limit : UInt32) (leg : FromProxy) : FromProxy.Event → Prop
  | closed => True
  | received r => ∃ m, r = .body m ∧ (m.kind = .heartbeat ∨ m.kind = .okTcp)
  | wrote writes flushes =>
    ∀ data, leg = .writing data → (writeAll limit writes flushes data).result = .ok ()

/-- A leg to the client writes to the client, if it does anything. -/
theorem FromProxy.step_writes {limit : UInt32} {leg leg' : FromProxy} {e : Event}
    {es : List AgentEffect} (h : step limit leg e = some (leg', es)) :
    es = [] ∨ ∃ b, es = [.toClient b] := by
  unfold step at h
  split at h
  · cases h
    exact Or.inl rfl
  · cases h
    exact Or.inl rfl
  · simp only at h
    split at h
    all_goals
      cases h
      exact Or.inr ⟨_, rfl⟩
  · cases h

/-- A leg to the client ends only when it is told to. -/
theorem FromProxy.step_ne_ended {limit : UInt32} {leg leg' : FromProxy} {e : Event}
    {es : List AgentEffect} (h : step limit leg e = some (leg', es))
    (hfriendly : e.IsFriendly limit leg) (hopen : e ≠ .closed) : leg' ≠ ended := by
  cases e with
  | closed => exact absurd rfl hopen
  | received r =>
    obtain ⟨m, rfl, hkind⟩ := hfriendly
    cases leg with
    | reading =>
      cases h
      rcases hkind with hkind | hkind <;> simp [receive, hkind]
    | _ => cases h
  | wrote writes flushes =>
    cases leg with
    | writing data =>
      simp only [step, hfriendly data rfl, Option.some.injEq, Prod.mk.injEq] at h
      rw [← h.1]
      rintro ⟨⟩
    | _ => cases h

/-! ## The relay -/

namespace Relay

/-- The leg to the proxy has ended with nothing left for its tunnel, or because the watch fired. -/
def Leaves (fires : Bool) (target : Target) (handed : Option HandBack) (unread owed : Bytes)
    (next : List Item) : Prop :=
  (ToProxy.ended handed).Owes target unread owed next ∨ fires ∧ handed = none

/-- What a relay owes to its tunnel, and the requests that are left for others. As long as the leg
to the proxy runs, nothing but the watch has told the others to stop. -/
inductive Owes (fires : Bool) : Relay → Bytes → Bytes → List Item → Prop
  | starting {id : String} {target : Target} {data : Bytes} {source : Source}
    {unread owed : Bytes} {next : List Item} :
    (ToProxy.sending data [] source).Owes target unread owed next →
    Owes fires ⟨id, target, ⟨.established, false⟩, .starting data source⟩ unread owed next
  | running {id : String} {target : Target} {up : ToProxy} {down : FromProxy}
    {unread owed : Bytes} {next : List Item} :
    up.Owes target unread owed next → up.isEnded = false → down ≠ .ended →
    Owes fires ⟨id, target, ⟨.established, false⟩, .running up down true⟩ unread owed next
  | alarmed {id : String} {target : Target} {l : Lifecycle} {up : ToProxy} {down : FromProxy}
    {watching : Bool} {unread owed : Bytes} {next : List Item} : fires →
    up.Owes target unread owed next → up.isEnded = false → l.cancelled →
    Owes fires ⟨id, target, l, .running up down watching⟩ unread owed next
  | ending {id : String} {target : Target} {l : Lifecycle} {handed : Option HandBack}
    {down : FromProxy} {watching : Bool} {unread owed : Bytes} {next : List Item} :
    Leaves fires target handed unread owed next → l.cancelled →
    Owes fires ⟨id, target, l, .running (.ended handed) down watching⟩ unread owed next

/-- An event in which nobody but the relay decides what happens. That includes its watch, if that
may fire. -/
def Event.IsFriendly (c : AgentContext) (fires : Bool) (r : Relay) : Event → Prop
  | sent _ outcome => outcome = .done
  | up e => e.IsFriendly
  | down e =>
    ∀ up leg watching, r.phase = .running up leg watching →
      e.IsFriendly c.retry.writeRetryLimit leg
  | silent => fires
  | unwatched | finished => True

/-- What a step pays of what is owed: nothing, a part, or that nothing is owed any more. -/
inductive Pays (fires : Bool) (target : Target) (user : String) (unread owed : Bytes)
    (next : List Item) : Relay → List AgentEffect → Prop
  | nothing {r : Relay} {es : List AgentEffect} : es = [] ∨ (∃ b, es = [.toClient b]) →
    r.target = target → r.Owes fires unread owed next → Pays fires target user unread owed next r es
  | part {r : Relay} (id : String) {b owed' : Bytes} : owed = b ++ owed' →
    r.target = target → r.Owes fires unread owed' next →
    Pays fires target user unread owed next r
      [.message (Body.tcpData id user target.host target.port b)]
  | closing {r : Relay} {handed : Option HandBack} : r.phase = .closed handed →
    Leaves fires target handed unread owed next →
    Pays fires target user unread owed next r [.closeTunnel]

variable {c : AgentContext} {fires : Bool} {streams streams' : Streams} {r r' : Relay} {e : Event}
  {es : List AgentEffect} {unread owed : Bytes} {next : List Item}

/-- The client ends its stream in the event. -/
def Event.ends : Event → Prop
  | up .ended => True
  | _ => False

/-- Legs that have been told to stop stay told. -/
theorem after_cancelled (ends : Bool) {l : Lifecycle} (h : l.cancelled) :
    (after ends l).cancelled := by
  unfold after
  split
  · unfold Lifecycle.close
    split
    · exact h
    · exact h
    · rfl
  · exact h

/-- The leg to the proxy decides whether the relay goes on. -/
theorem owes_after {id : String} {target : Target} {up : ToProxy} {down : FromProxy}
    (hdown : down ≠ .ended) (ho : up.Owes target unread owed next) :
    Owes fires ⟨id, target, after up.isEnded ⟨.established, false⟩, .running up down true⟩ unread
      owed next := by
  cases hended : up.isEnded with
  | false => exact .running ho hended hdown
  | true =>
    cases up with
    | ended handed => exact .ending (.inl ho) rfl
    | _ => cases hended

/-- After the watch has fired, the leg to the proxy may still go on or end. -/
theorem owes_after_alarm {id : String} {target : Target} {l : Lifecycle} {up : ToProxy}
    {down : FromProxy} {watching : Bool} (hfires : fires) (hl : l.cancelled)
    (ho : up.Owes target unread owed next) :
    Owes fires ⟨id, target, after up.isEnded l, .running up down watching⟩ unread owed next := by
  cases hended : up.isEnded with
  | false => exact .alarmed hfires ho hended hl
  | true =>
    cases up with
    | ended handed => exact .ending (.inl ho) (after_cancelled true hl)
    | _ => cases hended

/-- The step of the leg to the proxy is a step of the relay. -/
theorem step_up {id : String} {target : Target} {l : Lifecycle} {up : ToProxy} {down : FromProxy}
    {watching : Bool} {e : ToProxy.Event}
    (h : step c streams ⟨id, target, l, .running up down watching⟩ (.up e) =
      some (streams', r', es))
    (hfriendly : e.IsFriendly) (hopen : e ≠ .closed) (hends : e = .ended → unread = [])
    (ho : up.Owes target (e.reads.getD [] ++ unread) owed next)
    (hgoes : ∀ {up' owed'}, up'.Owes target unread owed' next →
      Owes fires ⟨id, target, after up'.isEnded l, .running up' down watching⟩ unread owed' next) :
    Pays fires target c.userToken unread owed next r' es := by
  unfold step at h
  split at h
  · cases h
  · obtain ⟨⟨up', es'⟩, hstep, heq⟩ := Option.bind_eq_some_iff.mp h
    cases heq
    rcases ToProxy.step_owes hstep hfriendly hopen hends ho with
      ⟨rfl, ho'⟩ | ⟨m, b, owed', rfl, howed, ho'⟩
    · exact .nothing (Or.inl rfl) rfl (hgoes ho')
    · exact .part m howed rfl (hgoes ho')

/-- The leg to the proxy ends without paying when it sees the session closed. -/
theorem step_up_closed {id : String} {target : Target} {l : Lifecycle} {up : ToProxy}
    {down : FromProxy} {watching : Bool}
    (h : step c streams ⟨id, target, l, .running up down watching⟩ (.up .closed) =
      some (streams', r', es)) (hfires : fires) (hl : l.cancelled) :
    Pays fires target c.userToken unread owed next r' es := by
  unfold step at h
  split at h
  · cases h
  · obtain ⟨⟨up', es'⟩, hstep, heq⟩ := Option.bind_eq_some_iff.mp h
    cases heq
    obtain ⟨rfl, rfl⟩ := ToProxy.step_of_closed hstep
    exact .nothing (Or.inl rfl) rfl (.ending (.inr ⟨hfires, rfl⟩) (after_cancelled true hl))

/-- The step of the leg to the client pays nothing. -/
theorem step_down {up : ToProxy} {down : FromProxy} {e : FromProxy.Event}
    (hphase : r.phase = .running up down true) (hl : r.lifecycle = ⟨.established, false⟩)
    (h : step c streams r (.down e) = some (streams', r', es))
    (hfriendly : e.IsFriendly c.retry.writeRetryLimit down) :
    ∃ down', r' = { r with phase := .running up down' true } ∧ down' ≠ .ended ∧
      (es = [] ∨ ∃ b, es = [.toClient b]) := by
  have hopen : e ≠ .closed := by
    rintro rfl
    simp [step, visible, hl] at h
  unfold step at h
  split at h
  · cases h
  · simp only [hphase] at h
    obtain ⟨⟨down', es'⟩, hstep, heq⟩ := Option.bind_eq_some_iff.mp h
    have hdown' := FromProxy.step_ne_ended hstep hfriendly hopen
    have hes := FromProxy.step_writes hstep
    simp only [pure, Option.some.injEq, Prod.mk.injEq] at heq
    obtain ⟨-, rfl, rfl⟩ := heq
    refine ⟨down', ?_, hdown', hes⟩
    simp [after, hdown']

/-- Of legs that have been told to stop, that to the client pays nothing either. -/
theorem step_down_cancelled {id : String} {target : Target} {l : Lifecycle} {up : ToProxy}
    {down : FromProxy} {watching : Bool} {e : FromProxy.Event}
    (h : step c streams ⟨id, target, l, .running up down watching⟩ (.down e) =
      some (streams', r', es)) (hl : l.cancelled) :
    ∃ l' down', r' = ⟨id, target, l', .running up down' watching⟩ ∧ l'.cancelled ∧
      (es = [] ∨ ∃ b, es = [.toClient b]) := by
  unfold step at h
  split at h
  · cases h
  · obtain ⟨⟨down', es'⟩, hstep, heq⟩ := Option.bind_eq_some_iff.mp h
    cases heq
    exact ⟨_, down', rfl, after_cancelled _ hl, FromProxy.step_writes hstep⟩

/-- Of legs that have been told to stop, the one that watches stops at most. -/
theorem step_watch_cancelled {id : String} {target : Target} {l : Lifecycle} {up : ToProxy}
    {down : FromProxy} {watching : Bool} (he : e = .silent ∨ e = .unwatched)
    (h : step c streams ⟨id, target, l, .running up down watching⟩ e = some (streams', r', es))
    (hl : l.cancelled) :
    ∃ l', r' = ⟨id, target, l', .running up down false⟩ ∧ l'.cancelled ∧ es = [] := by
  cases watching with
  | false => rcases he with rfl | rfl <;> simp [step] at h
  | true =>
    rcases he with rfl | rfl
    · cases h
      exact ⟨_, rfl, after_cancelled true hl, rfl⟩
    · simp only [step, visible, hl, Bool.not_true, Bool.false_eq_true, if_false,
        Option.some.injEq, Prod.mk.injEq] at h
      obtain ⟨-, rfl, rfl⟩ := h
      exact ⟨l, rfl, hl, rfl⟩

/-- A relay pays a part of what it owes, or nothing. -/
theorem step_pays (h : step c streams r e = some (streams', r', es))
    (hfriendly : e.IsFriendly c fires r) (hends : e.ends → unread = [])
    (ho : r.Owes fires (e.reads.getD [] ++ unread) owed next) :
    Pays fires r.target c.userToken unread owed next r' es := by
  cases ho with
  | starting hup =>
    cases e with
    | sent id outcome =>
      obtain rfl : outcome = .done := hfriendly
      cases h
      obtain ⟨owed', howed, hup'⟩ := hup.sent
      exact .part id howed rfl (.running hup' rfl nofun)
    | _ => simp [step] at h
  -- nobody has told the others to stop, so they can not see that
  | running hup hended hdown =>
    cases e with
    | up e =>
      have hopen : e ≠ .closed := by
        rintro rfl
        cases h
      exact step_up h hfriendly hopen (fun he => hends (by rw [he]; trivial)) hup
        (owes_after hdown)
    | down e =>
      obtain ⟨down', rfl, hdown', hes⟩ := step_down rfl rfl h (hfriendly _ _ _ rfl)
      exact .nothing hes rfl (.running hup hended hdown')
    | silent =>
      cases h
      exact .nothing (Or.inl rfl) rfl (.alarmed hfriendly hup hended rfl)
    | sent id outcome => simp [step] at h
    | unwatched => simp [step, visible] at h
    | finished => simp [step] at h
  -- the watch has fired, and the leg to the proxy may see that or go on
  | @alarmed _ _ _ up _ _ _ _ _ hfires hup hended hl =>
    cases e with
    | up e =>
      by_cases hopen : e = .closed
      · subst hopen
        exact step_up_closed h hfires hl
      · exact step_up h hfriendly hopen (fun he => hends (by rw [he]; trivial)) hup
          (owes_after_alarm hfires hl)
    | down e =>
      obtain ⟨l', down', rfl, hl', hes⟩ := step_down_cancelled h hl
      exact .nothing hes rfl (.alarmed hfires hup hended hl')
    | silent =>
      obtain ⟨l', rfl, hl', rfl⟩ := step_watch_cancelled (.inl rfl) h hl
      exact .nothing (Or.inl rfl) rfl (.alarmed hfires hup hended hl')
    | unwatched =>
      obtain ⟨l', rfl, hl', rfl⟩ := step_watch_cancelled (.inr rfl) h hl
      exact .nothing (Or.inl rfl) rfl (.alarmed hfires hup hended hl')
    | sent id outcome => simp [step] at h
    | finished =>
      cases up with
      | ended handed => cases hended
      | _ => simp [step] at h
  -- the leg to the proxy has ended, and the others follow it
  | @ending id target l handed down watching _ _ _ hleaves hl =>
    cases e with
    | sent id outcome => simp [step] at h
    | up e => simp [step, ToProxy.step] at h
    | down e =>
      obtain ⟨l', down', rfl, hl', hes⟩ := step_down_cancelled h hl
      exact .nothing hes rfl (.ending hleaves hl')
    | silent =>
      obtain ⟨l', rfl, hl', rfl⟩ := step_watch_cancelled (.inl rfl) h hl
      exact .nothing (Or.inl rfl) rfl (.ending hleaves hl')
    | unwatched =>
      obtain ⟨l', rfl, hl', rfl⟩ := step_watch_cancelled (.inr rfl) h hl
      exact .nothing (Or.inl rfl) rfl (.ending hleaves hl')
    | finished =>
      cases down with
      | ended =>
        cases watching with
        | false =>
          cases h
          exact .closing rfl hleaves
        | true => simp [step] at h
      | _ => simp [step] at h

/-- Nothing happens to a relay that is closed. -/
theorem step_closed {next : Option HandBack} (h : r.phase = .closed next) (e : Event) :
    step c streams r e = none := by
  unfold step
  rw [h]
  split
  · rfl
  · rfl

end Relay

end TunnelRelay
