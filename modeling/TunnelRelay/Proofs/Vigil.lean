import TunnelRelay.Proofs.Agent.Context
import TunnelRelay.Proxy.Context
import TunnelRelay.Proxy.Heartbeat
import TunnelRelay.Vigil
import Mathlib.Order.Monotone.Basic
import Mathlib.Tactic.Common

/-!
# When a tunnel in use is given up

An agent gives a tunnel up when nothing has come from the proxy for as long as its patience lasts.
The proxy says something whenever the target does. Besides, it sends a heartbeat when it looks and
has neither heard nor said anything for a pause. So the tunnel is safe as long as the target speaks
or the client rests for a pause now and then (`spares_of_answers`). A client that never rests keeps
the proxy from sending heartbeats, and if its target does not answer meanwhile, the agent gives the
tunnel up in the middle of the traffic (`found_of_busy`). `spares_spec` says that resting is exactly
what a client has to do in order to be safe with any target.
-/

namespace TunnelRelay.Vigil

/-- The agent waits so long for the proxy, and the proxy so long for anything at all. Nothing else
is watched. -/
def Thresholds.ofPatience (patience pause : Nat) : Thresholds :=
  ⟨⟨some patience, none, none⟩, ⟨none, none, some pause⟩⟩

theorem Thresholds.default_eq : Thresholds.default = .ofPatience 90000 30000 := rfl

/-- The agent's watcher waits for an event in vain, however often it looks. -/
def Spares (t : Thresholds) (s : Schedule) : Prop :=
  ∀ n, t.agent.nextEvent (fun now => (state t s now).agent.idle now) n = none

/-- The target sends something in the patience up to a time. -/
def Answers (target : Nat → Bool) (patience now : Nat) : Prop :=
  ∃ u ≤ now, now < u + patience ∧ target u = true

/-- At a look of the proxy up to a time the client has been silent for a pause, and it is not longer
ago than the patience that is left after a pause. -/
def Rests (client : Nat → Bool) (patience pause now : Nat) : Prop :=
  ∃ look ≤ now, now + pause ≤ look + patience ∧ looks ⟨none, none, some pause⟩ look = true ∧
    ∀ u ≤ look, look < u + pause → client u = false

/-! ## What a millisecond changes -/

/-- The proxy's watcher does what a supervisor that waits does: it sends a heartbeat at any event
but the agent's silence. -/
theorem proxyLooks_eq (t : IdleThresholds) (v : Vigil) (now : Nat) (user : String) (limit : UInt32)
    (failures : Nat) :
    proxyLooks t v now =
      match (v.proxy.event t now).bind
        fun e => (Heartbeat.waiting failures).step user limit (.idle e) with
      | some (.sending _, _) => v.down now
      | _ => v := by
  unfold proxyLooks
  cases v.proxy.event t now with
  | none => rfl
  | some e => cases e <;> rfl

variable {s : Schedule} {client : Nat → Bool} {patience pause now m n u : Nat}

/-- When the proxy last heard something. -/
def heard (patience pause : Nat) (s : Schedule) (now : Nat) : Nat :=
  (state (.ofPatience patience pause) s now).proxy.lastRead

/-- When the proxy last said something. -/
def said (patience pause : Nat) (s : Schedule) (now : Nat) : Nat :=
  (state (.ofPatience patience pause) s now).proxy.lastWrite

/-- The proxy looks after a pause in which it has neither heard nor said anything. -/
def Beats (patience pause : Nat) (s : Schedule) (now : Nat) : Prop :=
  looks ⟨none, none, some pause⟩ (now + 1) = true ∧
    pause ≤ now + 1 - heard patience pause s (now + 1) ∧ pause ≤ now + 1 - said patience pause s now

/-- A proxy that watches for a pause only sends a heartbeat when it looks after one. -/
theorem proxyLooks_pause (v : Vigil) (now : Nat) :
    proxyLooks ⟨none, none, some pause⟩ v now =
      if pause ≤ now - v.proxy.lastRead ∧ pause ≤ now - v.proxy.lastWrite then v.down now
      else v := by
  by_cases hread : pause ≤ now - v.proxy.lastRead <;>
    by_cases hwrite : pause ≤ now - v.proxy.lastWrite <;>
    simp [proxyLooks, IdleTracker.event, IdleThresholds.event, IdleTracker.idle,
      IdleThresholds.reached, hread, hwrite]

/-- The agent hears what the proxy says at once. -/
theorem lastRead_agent (now : Nat) :
    (state (.ofPatience patience pause) s now).agent.lastRead = said patience pause s now := by
  induction now with
  | zero => rfl
  | succ now ih =>
    simp only [said, state, tick, Thresholds.ofPatience, proxyLooks_pause] at ih ⊢
    split_ifs <;> first | rfl | exact ih

/-- The proxy hears what the client sends at once. -/
theorem heard_succ (now : Nat) :
    heard patience pause s (now + 1) =
      if s.client (now + 1) then now + 1 else heard patience pause s now := by
  simp only [heard, state, tick, Thresholds.ofPatience, proxyLooks_pause]
  split_ifs <;> rfl

open Classical in
/-- The proxy says what the target sends, and a heartbeat when it looks after a pause. -/
theorem said_succ (now : Nat) :
    said patience pause s (now + 1) =
      if s.target (now + 1) ∨ Beats patience pause s now then now + 1
      else said patience pause s now := by
  simp only [Beats, heard_succ]
  simp only [said, heard, state, tick, Thresholds.ofPatience, proxyLooks_pause]
  by_cases hc : s.client (now + 1) <;> by_cases ht : s.target (now + 1) <;>
    by_cases hl : looks ⟨none, none, some pause⟩ (now + 1) <;>
    simp [hc, ht, hl, up, down, IdleTracker.markRead, IdleTracker.markWrite]
  all_goals split_ifs <;> rfl

theorem said_of_target (h : s.target (now + 1) = true) :
    said patience pause s (now + 1) = now + 1 := by
  rw [said_succ, if_pos (.inl h)]

theorem said_of_beats (h : Beats patience pause s now) :
    said patience pause s (now + 1) = now + 1 := by
  rw [said_succ, if_pos (.inr h)]

theorem said_of_quiet (ht : s.target (now + 1) = false) (hb : ¬ Beats patience pause s now) :
    said patience pause s (now + 1) = said patience pause s now := by
  rw [said_succ, if_neg (by simp [ht, hb])]

/-! ## What is known of a time -/

theorem said_le (now : Nat) : said patience pause s now ≤ now := by
  induction now with
  | zero => exact Nat.le_refl 0
  | succ now ih =>
    rw [said_succ]
    split_ifs <;> omega

theorem said_mono : Monotone (said patience pause s) := by
  refine monotone_nat_of_le_succ fun now => ?_
  have hle : said patience pause s now ≤ now := said_le now
  rw [said_succ]
  split_ifs <;> omega

theorem le_said_of_target (hu : u ≤ now) (ht : s.target u = true) :
    u ≤ said patience pause s now := by
  cases u with
  | zero => exact Nat.zero_le _
  | succ u => exact (said_of_target ht).symm.le.trans (said_mono hu)

theorem heard_le (now : Nat) : heard patience pause s now ≤ now := by
  induction now with
  | zero => exact Nat.le_refl 0
  | succ now ih =>
    rw [heard_succ]
    split_ifs <;> omega

/-- The proxy has heard nothing since the client fell silent. -/
theorem heard_le_of_silent (h : ∀ u ≤ now, m < u → s.client u = false) :
    heard patience pause s now ≤ m := by
  induction now with
  | zero => exact Nat.zero_le m
  | succ now ih =>
    rcases le_or_gt (now + 1) m with hm | hm
    · exact (heard_le _).trans hm
    · rw [heard_succ, if_neg (by simp [h (now + 1) le_rfl hm])]
      exact ih fun u hu => h u (by omega)

/-- What the client has sent has been heard. -/
theorem le_heard_of_client (hu : u ≤ now) (hc : s.client u = true) :
    u ≤ heard patience pause s now := by
  induction now with
  | zero => omega
  | succ now ih =>
    rw [heard_succ]
    split_ifs with h
    · exact hu
    · rcases hu.lt_or_eq with hu | rfl
      · exact ih (Nat.le_of_lt_succ hu)
      · exact absurd hc h

/-! ## The agent's patience -/

/-- Nobody looks before the first tick has passed. -/
theorem looks_zero (t : IdleThresholds) : looks t 0 = false := by
  unfold looks
  split <;> simp

theorem looks_eq_true_iff (t : IdleThresholds) :
    looks t now = true ↔ ∃ tick, t.tick = some tick ∧ 0 < now ∧ now % tick = 0 := by
  unfold looks
  split <;> simp_all

theorem found_eq_event (t : Thresholds) (now : Nat) :
    found t s now =
      if looks t.agent now then (state t s now).agent.event t.agent now else none := by
  cases now with
  | zero => simp [found, looks_zero]
  | succ now => rfl

/-- The agent's watcher finds nothing but the proxy's silence. -/
theorem found_eq (now : Nat) :
    found (.ofPatience patience pause) s now =
      if looks ⟨some patience, none, none⟩ now ∧ patience ≤ now - said patience pause s now then
        some .readerIdle
      else none := by
  have hevent (c : IdleTracker) : c.event ⟨some patience, none, none⟩ now =
      if patience ≤ now - c.lastRead then some .readerIdle else none := by
    by_cases h : patience ≤ now - c.lastRead <;>
      simp [IdleTracker.event, IdleThresholds.event, IdleTracker.idle, IdleThresholds.reached, h]
  have hagent : (Thresholds.ofPatience patience pause).agent = ⟨some patience, none, none⟩ := rfl
  rw [found_eq_event, hagent, hevent, lastRead_agent]
  split_ifs <;> simp_all

/-- The agent's watcher waits in vain if there is nothing to find at any time. -/
theorem spares_iff (t : Thresholds) : Spares t s ↔ ∀ now, found t s now = none := by
  simp only [Spares, IdleThresholds.nextEvent, found_eq_event, looks_eq_true_iff]
  cases ht : t.agent.tick with
  | none => simp
  | some tick =>
    have hpos : 0 < tick := by
      obtain ⟨least, -, rfl⟩ := Option.map_eq_some_iff.1 ht
      omega
    simp only [Option.bind_some, List.findSome?_eq_none_iff, List.mem_range, Option.map_eq_none_iff,
      Option.some.injEq, exists_eq_left', ite_eq_right_iff]
    constructor
    · rintro h now ⟨hnow, hmod⟩
      obtain ⟨k, rfl⟩ := Nat.dvd_of_mod_eq_zero hmod
      obtain ⟨k, rfl⟩ := Nat.exists_eq_succ_of_ne_zero (by rintro rfl; omega : k ≠ 0)
      rw [Nat.mul_comm]
      exact h (k + 1) k k.lt_succ_self
    · intro h n k _
      exact h _ ⟨Nat.mul_pos k.succ_pos hpos, Nat.mul_mod_left _ _⟩

/-- The agent is content as long as it has heard something in its patience whenever it looks. -/
theorem spares_ofPatience :
    Spares (.ofPatience patience pause) s ↔
      ∀ now, looks ⟨some patience, none, none⟩ now = true →
        now < said patience pause s now + patience := by
  rw [spares_iff]
  refine forall_congr' fun now => ?_
  rw [found_eq]
  have hle : said patience pause s now ≤ now := said_le now
  split_ifs with h
  · simp only [h.1, forall_const, false_iff]
    omega
  · simp only [true_iff]
    intro hlook
    by_contra hlate
    exact h ⟨hlook, by omega⟩

/-! ## Clients that rest -/

/-- A rest of the client ends with the proxy saying something, unless it just has. -/
theorem lt_said_of_rest (hpause : 0 < pause) (hlook : looks ⟨none, none, some pause⟩ now = true)
    (hrest : ∀ u ≤ now, now < u + pause → s.client u = false) (hnow : pause ≤ now) :
    now < said patience pause s now + pause := by
  obtain ⟨now, rfl⟩ : ∃ m, now = m + 1 := ⟨now - 1, by omega⟩
  have hheard : heard patience pause s (now + 1) ≤ now + 1 - pause :=
    heard_le_of_silent fun u hu hlate => hrest u hu (by omega)
  by_cases hbeats : Beats patience pause s now
  · rw [said_of_beats hbeats]
    omega
  · have hmono : said patience pause s now ≤ said patience pause s (now + 1) :=
      said_mono (now.le_add_right 1)
    have hsaid : ¬ pause ≤ now + 1 - said patience pause s now := fun h =>
      hbeats ⟨hlook, by omega, h⟩
    omega

theorem lt_said_of_answers (h : Answers s.target patience now) :
    now < said patience pause s now + patience := by
  obtain ⟨u, hu, hlate, htarget⟩ := h
  have hsaid : u ≤ said patience pause s now := le_said_of_target hu htarget
  omega

theorem lt_said_of_rests (hpause : 0 < pause) (hnow : patience ≤ now)
    (h : Rests s.client patience pause now) : now < said patience pause s now + patience := by
  obtain ⟨look, hle, hleft, hlook, hrest⟩ := h
  have hsaid : look < said patience pause s look + pause :=
    lt_said_of_rest hpause hlook hrest (by omega)
  have hmono : said patience pause s look ≤ said patience pause s now := said_mono hle
  omega

/-- A tunnel is safe if, whenever the agent looks, the target has answered or the client has rested
in time. -/
theorem spares_of_answers (hpause : 0 < pause)
    (h : ∀ now, looks ⟨some patience, none, none⟩ now = true → patience ≤ now →
      Answers s.target patience now ∨ Rests s.client patience pause now) :
    Spares (.ofPatience patience pause) s := by
  refine spares_ofPatience.2 fun now hlook => ?_
  rcases lt_or_ge now patience with hnow | hnow
  · omega
  · rcases h now hlook hnow with hanswers | hrests
    · exact lt_said_of_answers hanswers
    · exact lt_said_of_rests hpause hnow hrests

/-! ## Clients that never rest -/

/-- A client that does not rest keeps the proxy silent for as long as the target is. -/
theorem said_of_busy (hsaid : said patience pause s m = m)
    (htarget : ∀ u ≤ m + patience, m < u → s.target u = false)
    (hbusy : ¬ Rests s.client patience pause (m + patience)) (hm : m ≤ now)
    (hnow : now ≤ m + patience) : said patience pause s now = m := by
  induction now, hm using Nat.le_induction with
  | base => exact hsaid
  | succ now hm ih =>
    have hsaid := ih (by omega)
    rw [said_of_quiet (htarget _ hnow (by omega)), hsaid]
    rintro ⟨hlook, hheard, hpause⟩
    -- a heartbeat would need a client that has been silent for the pause before it
    refine hbusy ⟨now + 1, hnow, by omega, hlook, fun u hu hlate => ?_⟩
    by_contra hclient
    have hu : u ≤ heard patience pause s (now + 1) :=
      le_heard_of_client hu ((Bool.not_eq_false _).mp hclient)
    omega

/-- A client that has not rested in time is given up unless its target has answered. -/
theorem found_of_busy (hsaid : said patience pause s m = m)
    (htarget : ∀ u ≤ m + patience, m < u → s.target u = false)
    (hlook : looks ⟨some patience, none, none⟩ (m + patience) = true)
    (hbusy : ¬ Rests s.client patience pause (m + patience)) :
    found (.ofPatience patience pause) s (m + patience) = some .readerIdle := by
  rw [found_eq, said_of_busy hsaid htarget hbusy (Nat.le_add_right m _) le_rfl]
  exact if_pos ⟨hlook, by omega⟩

/-- Resting in time is what a client has to do in order to be safe with any target. -/
theorem spares_all_iff (hpause : 0 < pause) :
    (∀ target, Spares (.ofPatience patience pause) ⟨client, target⟩) ↔
      ∀ now, looks ⟨some patience, none, none⟩ now = true → patience ≤ now →
        Rests client patience pause now := by
  constructor
  · intro h now hlook hnow
    obtain ⟨m, rfl⟩ := Nat.exists_eq_add_of_le' hnow
    -- the target's only word comes just too early
    let s : Schedule := ⟨client, (· == m)⟩
    have hsaid : said patience pause s m = m :=
      (said_le m).antisymm (le_said_of_target le_rfl (by simp [s]))
    have htarget : ∀ u ≤ m + patience, m < u → s.target u = false := fun u _ hu => by
      simp [s, hu.ne']
    by_contra hbusy
    have hfound := found_of_busy hsaid htarget hlook hbusy
    rw [(spares_iff _).1 (h _) (m + patience)] at hfound
    cases hfound
  · exact fun h target => spares_of_answers hpause fun now hlook hnow => .inr (h now hlook hnow)

/-- With the thresholds unless configured, a tunnel is not given up if its target answers or its
client rests in time, and a client is safe with any target exactly if it rests in time. -/
theorem spares_spec (s : Schedule) :
    ((∀ now, looks Thresholds.default.agent now = true → 90000 ≤ now →
        Answers s.target 90000 now ∨ Rests s.client 90000 30000 now) →
      Spares Thresholds.default s) ∧
    ((∀ target, Spares Thresholds.default ⟨s.client, target⟩) ↔
      ∀ now, looks Thresholds.default.agent now = true → 90000 ≤ now →
        Rests s.client 90000 30000 now) := by
  rw [Thresholds.default_eq]
  exact ⟨spares_of_answers (by decide), spares_all_iff (by decide)⟩

/-- A client that sends a request a minute, and a target that never answers. -/
def requests : Schedule := ⟨fun now => now % 60000 = 0, fun _ => false⟩

theorem requests_spared : Spares Thresholds.default requests := by
  refine (spares_spec requests).1 fun now _ hnow => .inr ?_
  -- the client rests in the first half of each minute
  refine ⟨(now - 30000) / 60000 * 60000 + 30000, by omega, by omega, ?_, fun u hu hlate => ?_⟩
  · refine (looks_eq_true_iff _).2 ⟨7500, rfl, by omega, ?_⟩
    omega
  · have : ¬ u % 60000 = 0 := by omega
    simpa [requests] using this

/-- A client that sends something every twenty seconds to a target that says nothing. -/
def upload : Schedule := ⟨fun now => now % 20000 = 0, fun _ => false⟩

theorem found_upload : found Thresholds.default upload 90000 = some .readerIdle := by
  have hbusy : ¬ Rests upload.client 90000 30000 (0 + 90000) := by
    rintro ⟨look, -, -, -, hrest⟩
    have := hrest (look / 20000 * 20000) (Nat.div_mul_le_self _ _) (by omega)
    simp [upload] at this
  have hfound : found (.ofPatience 90000 30000) upload (0 + 90000) = some .readerIdle :=
    found_of_busy rfl (fun _ _ _ => rfl) (by decide) hbusy
  exact hfound

theorem upload_given_up :
    found Thresholds.default upload 90000 = some .readerIdle ∧
      ¬ Spares Thresholds.default upload :=
  ⟨found_upload, fun h => nomatch ((spares_iff _).1 h _).symm.trans found_upload⟩

end TunnelRelay.Vigil
