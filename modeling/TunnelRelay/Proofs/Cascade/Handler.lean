import TunnelRelay.Lifecycle
import TunnelRelay.Registry
import Mathlib.Logic.Function.Basic
import Mathlib.Tactic.Common

/-!
# Handlers that clean up

A handler serves one session and has it registered under the session's id while its legs run. Other
sessions come and go meanwhile, under other ids. `Handler.Discreet` is what a handler owes the
others: it touches no other entry, its own is there as long as a leg runs, and when it has returned
the entry is gone and nothing follows. `Handler.Clean` is what it owes the session as well, whose
lifecycle is closed by then. `Handler.Tidy` is what each single step has to do for the first, and
`Tidy.discreet` the argument that all handlers share.
-/

namespace TunnelRelay

/-- Nobody is in the middle of closing the session, so its token agrees with its state. -/
inductive Lifecycle.Whole : Lifecycle → Prop
  | live {state : RelayState} (h : state < .closing) : Whole ⟨state, false⟩
  | closed : Whole ⟨.closed, true⟩

theorem Lifecycle.Whole.close {l : Lifecycle} (h : l.Whole) : l.close.2 = ⟨.closed, true⟩ := by
  cases h with
  | closed => rfl
  | @live state h =>
    cases state with
    | closing => exact absurd h (by decide)
    | closed => exact absurd h (by decide)
    | idle => rfl
    | connecting => rfl
    | established => rfl

theorem Lifecycle.Whole.of_cancelled {l : Lifecycle} (h : l.Whole) (hc : l.cancelled = true) :
    l = ⟨.closed, true⟩ := by
  cases h with
  | closed => rfl
  | live h => cases hc

/-- A lifecycle by which every leg can tell when another has ended: it is closed by then. -/
structure Lifecycle.Tells (l : Lifecycle) (ended : Prop) : Prop where
  whole : l.Whole
  closed : ended → l = ⟨.closed, true⟩

namespace Lifecycle.Tells

variable {l : Lifecycle} {p q : Prop}

theorem keep (h : l.Tells p) (hends : q → p) : l.Tells q := ⟨h.whole, fun hq => h.closed (hends hq)⟩

theorem close (h : l.Tells p) : l.close.2.Tells q :=
  ⟨h.whole.close ▸ .closed, fun _ => h.whole.close⟩

/-- A leg that moves closes the session if it ends. -/
theorem move (h : l.Tells p) {b : Bool} (hends : q → b = true ∨ p) :
    (if b then l.close.2 else l).Tells q := by
  cases b with
  | true => exact h.close
  | false => exact h.keep fun hq => (hends hq).resolve_left Bool.false_ne_true

end Lifecycle.Tells

/-- How a session is served. -/
structure Handler (ν σ ε α : Type) where
  /-- What the session is registered under. -/
  id : String
  step : Registry ν → σ → ε → Option (Registry ν × σ × List α)
  lifecycle : σ → Lifecycle
  /-- The legs of the session run. -/
  runs : σ → Prop
  /-- One of the legs has ended. -/
  ends : σ → Prop
  /-- The handler has returned. -/
  isOver : σ → Prop

/-- A handler at work: what is registered, what there would be without its session, and how far the
handler is. -/
structure Scene (ν σ : Type) where
  registry : Registry ν
  others : String → Option ν
  state : σ

namespace Handler

variable {ν σ ε α : Type}

/-- What a handler can lead to while other sessions come and go. -/
inductive Reaches (h : Handler ν σ ε α) (c : Scene ν σ) : Scene ν σ → Prop
  | refl : Reaches h c c
  | step {d : Scene ν σ} {e : ε} {registry : Registry ν} {state : σ} {effects : List α} :
    Reaches h c d → h.step d.registry d.state e = some (registry, state, effects) →
    Reaches h c ⟨registry, d.others, state⟩
  | create {d : Scene ν σ} {key : String} {info : ν} {registry : Registry ν} :
    Reaches h c d → key ≠ h.id → d.registry.create key info = .ok registry →
    Reaches h c ⟨registry, Function.update d.others key (some info), d.state⟩
  | remove {d : Scene ν σ} {key : String} :
    Reaches h c d → key ≠ h.id →
    Reaches h c ⟨d.registry.remove key, Function.update d.others key none, d.state⟩

/-- What a handler makes of events that come one after the other. -/
def play (h : Handler ν σ ε α) (registry : Registry ν) (state : σ) :
    List ε → Option (Registry ν × σ)
  | [] => some (registry, state)
  | e :: es => do
    let (registry, state, _) ← h.step registry state e
    play h registry state es

theorem reaches_play {h : Handler ν σ ε α} (es : List ε) {c : Scene ν σ} {registry : Registry ν}
    {others : String → Option ν} {state : σ} {r : Registry ν} {s : σ}
    (hc : h.Reaches c ⟨registry, others, state⟩) (hplay : h.play registry state es = some (r, s)) :
    h.Reaches c ⟨r, others, s⟩ := by
  induction es generalizing registry state with
  | nil =>
    cases hplay
    exact hc
  | cons e es ih =>
    obtain ⟨⟨registry', state', effects⟩, hstep, hplay⟩ := Option.bind_eq_some_iff.mp hplay
    exact ih (hc.step hstep) hplay

/-- Nothing is left in the registry, and nothing else is touched. -/
structure Discreet (h : Handler ν σ ε α) (d : Scene ν σ) : Prop where
  /-- The entries of the others are what they would be without the session. -/
  others : ∀ key, key ≠ h.id → d.registry.get? key = d.others key
  /-- As long as the legs run the session is registered. -/
  present : h.runs d.state → (d.registry.get? h.id).isSome = true
  /-- A leg that has ended has told the others. -/
  cascade : h.ends d.state → h.lifecycle d.state = ⟨.closed, true⟩
  /-- When the handler has returned there is no entry, -/
  gone : h.isOver d.state → d.registry.get? h.id = none
  /-- and nothing is done any more, whatever is registered. -/
  still : h.isOver d.state → ∀ registry e, h.step registry d.state e = none

/-- Nothing is left behind, and nothing else is touched. -/
structure Clean (h : Handler ν σ ε α) (d : Scene ν σ) : Prop extends Discreet h d where
  /-- When the handler has returned the lifecycle is closed and its token cancelled. -/
  closed : h.isOver d.state → h.lifecycle d.state = ⟨.closed, true⟩

/-! ## Single steps -/

/-- What a step of a handler does to the registry, by whether the session is listed before and after
it. -/
inductive Books (id : String) (before after : Registry ν) : Bool → Bool → Prop
  | stays {listed : Bool} (h : after = before) : Books id before after listed listed
  | enters {info : ν} (h : before.create id info = .ok after) : Books id before after false true
  | leaves {listed : Bool} (h : after = before.remove id) : Books id before after listed false

theorem Books.get?_of_ne {id key : String} {before after : Registry ν} {l l' : Bool}
    (h : Books id before after l l') (hkey : key ≠ id) : after.get? key = before.get? key := by
  cases h with
  | stays h => rw [h]
  | enters h => rw [Registry.get?_create h, if_neg hkey]
  | leaves h => rw [h, Registry.get?_remove, if_neg hkey]

theorem Books.isSome_get? {id : String} {before after : Registry ν} {l l' : Bool}
    (h : Books id before after l l') (hbefore : (before.get? id).isSome = l) :
    (after.get? id).isSome = l' := by
  cases h with
  | stays h => rwa [h]
  | enters h => rw [Registry.get?_create h, if_pos rfl]; rfl
  | leaves h => rw [h, Registry.get?_remove, if_pos rfl]; rfl

/-- What a handler does step by step in order to be discreet. `fine` holds of all states it gets to,
and `listed` tells in which of them the session is registered. -/
structure Tidy (h : Handler ν σ ε α) (fine : σ → Prop) (listed : σ → Bool) : Prop where
  fine_step : ∀ {r : Registry ν} {s : σ} {e : ε} {r' : Registry ν} {s' : σ} {effects : List α},
    fine s → (r.get? h.id).isSome = listed s → h.step r s e = some (r', s', effects) →
    fine s' ∧ Books h.id r r' (listed s) (listed s')
  listed_of_runs : ∀ {s : σ}, fine s → h.runs s → listed s = true
  closed_of_ends : ∀ {s : σ}, fine s → h.ends s → h.lifecycle s = ⟨.closed, true⟩
  unlisted_of_over : ∀ {s : σ}, fine s → h.isOver s → listed s = false
  still_of_over : ∀ {s : σ} (r : Registry ν) (e : ε), h.isOver s → h.step r s e = none

/-- A scene in which the books are right. -/
structure Right (h : Handler ν σ ε α) (fine : σ → Prop) (listed : σ → Bool) (d : Scene ν σ) :
    Prop where
  fine : fine d.state
  own : (d.registry.get? h.id).isSome = listed d.state
  others : ∀ key, key ≠ h.id → d.registry.get? key = d.others key

variable {h : Handler ν σ ε α} {fine : σ → Prop} {listed : σ → Bool} {c d : Scene ν σ}

theorem Tidy.right (ht : h.Tidy fine listed) (hc : h.Right fine listed c) (hr : h.Reaches c d) :
    h.Right fine listed d := by
  induction hr with
  | refl => exact hc
  | step _ hstep ih =>
    obtain ⟨hfine, hbooks⟩ := ht.fine_step ih.fine ih.own hstep
    refine ⟨hfine, hbooks.isSome_get? ih.own, fun key hkey => ?_⟩
    exact (hbooks.get?_of_ne hkey).trans (ih.others key hkey)
  | @create d key info registry _ hkey hcreate ih =>
    refine ⟨ih.fine, ?_, fun k hk => ?_⟩
    · rw [Registry.get?_create hcreate, if_neg hkey.symm]
      exact ih.own
    · simp only [Registry.get?_create hcreate, Function.update_apply, ih.others k hk]
  | @remove d key _ hkey ih =>
    refine ⟨ih.fine, ?_, fun k hk => ?_⟩
    · rw [Registry.get?_remove, if_neg hkey.symm]
      exact ih.own
    · simp only [Registry.get?_remove, Function.update_apply, ih.others k hk]

/-- **A handler that keeps its books in every step is discreet in whatever it comes to.** -/
theorem Tidy.discreet (ht : h.Tidy fine listed) (hc : h.Right fine listed c) (hr : h.Reaches c d) :
    h.Discreet d := by
  have hd := ht.right hc hr
  refine ⟨hd.others, fun hruns => ?_, ht.closed_of_ends hd.fine, fun hover => ?_,
    fun hover registry e => ht.still_of_over registry e hover⟩
  · exact hd.own.trans (ht.listed_of_runs hd.fine hruns)
  · have hown := hd.own
    rwa [ht.unlisted_of_over hd.fine hover, Option.isSome_eq_false_iff, Option.isNone_iff_eq_none]
      at hown

/-- It is clean if it has closed the lifecycle whenever it returns. -/
theorem Tidy.clean (ht : h.Tidy fine listed)
    (hclosed : ∀ {s : σ}, fine s → h.isOver s → h.lifecycle s = ⟨.closed, true⟩)
    (hc : h.Right fine listed c) (hr : h.Reaches c d) : h.Clean d where
  toDiscreet := ht.discreet hc hr
  closed hover := hclosed (ht.right hc hr).fine hover

end Handler

end TunnelRelay
