import TunnelRelay.Proofs.Frame.Seal
import TunnelRelay.Proofs.Tunnel.Call
import Mathlib.Data.List.Induction
import Mathlib.Data.List.Nodup
import Mathlib.Tactic.Common

/-!
# A shared writer keeps the frames apart

Whatever the stream answers, a call either puts one frame behind all that has been there, or leaves
what there is as it is and at most lets the stream take some of it from the front. It does so only
in its turn, and a call has one turn. So the octets that the stream took and those that wait are
together the frames in the order of the turns (`reaches_keepsFrames`): nothing is lost when a call
fails in the middle of a frame, and nothing comes before the rest of that frame.
-/

namespace TunnelRelay.Tunnel

open TunnelRelay.Frame

/-! ## Turns -/

variable {κ : Type} [Family κ] {limit : UInt32} {l : Limits} {answer : WriteAnswer}

/-- Encoding puts the frame of a message behind what waits, whatever that is. -/
theorem encode_eq_ok_iff_append {w : Means} {m : Message κ} {out out' : Bytes} :
    encode w l m out = .ok out' ↔
      ∃ frame, encode w l m [] = .ok frame ∧ out' = out ++ frame := by
  constructor
  · intro h
    obtain ⟨plain, contents, hwrite, hpacks, hle, rfl⟩ := encode_eq_ok_iff.mp h
    exact ⟨delimit contents, encode_eq_ok_iff.mpr ⟨plain, contents, hwrite, hpacks, hle, rfl⟩, rfl⟩
  · rintro ⟨frame, h, rfl⟩
    obtain ⟨plain, contents, hwrite, hpacks, hle, rfl⟩ := encode_eq_ok_iff.mp h
    exact encode_eq_ok_iff.mpr ⟨plain, contents, hwrite, hpacks, hle, rfl⟩

theorem Call.frame?_eq_some_iff {call : Call κ} {frame : Bytes} :
    call.frame? l = some frame ↔
      call.stage.encoded = true ∧ encode call.means l call.message [] = .ok frame := by
  unfold frame?
  cases encode call.means l call.message [] <;> simp [Except.toOption]

/-- A call puts its frame behind what waits, or does not change what the octets are. -/
theorem Call.step_changes (limit : UInt32) (l : Limits) (answer : WriteAnswer) (o : Outbound)
    (call : Call κ) :
    (call.stage = .encoding ∧ ∃ frame, (call.step limit l answer o).1.frame? l = some frame ∧
      (call.step limit l answer o).2 = ⟨o.accepted, o.pending ++ frame⟩) ∨
    ((call.step limit l answer o).1.frame? l = call.frame? l ∧
      call.stage.Keeps o
        ((call.step limit l answer o).1.stage, (call.step limit l answer o).2)) := by
  obtain ⟨message, means, stage⟩ := call
  rcases stage.step_changes limit (encode means l message) answer o with
    ⟨hencoding, pending, hencode, hstep⟩ | hkeeps
  · obtain ⟨frame, hframe, rfl⟩ := encode_eq_ok_iff_append.mp hencode
    refine .inl ⟨hencoding, frame, ?_, ?_⟩
    · simp only [Call.step, hstep, frame?, Stage.encoded, hframe, if_true, Except.toOption]
    · simp only [Call.step, hstep]
  · refine .inr ⟨?_, hkeeps⟩
    simp only [Call.step, frame?, hkeeps.encoded]

theorem Call.step_returning (limit : UInt32) (l : Limits) (answer : WriteAnswer) (o : Outbound)
    (call : Call κ) :
    call.stage.Returning o ((call.step limit l answer o).1.stage, (call.step limit l answer o).2) :=
  call.stage.step_returning

namespace Shared

variable {c d : Shared κ} {i j : Nat} {call : Call κ}

theorem act_of_none (h : c.calls[i]? = none) : c.act limit l i answer = c := by
  simp only [act, h]

/-- A call that waits gets its turn if nobody has it. -/
theorem act_of_queued (h : c.calls[i]? = some call) (hstage : call.stage = .queued) :
    c.act limit l i answer =
      if c.isFree then
        ⟨c.calls.set i { call with stage := .looking }, c.outbound, c.turns ++ [i]⟩
      else c := by
  simp only [act, h, Call.step, hstage, Stage.step]

/-- A call that does not wait goes on. -/
theorem act_of_ne_queued (h : c.calls[i]? = some call) (hstage : call.stage ≠ .queued) :
    c.act limit l i answer =
      ⟨c.calls.set i (call.step limit l answer c.outbound).1,
        (call.step limit l answer c.outbound).2, c.turns⟩ := by
  simp only [act, h]

/-- What holds of the others and of the call that has moved holds of all. -/
theorem forall_set {P : Nat → Call κ → Prop} {after : Call κ} (hi : P i after)
    (hothers : ∀ j other, j ≠ i → c.calls[j]? = some other → P j other) :
    ∀ j other, (c.calls.set i after)[j]? = some other → P j other := by
  intro j other hj
  rw [List.getElem?_set] at hj
  split at hj
  · rename_i heq
    subst heq
    split at hj
    · cases hj
      exact hi
    · cases hj
  · rename_i hne
    exact hothers j other (Ne.symm hne) hj

/-- The calls take turns: each has had at most one, and nobody has it but the one that got it
last. -/
structure TakesTurns (c : Shared κ) : Prop where
  once : c.turns.Nodup
  had : ∀ i call, c.calls[i]? = some call → (i ∈ c.turns ↔ call.stage ≠ .queued)
  last : ∀ i call, c.calls[i]? = some call → call.stage.hasTurn = true →
    ∃ before, c.turns = before ++ [i]

theorem takesTurns_start (messages : List (Message κ × Means)) : (start messages).TakesTurns := by
  have hqueued (i : Nat) (call : Call κ) (h : (start messages).calls[i]? = some call) :
      call.stage = .queued := by
    obtain ⟨m, -, rfl⟩ := Option.map_eq_some_iff.mp ((List.getElem?_map ..).symm.trans h)
    rfl
  refine ⟨List.nodup_nil, ?_, ?_⟩
  · intro i call h
    simp [start, hqueued i call h]
  · intro i call h hturn
    rw [hqueued i call h] at hturn
    cases hturn

theorem TakesTurns.act (h : c.TakesTurns) (i : Nat) (answer : WriteAnswer) :
    (c.act limit l i answer).TakesTurns := by
  cases hi : c.calls[i]? with
  | none => rwa [act_of_none hi]
  | some call =>
    by_cases hstage : call.stage = .queued
    · rw [act_of_queued hi hstage]
      split
      · rename_i hfree
        have hnew : i ∉ c.turns := fun hmem => (h.had i call hi).mp hmem hstage
        refine ⟨List.nodup_append_comm.mp (List.nodup_cons.mpr ⟨hnew, h.once⟩), ?_, ?_⟩
        · apply forall_set
          · simp
          · intro j other hne hj
            simp [hne, h.had j other hj]
        · apply forall_set
          · exact fun _ => ⟨c.turns, rfl⟩
          · intro j other _ hj hturn
            have := List.all_eq_true.mp hfree other (List.mem_of_getElem? hj)
            simp [hturn] at this
      · exact h
    · rw [act_of_ne_queued hi hstage]
      refine ⟨h.once, ?_, ?_⟩
      · apply forall_set
        · simp only [(h.had i call hi).mpr hstage, true_iff]
          exact Stage.step_ne_queued call.stage
        · exact fun j other _ => h.had j other
      · apply forall_set
        · exact fun hturn => h.last i call hi (Stage.hasTurn_of_step hstage hturn)
        · exact fun j other _ => h.last j other

/-! ## Frames -/

/-- The calls at some places, none of which has moved, have the frames that they had. -/
theorem filterMap_set_eq {turns : List Nat} {after : Call κ} (h : i ∉ turns) :
    turns.filterMap (fun j => (c.calls.set i after)[j]?.bind (Call.frame? l)) =
      turns.filterMap fun j => c.calls[j]?.bind (Call.frame? l) := by
  apply List.filterMap_congr
  intro j hj
  have hne : i ≠ j := by
    rintro rfl
    exact h hj
  rw [List.getElem?_set_ne hne]

/-- A call that moves without making a frame leaves the frames as they are. -/
theorem frames_set {o : Outbound} {after : Call κ} (hi : c.calls[i]? = some call)
    (hframe : after.frame? l = call.frame? l) :
    frames l ⟨c.calls.set i after, o, c.turns⟩ = c.frames l := by
  apply List.filterMap_congr
  intro j _
  by_cases hj : i = j
  · subst hj
    obtain ⟨hlt, -⟩ := List.getElem?_eq_some_iff.mp hi
    simp only [List.getElem?_set_self hlt, hi, Option.bind_some, hframe]
  · simp only [List.getElem?_set_ne hj]

/-- **What one action does to the octets.** It puts one frame behind all others, or lets the stream
take some octets at most. -/
theorem TakesTurns.act_changes (h : c.TakesTurns) (i : Nat) (answer : WriteAnswer) :
    (∃ frame, (c.act limit l i answer).frames l = c.frames l ++ [frame] ∧
      (c.act limit l i answer).outbound = ⟨c.outbound.accepted, c.outbound.pending ++ frame⟩) ∨
    ((c.act limit l i answer).frames l = c.frames l ∧
      (c.act limit l i answer).outbound.octets = c.outbound.octets ∧
      c.outbound.accepted <+: (c.act limit l i answer).outbound.accepted) := by
  cases hi : c.calls[i]? with
  | none =>
    rw [act_of_none hi]
    exact .inr ⟨rfl, rfl, List.prefix_rfl⟩
  | some call =>
    obtain ⟨hlt, -⟩ := List.getElem?_eq_some_iff.mp hi
    by_cases hstage : call.stage = .queued
    · right
      rw [act_of_queued hi hstage]
      split
      · refine ⟨?_, rfl, List.prefix_rfl⟩
        have hnew : i ∉ c.turns := fun hmem => (h.had i call hi).mp hmem hstage
        simp [frames, List.filterMap_append, filterMap_set_eq hnew, List.getElem?_set_self hlt,
          Call.frame?, Stage.encoded]
      · exact ⟨rfl, rfl, List.prefix_rfl⟩
    · rw [act_of_ne_queued hi hstage]
      rcases call.step_changes limit l answer c.outbound with
        ⟨hencoding, frame, hframe, ho⟩ | ⟨hframe, hkeeps⟩
      · left
        refine ⟨frame, ?_, ho⟩
        -- the call that has its turn is the last to have got it
        obtain ⟨before, hturns⟩ := h.last i call hi (by rw [hencoding]; rfl)
        have hbefore : i ∉ before := by
          have honce := h.once
          rw [hturns] at honce
          exact fun hmem => (List.nodup_append.mp honce).2.2 i hmem i (by simp) rfl
        have hnone : call.frame? l = none := by simp [Call.frame?, hencoding, Stage.encoded]
        simp [frames, hturns, List.filterMap_append, filterMap_set_eq hbefore, hi,
          List.getElem?_set_self hlt, hframe, hnone]
      · exact .inr ⟨frames_set hi hframe, hkeeps.octets, hkeeps.accepted⟩

/-- What is known of calls around one writer: they take turns, the octets are the frames in the
order of the turns, and whoever has made a frame has it among them. -/
structure Sound (l : Limits) (c : Shared κ) : Prop where
  takesTurns : c.TakesTurns
  octets : c.outbound.octets = (c.frames l).flatten
  made : ∀ (i : Nat) (call : Call κ), c.calls[i]? = some call → call.stage.encoded = true →
    (call.frame? l).isSome = true

theorem sound_start (l : Limits) (messages : List (Message κ × Means)) :
    (start messages).Sound l where
  takesTurns := takesTurns_start messages
  octets := rfl
  made i call h hencoded := by
    obtain ⟨m, -, rfl⟩ := Option.map_eq_some_iff.mp ((List.getElem?_map ..).symm.trans h)
    cases hencoded

theorem Sound.made_act (h : c.Sound l) (i : Nat) (answer : WriteAnswer) :
    ∀ (j : Nat) (call : Call κ), (c.act limit l i answer).calls[j]? = some call →
      call.stage.encoded = true → (call.frame? l).isSome = true := by
  cases hi : c.calls[i]? with
  | none =>
    rw [act_of_none hi]
    exact h.made
  | some call =>
    have hothers : ∀ (j : Nat) (other : Call κ), j ≠ i → c.calls[j]? = some other →
        other.stage.encoded = true → (other.frame? l).isSome = true := fun j other _ => h.made j other
    by_cases hstage : call.stage = .queued
    · rw [act_of_queued hi hstage]
      split
      · exact forall_set (fun hencoded => by cases hencoded) hothers
      · exact h.made
    · rw [act_of_ne_queued hi hstage]
      refine forall_set (fun hencoded => ?_) hothers
      rcases call.step_changes limit l answer c.outbound with
        ⟨-, frame, hframe, -⟩ | ⟨hframe, hkeeps⟩
      · rw [hframe]
        rfl
      · rw [hframe]
        exact h.made i call hi (hkeeps.encoded.symm.trans hencoded)

theorem Sound.act (h : c.Sound l) (i : Nat) (answer : WriteAnswer) :
    (c.act limit l i answer).Sound l where
  takesTurns := h.takesTurns.act i answer
  octets := by
    rcases h.takesTurns.act_changes i answer with ⟨frame, hframes, ho⟩ | ⟨hframes, ho, -⟩
    · rw [hframes, ho, List.flatten_append, ← h.octets]
      simp [Outbound.octets]
    · rw [hframes, ho, h.octets]
  made := h.made_act i answer

theorem Sound.reaches (h : c.Sound l) (hr : Reaches limit l c d) : d.Sound l := by
  induction hr with
  | refl => exact h
  | act i answer _ ih => exact ih.act i answer

/-- Frames are only added behind the others, and the stream gives nothing back. -/
theorem Sound.prefix_of_reaches (h : c.Sound l) (hr : Reaches limit l c d) :
    c.frames l <+: d.frames l ∧ c.outbound.accepted <+: d.outbound.accepted := by
  induction hr with
  | refl => exact ⟨List.prefix_rfl, List.prefix_rfl⟩
  | @act d i answer hr ih =>
    rcases (h.reaches hr).takesTurns.act_changes i answer with
      ⟨frame, hframes, ho⟩ | ⟨hframes, -, haccepted⟩
    · rw [hframes, ho]
      exact ⟨ih.1.trans (List.prefix_append _ _), ih.2⟩
    · rw [hframes]
      exact ⟨ih.1, ih.2.trans haccepted⟩

/-- A call that has returned after an action has not been waiting before it. -/
theorem exists_of_returns_act {result : Except RelayError Unit}
    (h : (c.act limit l i answer).Returns i result) :
    ∃ call b, c.calls[i]? = some call ∧ call.stage ≠ .queued ∧
      (call.step limit l answer c.outbound).1.stage = .returned b result := by
  obtain ⟨after, b, hafter, hreturned⟩ := h
  cases hi : c.calls[i]? with
  | none =>
    rw [act_of_none hi, hi] at hafter
    cases hafter
  | some call =>
    obtain ⟨hlt, -⟩ := List.getElem?_eq_some_iff.mp hi
    by_cases hstage : call.stage = .queued
    · rw [act_of_queued hi hstage] at hafter
      split at hafter
      · simp only [List.getElem?_set_self hlt, Option.some.injEq] at hafter
        subst hafter
        cases hreturned
      · rw [hi, Option.some.injEq] at hafter
        subst hafter
        rw [hstage] at hreturned
        cases hreturned
    · rw [act_of_ne_queued hi hstage] at hafter
      simp only [List.getElem?_set_self hlt, Option.some.injEq] at hafter
      subst hafter
      exact ⟨call, b, rfl, hstage, hreturned⟩

/-- A call returns without touching the octets. -/
theorem outbound_of_returns {result : Except RelayError Unit}
    (h : (c.act limit l i answer).Returns i result) :
    (c.act limit l i answer).outbound = c.outbound := by
  obtain ⟨call, b, hi, hstage, hreturned⟩ := exists_of_returns_act h
  rw [act_of_ne_queued hi hstage]
  exact (call.step_returning limit l answer c.outbound).alone b result hreturned

/-- The writer keeps the frames apart, now and from now on. -/
structure KeepsFrames (limit : UInt32) (l : Limits) (c : Shared κ) : Prop where
  /-- Each call has had at most one turn. -/
  once : c.turns.Nodup
  /-- Whoever has made a frame has had its turn and has the frame among the others. -/
  made : ∀ (i : Nat) (call : Call κ), c.calls[i]? = some call → call.stage.encoded = true →
    i ∈ c.turns ∧ ∃ frame, encode call.means l call.message [] = .ok frame ∧
      call.frame? l = some frame
  /-- The stream has taken a part of the frames from their front. -/
  part : c.outbound.accepted <+: (c.frames l).flatten
  /-- What waits is the rest. -/
  rest : c.outbound.accepted ++ c.outbound.pending = (c.frames l).flatten
  /-- When a call succeeds, the stream has taken all frames that have been made. -/
  succeeded : ∀ i answer, (c.act limit l i answer).Returns i (.ok ()) →
    c.Returns i (.ok ()) ∨
      (c.act limit l i answer).outbound.accepted = ((c.act limit l i answer).frames l).flatten
  /-- When a call fails, the octets stay what they are. -/
  failed : ∀ i answer e, (c.act limit l i answer).Returns i (.error e) →
    (c.act limit l i answer).outbound = c.outbound
  /-- Whatever comes later, the stream takes first what waits now and then the later frames. -/
  later : ∀ d, Reaches limit l c d → ∃ frames taken,
    d.frames l = c.frames l ++ frames ∧ d.outbound.accepted = c.outbound.accepted ++ taken ∧
      taken ++ d.outbound.pending = c.outbound.pending ++ frames.flatten

theorem Sound.succeeded (h : c.Sound l) (i : Nat) (answer : WriteAnswer)
    (hreturns : (c.act limit l i answer).Returns i (.ok ())) :
    c.Returns i (.ok ()) ∨
      (c.act limit l i answer).outbound.accepted =
        ((c.act limit l i answer).frames l).flatten := by
  obtain ⟨call, b, hi, hstage, hreturned⟩ := exists_of_returns_act hreturns
  have hreturning := call.step_returning limit l answer c.outbound
  rcases hreturning.empty b hreturned with hbefore | hempty
  · exact .inl ⟨call, b, hi, hbefore.trans hreturned⟩
  · right
    have hrest : (c.act limit l i answer).outbound.octets = _ := (h.act i answer).octets
    rw [← hrest, Outbound.octets, outbound_of_returns hreturns, hempty, List.append_nil]

theorem Sound.later (h : c.Sound l) (hr : Reaches limit l c d) : ∃ frames taken,
    d.frames l = c.frames l ++ frames ∧ d.outbound.accepted = c.outbound.accepted ++ taken ∧
      taken ++ d.outbound.pending = c.outbound.pending ++ frames.flatten := by
  obtain ⟨⟨frames, hframes⟩, taken, htaken⟩ := h.prefix_of_reaches hr
  refine ⟨frames, taken, hframes.symm, htaken.symm, ?_⟩
  have hc := h.octets
  have hd := (h.reaches hr).octets
  rw [← hframes, List.flatten_append, ← hc, Outbound.octets, Outbound.octets, ← htaken,
    List.append_assoc, List.append_assoc] at hd
  exact List.append_cancel_left hd

theorem Sound.keepsFrames (limit : UInt32) (h : c.Sound l) : c.KeepsFrames limit l where
  once := h.takesTurns.once
  made i call hi hencoded := by
    refine ⟨(h.takesTurns.had i call hi).mpr ?_, ?_⟩
    · intro hqueued
      rw [hqueued] at hencoded
      cases hencoded
    · obtain ⟨frame, hframe⟩ := Option.isSome_iff_exists.mp (h.made i call hi hencoded)
      exact ⟨frame, (Call.frame?_eq_some_iff.mp hframe).2, hframe⟩
  part := ⟨_, h.octets⟩
  rest := h.octets
  succeeded := h.succeeded
  failed i answer e := outbound_of_returns
  later d := h.later

/-- **A shared writer keeps the frames apart**, in whatever order the calls act and whatever the
stream answers. -/
theorem reaches_keepsFrames {messages : List (Message κ × Means)}
    (h : Reaches limit l (start messages) c) : c.KeepsFrames limit l :=
  ((sound_start l messages).reaches h).keepsFrames limit

/-! ## A frame cut in two -/

/-- The calls at the given places act, with the given answers of the stream. -/
def run (limit : UInt32) (l : Limits) (c : Shared κ) (actions : List (Nat × WriteAnswer)) :
    Shared κ :=
  actions.foldl (fun c a => c.act limit l a.1 a.2) c

theorem reaches_run (c : Shared κ) (actions : List (Nat × WriteAnswer)) :
    Reaches limit l c (c.run limit l actions) := by
  induction actions using List.reverseRecOn with
  | nil => exact .refl
  | append_singleton actions a ih =>
    rw [run, List.foldl_concat]
    exact ih.act a.1 a.2

/-- Means that change nothing. -/
def bare : Means := ⟨.ok, .ok, fun _ => ⟨1, fun _ => some ⟨id, id⟩⟩, .ok, .ok⟩

/-- A heartbeat that nobody retries and data that another task has to send. -/
def heartbeatAndData : Shared ProxyKind :=
  start [(⟨[], .aes, Body.heartbeat "1" "user" 0⟩, bare),
    (⟨[], .aes, Body.okTcp "2" "user" "example.org" 80 (Bytes.ofText "data")⟩, bare)]

/-- The stream takes nine octets of the heartbeat and fails, and then takes what comes with the
data. -/
def interruptedHeartbeat : Shared ProxyKind :=
  heartbeatAndData.run 0 ⟨false, 1024⟩
    [(0, .notReady), (1, .notReady), (0, .notReady), (0, .notReady), (0, .takes 9),
      (0, .fails ⟨.interrupted, "interrupted"⟩), (1, .notReady), (1, .notReady), (1, .notReady),
      (1, .takes 40), (1, .takes 200), (1, .notReady)]

theorem interruptedHeartbeat_keepsFrames :
    interruptedHeartbeat.KeepsFrames 0 ⟨false, 1024⟩ ∧ interruptedHeartbeat.turns = [0, 1] ∧
      (interruptedHeartbeat.frames ⟨false, 1024⟩).map List.length = [52, 59] ∧
      interruptedHeartbeat.outbound.accepted.length = 111 := by
  refine ⟨reaches_keepsFrames (reaches_run heartbeatAndData _), ?_, ?_, ?_⟩
  · decide +kernel
  · decide +kernel
  · decide +kernel

end Shared

end TunnelRelay.Tunnel
