import TunnelRelay.Proofs.Retry.Write

/-!
# The course of writing

What a writer answers does not depend on when its caller gives up. A caller who never does offers
what has not been taken until all is taken, and then flushes until a flush is done;
`Exchange.course` is what passes between the two. A run is the front of this course, up to the first
exchange that decides it: a flush that is done, a channel that is found closed, or one failure more
than the limit lets be retried.

So the course alone tells the whole run (`writeAll_exact`): what was received, what was offered, how
often there was a pause, and which of the three results it has.
-/

namespace TunnelRelay

/-- A call on a writer, with the writer's answer. -/
inductive Exchange where
  | wrote (b : Bytes) (answer : WriteAnswer)
  | flushed (answer : FlushAnswer)
  deriving DecidableEq, Repr

namespace Exchange

/-! ## One exchange -/

def call : Exchange → WriterCall
  | wrote b _ => .write b
  | flushed _ => .flush

/-- The octets that the writer could take; a flush offers none. -/
def offered : Exchange → Bytes
  | wrote b _ => b
  | flushed _ => []

/-- The octets that the writer took. -/
def taken : Exchange → Bytes
  | wrote b (.takes n) => b.take n
  | _ => []

/-- The octets that the writer left. -/
def left : Exchange → Bytes
  | wrote b (.takes n) => b.drop n
  | wrote b _ => b
  | flushed _ => []

/-- The failure that counts against the limit: any but an interrupted write and one after which
nothing more can pass. -/
def failure? : Exchange → Option StreamError
  | wrote _ (.fails e) => if e.kind = .interrupted ∨ e.kind.closesChannel then none else some e
  | flushed (.fails e) => if e.kind.closesChannel then none else some e
  | _ => none

/-- How the channel was found closed, if it was. -/
def closing? : Exchange → Option String
  | wrote _ (.takes 0) => some "write returned zero bytes"
  | wrote _ (.fails e) | flushed (.fails e) => if e.kind.closesChannel then some e.text else none
  | _ => none

/-- All is received. -/
def isDone : Exchange → Bool
  | flushed .done => true
  | _ => false

/-! ## Many exchanges -/

/-- All octets that the writer took. -/
def received (es : List Exchange) : Bytes := es.flatMap taken

/-- The number of failures that count. -/
def failures (es : List Exchange) : Nat := es.countP (·.failure?.isSome)

theorem received_append (es fs : List Exchange) :
    received (es ++ fs) = received es ++ received fs :=
  List.flatMap_append

theorem failures_append (es fs : List Exchange) :
    failures (es ++ fs) = failures es + failures fs :=
  List.countP_append

theorem failures_cons_of_some {x : Exchange} {e : StreamError} (h : x.failure? = some e)
    (es : List Exchange) : failures (x :: es) = failures es + 1 :=
  List.countP_cons_of_pos (by rw [h]; rfl)

theorem failures_cons_of_none {x : Exchange} (h : x.failure? = none) (es : List Exchange) :
    failures (x :: es) = failures es :=
  List.countP_cons_of_neg (by rw [h]; exact Bool.false_ne_true)

/-- Nothing among these exchanges has decided a run that may retry `limit` failures. -/
structure Pending (limit : Nat) (es : List Exchange) : Prop where
  undone : ∀ x ∈ es, x.isDone = false
  unclosed : ∀ x ∈ es, x.closing? = none
  few : failures es ≤ limit

/-! ## The course -/

/-- What passes while a caller flushes. -/
def flushing : List FlushAnswer → List Exchange
  | [] | .done :: _ => [flushed .done]
  | answer :: script => flushed answer :: flushing script

/-- What passes while a caller writes the rest of the data and flushes, and never gives up. -/
def course (flushes : List FlushAnswer) : List WriteAnswer → Bytes → List Exchange
  | _, [] => flushing flushes
  | [], b :: data => wrote (b :: data) (.takes (b :: data).length) :: flushing flushes
  | answer :: script, b :: data =>
    let x := wrote (b :: data) answer
    x :: course flushes script x.left

variable {limit n : Nat} {es before before' after after' : List Exchange} {x x' : Exchange}

/-- A flush is all that passes once the data is written. -/
theorem exists_of_mem_flushing {flushes : List FlushAnswer} (h : x ∈ flushing flushes) :
    ∃ answer, x = flushed answer := by
  induction flushes with
  | nil => exact ⟨.done, List.mem_singleton.mp h⟩
  | cons answer flushes ih =>
    cases answer with
    | done => exact ⟨.done, List.mem_singleton.mp h⟩
    | fails _ | notReady =>
      rcases List.mem_cons.mp h with rfl | h
      · exact ⟨_, rfl⟩
      · exact ih h

theorem received_flushing (flushes : List FlushAnswer) : received (flushing flushes) = [] := by
  refine List.flatMap_eq_nil_iff.mpr fun x hx => ?_
  obtain ⟨answer, rfl⟩ := exists_of_mem_flushing hx
  rfl

theorem taken_append_left (x : Exchange) : x.taken ++ x.left = x.offered := by
  cases x with
  | wrote b answer =>
    cases answer with
    | takes n => exact List.take_append_drop n b
    | fails e => rfl
    | notReady => rfl
  | flushed answer => rfl

/-- A caller who never gives up gets everything through. -/
theorem received_course (flushes : List FlushAnswer) (script : List WriteAnswer) (data : Bytes) :
    received (course flushes script data) = data := by
  induction script generalizing data with
  | nil =>
    cases data with
    | nil => exact received_flushing flushes
    | cons b data =>
      change (b :: data).take (b :: data).length ++ received (flushing flushes) = b :: data
      rw [received_flushing, List.append_nil, List.take_length]
  | cons answer script ih =>
    cases data with
    | nil => exact received_flushing flushes
    | cons b data =>
      change (wrote (b :: data) answer).taken ++ received (course flushes script _) = b :: data
      rw [ih]
      exact taken_append_left (wrote (b :: data) answer)

theorem received_append_offered_of_flushing {flushes : List FlushAnswer}
    (h : flushing flushes = before ++ x :: after) : received before ++ x.offered = [] := by
  have hmem : x ∈ flushing flushes := by
    rw [h]
    exact List.mem_append_right _ List.mem_cons_self
  obtain ⟨answer, rfl⟩ := exists_of_mem_flushing hmem
  have hreceived := received_flushing flushes
  rw [h, received_append] at hreceived
  rw [(List.append_eq_nil_iff.mp hreceived).1]
  rfl

/-- **Every call offers what has not been taken**, so a flush comes only when all is taken. -/
theorem received_append_offered {flushes : List FlushAnswer} {script : List WriteAnswer}
    {data : Bytes} (h : course flushes script data = before ++ x :: after) :
    received before ++ x.offered = data := by
  induction script generalizing data before with
  | nil =>
    cases data with
    | nil => exact received_append_offered_of_flushing h
    | cons b data =>
      cases before with
      | nil =>
        obtain ⟨rfl, -⟩ := List.cons.inj h
        rfl
      | cons y before =>
        obtain ⟨rfl, hrest⟩ := List.cons.inj h
        change (b :: data).take (b :: data).length ++ received before ++ x.offered = b :: data
        rw [List.append_assoc, received_append_offered_of_flushing hrest, List.append_nil,
          List.take_length]
  | cons answer script ih =>
    cases data with
    | nil => exact received_append_offered_of_flushing h
    | cons b data =>
      cases before with
      | nil =>
        obtain ⟨rfl, -⟩ := List.cons.inj h
        rfl
      | cons y before =>
        obtain ⟨rfl, hrest⟩ := List.cons.inj h
        change (wrote (b :: data) answer).taken ++ received before ++ x.offered = b :: data
        rw [List.append_assoc, ih hrest]
        exact taken_append_left (wrote (b :: data) answer)

/-! ## What decides a run -/

/-- An exchange decides a run with this result, if `failed` failures have been retried before. -/
inductive Decides (limit : UInt32) (failed : Nat) : Exchange → Except RelayError Unit → Prop
  | done : Decides limit failed (flushed .done) (.ok ())
  | closed {x : Exchange} {reason : String} (h : x.closing? = some reason) :
    Decides limit failed x (.error (.channelClosed reason))
  | givenUp {x : Exchange} {e : StreamError} (h : x.failure? = some e)
    (hlast : failed = limit.toNat) :
    Decides limit failed x (.error (.transientWrite (limit + 1) e))

namespace Pending

theorem nil (limit : Nat) : Pending limit [] := ⟨nofun, nofun, Nat.zero_le limit⟩

theorem cons_of_none (h : Pending n es) (hundone : x.isDone = false) (hunclosed : x.closing? = none)
    (hnone : x.failure? = none) : Pending n (x :: es) :=
  ⟨List.forall_mem_cons.mpr ⟨hundone, h.undone⟩, List.forall_mem_cons.mpr ⟨hunclosed, h.unclosed⟩,
    by rw [failures_cons_of_none hnone]; exact h.few⟩

theorem cons_of_some {e : StreamError} (h : Pending n es) (hundone : x.isDone = false)
    (hunclosed : x.closing? = none) (hsome : x.failure? = some e) : Pending (n + 1) (x :: es) :=
  ⟨List.forall_mem_cons.mpr ⟨hundone, h.undone⟩, List.forall_mem_cons.mpr ⟨hunclosed, h.unclosed⟩,
    by rw [failures_cons_of_some hsome]; exact Nat.succ_le_succ h.few⟩

end Pending

theorem failure?_of_closing? {reason : String} (h : x.closing? = some reason) :
    x.failure? = none := by
  have hfails {e : StreamError} (h : (if e.kind.closesChannel then some e.text else none) =
      some reason) : e.kind.closesChannel = true := by
    by_contra hopen
    rw [if_neg hopen] at h
    cases h
  cases x with
  | wrote b answer =>
    cases answer with
    | takes n => rfl
    | fails e => exact if_pos (.inr (hfails h))
    | notReady => rfl
  | flushed answer =>
    cases answer with
    | done => rfl
    | fails e => exact if_pos (hfails h)
    | notReady => rfl

/-- An exchange decides a run in one way only. -/
theorem Decides.result_unique {limit : UInt32} {failed : Nat}
    {result result' : Except RelayError Unit} (h : Decides limit failed x result)
    (h' : Decides limit failed x result') : result = result' := by
  cases h with
  | done =>
    cases h' with
    | done => rfl
    | closed hclosing => cases hclosing
    | givenUp hfailure => cases hfailure
  | closed hclosing =>
    cases h' with
    | done => cases hclosing
    | closed hclosing' =>
      obtain rfl := Option.some.inj (hclosing.symm.trans hclosing')
      rfl
    | givenUp hfailure => cases (failure?_of_closing? hclosing).symm.trans hfailure
  | givenUp hfailure =>
    cases h' with
    | done => cases hfailure
    | closed hclosing => cases (failure?_of_closing? hclosing).symm.trans hfailure
    | givenUp hfailure' =>
      obtain rfl := Option.some.inj (hfailure.symm.trans hfailure')
      rfl

/-- What decides a run is not followed by anything that leaves it pending. -/
theorem Decides.not_pending {limit : UInt32} {result : Except RelayError Unit}
    (h : Decides limit (failures before) x result)
    (hpending : Pending limit.toNat (before ++ x :: after)) : False := by
  have hmem : x ∈ before ++ x :: after := List.mem_append_right _ List.mem_cons_self
  cases h with
  | done => exact Bool.noConfusion (hpending.undone _ hmem)
  | closed hclosing => simp [hpending.unclosed _ hmem] at hclosing
  | givenUp hfailure hlast =>
    have hfew := hpending.few
    rw [failures_append, failures_cons_of_some hfailure] at hfew
    omega

/-- **A run is decided once**: of one course no two exchanges decide it. -/
theorem Decides.unique {limit : UInt32} {result result' : Except RelayError Unit}
    (hcourse : before ++ x :: after = before' ++ x' :: after')
    (hpending : Pending limit.toNat before) (hpending' : Pending limit.toNat before')
    (h : Decides limit (failures before) x result)
    (h' : Decides limit (failures before') x' result') : before = before' ∧ x = x' := by
  rcases List.append_eq_append_iff.mp hcourse with ⟨c, rfl, hc⟩ | ⟨c, rfl, hc⟩
  · cases c with
    | nil =>
      obtain ⟨rfl, -⟩ := List.cons.inj hc
      exact ⟨(List.append_nil _).symm, rfl⟩
    | cons y c =>
      obtain ⟨rfl, -⟩ := List.cons.inj hc
      exact (h.not_pending hpending').elim
  · cases c with
    | nil =>
      obtain ⟨rfl, -⟩ := List.cons.inj hc
      exact ⟨List.append_nil _, rfl⟩
    | cons y c =>
      obtain ⟨rfl, -⟩ := List.cons.inj hc
      exact (h'.not_pending hpending).elim

end Exchange

/-! ## Where a run stops -/

open Exchange

variable {limit : UInt32}

/-- A run that has retried `failed` failures before goes through some exchanges that leave it
pending, and stops at the one that decides it. -/
structure WriteRun.StopsAt (run : WriteRun) (limit : UInt32) (failed : Nat) (before : List Exchange)
    (x : Exchange) : Prop where
  pending : Pending (limit.toNat - failed) before
  decides : Decides limit (failed + failures before) x run.result
  calls : run.calls = (before ++ [x]).map call
  received : run.received = Exchange.received (before ++ [x])
  pauses : run.pauses = failures before

/-- A run stops at some exchange of a course. -/
def WriteRun.Follows (run : WriteRun) (limit : UInt32) (failed : Nat) (course : List Exchange) :
    Prop :=
  ∃ before x after, course = before ++ x :: after ∧ run.StopsAt limit failed before x

namespace WriteRun

variable {run : WriteRun} {failed : Nat} {es : List Exchange} {x : Exchange}

/-- A run may be decided by its first exchange. -/
theorem follows_finish {result : Except RelayError Unit} (h : Decides limit failed x result)
    (htaken : x.taken = []) (es : List Exchange) :
    ((finish result).after x.call).Follows limit failed (x :: es) := by
  refine ⟨[], x, es, rfl, Pending.nil _, h, rfl, ?_, rfl⟩
  change [] = x.taken ++ []
  rw [htaken]
  rfl

/-- An exchange without a failure that counts leaves a run pending. -/
theorem Follows.quiet (h : run.Follows limit failed es) (hundone : x.isDone = false)
    (hunclosed : x.closing? = none) (hnone : x.failure? = none) :
    ((run.taking x.taken).after x.call).Follows limit failed (x :: es) := by
  obtain ⟨before, y, after, rfl, hstop⟩ := h
  refine ⟨x :: before, y, after, rfl, ?_, ?_, ?_, ?_, ?_⟩
  · exact hstop.pending.cons_of_none hundone hunclosed hnone
  · rw [failures_cons_of_none hnone]
    exact hstop.decides
  · exact congrArg (x.call :: ·) hstop.calls
  · exact congrArg (x.taken ++ ·) hstop.received
  · rw [failures_cons_of_none hnone]
    exact hstop.pauses

/-- A failure that is retried leaves a run pending. -/
theorem Follows.retried {e : StreamError} (h : run.Follows limit (failed + 1) es)
    (hmore : failed < limit.toNat) (hundone : x.isDone = false) (hunclosed : x.closing? = none)
    (hsome : x.failure? = some e) (htaken : x.taken = []) :
    (run.pausing.after x.call).Follows limit failed (x :: es) := by
  obtain ⟨before, y, after, rfl, hstop⟩ := h
  refine ⟨x :: before, y, after, rfl, ?_, ?_, ?_, ?_, ?_⟩
  · obtain ⟨k, hk⟩ : ∃ k, limit.toNat - failed = limit.toNat - (failed + 1) + 1 :=
      ⟨0, by omega⟩
    rw [hk]
    exact hstop.pending.cons_of_some hundone hunclosed hsome
  · have hsum : failed + failures (x :: before) = failed + 1 + failures before := by
      rw [failures_cons_of_some hsome]
      omega
    rw [hsum]
    exact hstop.decides
  · exact congrArg (x.call :: ·) hstop.calls
  · change run.received = x.taken ++ Exchange.received (before ++ [y])
    rw [htaken]
    exact hstop.received
  · rw [failures_cons_of_some hsome]
    exact congrArg (· + 1) hstop.pauses

end WriteRun

/-- A failure that counts is retried as long as the limit allows. -/
theorem Verdict.of_open {e : StreamError} (hlimit : limit.toNat + 1 < UInt32.size)
    (hopen : e.kind.closesChannel = false) {n : UInt32} (hn : n.toNat ≤ limit.toNat) :
    if n.toNat < limit.toNat then
      ∃ m : UInt32, m.toNat = n.toNat + 1 ∧ Verdict.of limit n e = .again m
    else Verdict.of limit n e = .stop (.transientWrite (limit + 1) e) := by
  have hnext := toNat_add_one (n := n) (by omega)
  split
  · rename_i hlt
    have hnot : ¬limit < n + 1 := by
      rw [UInt32.lt_iff_toNat_lt, hnext]
      omega
    refine ⟨n + 1, hnext, ?_⟩
    simp only [Verdict.of, hopen, Bool.false_eq_true, if_false, hnot]
  · rename_i hge
    obtain rfl : n = limit := UInt32.toNat_inj.mp (by omega)
    have hlt : n < n + 1 := by
      rw [UInt32.lt_iff_toNat_lt, hnext]
      omega
    simp only [Verdict.of, hopen, Bool.false_eq_true, if_false, hlt, if_true]

/-- A failed call decides the run, or is followed by what comes next. -/
theorem follows_of_failure {x : Exchange} {e : StreamError} {es : List Exchange}
    (hlimit : limit.toNat + 1 < UInt32.size) {n : UInt32} (hn : n.toNat ≤ limit.toNat)
    (hundone : x.isDone = false) (htaken : x.taken = [])
    (hfailure : x.failure? = if e.kind.closesChannel then none else some e)
    (hclosing : x.closing? = if e.kind.closesChannel then some e.text else none)
    {rest : UInt32 → WriteRun}
    (hrest : ∀ m : UInt32, m.toNat ≤ limit.toNat → (rest m).Follows limit m.toNat es) :
    (WriteRun.after x.call
      (match Verdict.of limit n e with
      | .stop e => .finish (.error e)
      | .again m => (rest m).pausing)).Follows limit n.toNat (x :: es) := by
  cases hkind : e.kind.closesChannel with
  | true =>
    rw [hkind, if_pos rfl] at hclosing
    simp only [Verdict.of, hkind, if_true]
    exact WriteRun.follows_finish (.closed hclosing) htaken es
  | false =>
    simp only [hkind, Bool.false_eq_true, if_false] at hfailure hclosing
    have hverdict := Verdict.of_open hlimit hkind hn
    split at hverdict
    · rename_i hlt
      obtain ⟨m, hm, hverdict⟩ := hverdict
      have hfollows := hrest m (by omega)
      rw [hm] at hfollows
      rw [hverdict]
      exact hfollows.retried hlt hundone hclosing hfailure htaken
    · rw [hverdict]
      exact WriteRun.follows_finish (.givenUp hfailure (by omega)) htaken es

theorem flushAll_follows (hlimit : limit.toNat + 1 < UInt32.size) (script : List FlushAnswer)
    {n : UInt32} (hn : n.toNat ≤ limit.toNat) :
    (flushAll limit script n).Follows limit n.toNat (flushing script) := by
  induction script generalizing n with
  | nil => exact WriteRun.follows_finish .done rfl []
  | cons answer script ih =>
    cases answer with
    | done => exact WriteRun.follows_finish .done rfl []
    | notReady => exact (ih hn).quiet rfl rfl rfl
    | fails e => exact follows_of_failure hlimit hn rfl rfl rfl rfl fun m hm => ih hm

theorem writeRest_follows (hlimit : limit.toNat + 1 < UInt32.size) (flushes : List FlushAnswer)
    (script : List WriteAnswer) (data : Bytes) {n : UInt32} (hn : n.toNat ≤ limit.toNat) :
    (writeRest limit flushes script data n).Follows limit n.toNat (course flushes script data) := by
  induction script generalizing data n with
  | nil =>
    cases data with
    | nil => exact flushAll_follows hlimit flushes hn
    | cons b data =>
      -- after the script the writer takes everything
      let x := wrote (b :: data) (.takes (b :: data).length)
      have htaken : x.taken = b :: data := List.take_length
      have h := (flushAll_follows hlimit flushes hn).quiet (x := x) rfl rfl rfl
      rw [htaken] at h
      exact h
  | cons answer script ih =>
    cases data with
    | nil => exact flushAll_follows hlimit flushes hn
    | cons b data =>
      cases answer with
      | notReady => exact (ih (b :: data) hn).quiet rfl rfl rfl
      | takes most =>
        cases most with
        | zero => exact WriteRun.follows_finish (.closed rfl) rfl _
        | succ k => exact (ih ((b :: data).drop (k + 1)) hn).quiet rfl rfl rfl
      | fails e =>
        by_cases hinterrupted : e.kind = .interrupted
        · have hnone : (wrote (b :: data) (.fails e)).failure? = none := if_pos (.inl hinterrupted)
          have hopen : (wrote (b :: data) (.fails e)).closing? = none := by
            simp only [closing?, hinterrupted]
            rfl
          rw [writeRest, if_pos hinterrupted]
          exact (ih (b :: data) hn).quiet rfl hopen hnone
        · have hfailure : (wrote (b :: data) (.fails e)).failure? =
              if e.kind.closesChannel then none else some e := by
            simp only [failure?, hinterrupted, false_or]
          rw [writeRest, if_neg hinterrupted]
          exact follows_of_failure hlimit hn rfl rfl hfailure rfl fun m hm => ih (b :: data) hm

/-! ## What a run comes to -/

namespace WriteRun

/-- The exchanges of a course that a run has gone through, one for each call. -/
def met (run : WriteRun) (course : List Exchange) : List Exchange := course.take run.calls.length

variable {run : WriteRun} {course before : List Exchange} {x : Exchange}

theorem StopsAt.met_eq {failed : Nat} (h : run.StopsAt limit failed before x)
    (after : List Exchange) : run.met (before ++ x :: after) = before ++ [x] := by
  have hlength : run.calls.length = (before ++ [x]).length := by
    rw [h.calls, List.length_map]
  rw [met, hlength, List.append_cons before x after, List.take_left]

/-- The result is the one of the exchange that decides. -/
theorem Follows.result_eq_iff (h : run.Follows limit 0 course) {result : Except RelayError Unit} :
    run.result = result ↔ ∃ before x after, course = before ++ x :: after ∧
      Pending limit.toNat before ∧ Decides limit (failures before) x result := by
  obtain ⟨before, x, after, rfl, hstop⟩ := h
  have hdecides := hstop.decides
  rw [Nat.zero_add] at hdecides
  constructor
  · rintro rfl
    exact ⟨before, x, after, rfl, hstop.pending, hdecides⟩
  · rintro ⟨before', x', after', hcourse, hpending', hdecides'⟩
    obtain ⟨rfl, rfl⟩ := hdecides.unique hcourse hstop.pending hpending' hdecides'
    exact hdecides.result_unique hdecides'

theorem Follows.done_iff (h : run.Follows limit 0 course) :
    run.result = .ok () ↔ ∃ before after, course = before ++ flushed .done :: after ∧
      Pending limit.toNat before := by
  rw [h.result_eq_iff]
  constructor
  · rintro ⟨before, x, after, hcourse, hpending, ⟨⟩⟩
    exact ⟨before, after, hcourse, hpending⟩
  · rintro ⟨before, after, hcourse, hpending⟩
    exact ⟨before, _, after, hcourse, hpending, .done⟩

theorem Follows.givenUp_iff (h : run.Follows limit 0 course)
    (hlimit : limit.toNat + 1 < UInt32.size) {attempts : UInt32} {e : StreamError} :
    run.result = .error (.transientWrite attempts e) ↔
      attempts.toNat = limit.toNat + 1 ∧ ∃ before x after, course = before ++ x :: after ∧
        Pending limit.toNat before ∧ failures before = limit.toNat ∧ x.failure? = some e := by
  have htotal := toNat_add_one hlimit
  rw [h.result_eq_iff]
  constructor
  · rintro ⟨before, x, after, hcourse, hpending, hdecides⟩
    cases hdecides with
    | givenUp hfailure hlast =>
      exact ⟨htotal, before, x, after, hcourse, hpending, hlast, hfailure⟩
  · rintro ⟨hattempts, before, x, after, hcourse, hpending, hlast, hfailure⟩
    obtain rfl : attempts = limit + 1 := UInt32.toNat_inj.mp (hattempts.trans htotal.symm)
    exact ⟨before, x, after, hcourse, hpending, .givenUp hfailure hlast⟩

theorem Follows.closed_iff (h : run.Follows limit 0 course) {reason : String} :
    run.result = .error (.channelClosed reason) ↔ ∃ before x after,
      course = before ++ x :: after ∧ Pending limit.toNat before ∧ x.closing? = some reason := by
  rw [h.result_eq_iff]
  constructor
  · rintro ⟨before, x, after, hcourse, hpending, hdecides⟩
    cases hdecides with
    | closed hclosing => exact ⟨before, x, after, hcourse, hpending, hclosing⟩
  · rintro ⟨before, x, after, hcourse, hpending, hclosing⟩
    exact ⟨before, x, after, hcourse, hpending, .closed hclosing⟩

theorem Follows.only {failed : Nat} (h : run.Follows limit failed course) :
    run.result = .ok () ∨ (∃ attempts e, run.result = .error (.transientWrite attempts e)) ∨
      ∃ reason, run.result = .error (.channelClosed reason) := by
  obtain ⟨before, x, after, -, hstop⟩ := h
  have hdecides := hstop.decides
  generalize run.result = result at hdecides ⊢
  cases hdecides with
  | done => exact .inl rfl
  | closed hclosing => exact .inr (.inr ⟨_, rfl⟩)
  | givenUp hfailure hlast => exact .inr (.inl ⟨_, _, rfl⟩)

/-- A flush that is done is the last call, and comes when all data is received. -/
theorem Follows.delivered {failed : Nat} {flushes : List FlushAnswer} {script : List WriteAnswer}
    {data : Bytes} (h : run.Follows limit failed (Exchange.course flushes script data))
    (hok : run.result = .ok ()) :
    ∃ before, run.met (Exchange.course flushes script data) = before ++ [flushed .done] ∧
      Exchange.received before = data := by
  obtain ⟨before, x, after, hcourse, hstop⟩ := h
  have hdecides := hstop.decides
  rw [hok] at hdecides
  cases hdecides
  have hall := received_append_offered hcourse
  rw [offered, List.append_nil] at hall
  exact ⟨before, by rw [hcourse, hstop.met_eq], hall⟩

/-- A run of writing `data` is told by its course. The run may retry `limit` failures, and pauses
take `interval`. -/
structure Exact (run : WriteRun) (limit : UInt32) (interval : Nat) (data : Bytes)
    (course : List Exchange) : Prop where
  /-- The calls are those of the course. -/
  calls : run.calls = (run.met course).map call
  /-- What is received is what was taken in these calls. -/
  received : run.received = Exchange.received (run.met course)
  /-- At any time this is a part of the data from its front. -/
  part : ∀ before, before <+: course → Exchange.received before <+: data
  /-- Each call offers just what has not been taken, so a flush comes only when all is taken. -/
  offers : ∀ before x after, course = before ++ x :: after →
    Exchange.received before ++ x.offered = data
  /-- There is a pause after each failure that is retried, that is, after which a call follows. -/
  slept : run.slept interval = interval * failures (run.met course).dropLast
  /-- On success a flush has been done after all data was received. -/
  delivered : run.result = .ok () → ∃ before, run.met course = before ++ [flushed .done] ∧
    Exchange.received before = data
  /-- Writing succeeds if a flush is done first. -/
  done : run.result = .ok () ↔ ∃ before after, course = before ++ flushed .done :: after ∧
    Pending limit.toNat before
  /-- It is given up if one failure more than the limit comes first. -/
  givenUp : ∀ attempts e, run.result = .error (.transientWrite attempts e) ↔
    attempts.toNat = limit.toNat + 1 ∧ ∃ before x after, course = before ++ x :: after ∧
      Pending limit.toNat before ∧ failures before = limit.toNat ∧ x.failure? = some e
  /-- The channel is closed if an exchange that shows this comes first. -/
  closed : ∀ reason, run.result = .error (.channelClosed reason) ↔
    ∃ before x after, course = before ++ x :: after ∧ Pending limit.toNat before ∧
      x.closing? = some reason
  /-- There is no other result. -/
  only : run.result = .ok () ∨ (∃ attempts e, run.result = .error (.transientWrite attempts e)) ∨
    ∃ reason, run.result = .error (.channelClosed reason)

end WriteRun

/-- **Writing delivers exactly or fails cleanly**: its run is the front of what passes with a caller
who never gives up, as far as the first exchange that decides it. -/
theorem writeAll_exact (hlimit : limit.toNat + 1 < UInt32.size) (interval : Nat)
    (writes : List WriteAnswer) (flushes : List FlushAnswer) (data : Bytes) :
    (writeAll limit writes flushes data).Exact limit interval data
      (course flushes writes data) := by
  have hfollows : (writeAll limit writes flushes data).Follows limit 0
      (course flushes writes data) :=
    writeRest_follows hlimit flushes writes data (Nat.zero_le _)
  have ⟨before, x, after, hcourse, hstop⟩ := hfollows
  have hmet : (writeAll limit writes flushes data).met (course flushes writes data) =
      before ++ [x] := by
    rw [hcourse, hstop.met_eq]
  exact {
    calls := by rw [hmet, hstop.calls]
    received := by rw [hmet, hstop.received]
    part := by
      rintro front ⟨rest, hrest⟩
      have hall := received_course flushes writes data
      rw [← hrest, received_append] at hall
      exact ⟨_, hall⟩
    offers := fun _ _ _ h => received_append_offered h
    slept := by rw [hmet, List.dropLast_concat, WriteRun.slept, hstop.pauses, Nat.mul_comm]
    delivered := hfollows.delivered
    done := hfollows.done_iff
    givenUp := fun _ _ => hfollows.givenUp_iff hlimit
    closed := fun _ => hfollows.closed_iff
    only := hfollows.only }

/-- A writer that takes two octets, is not ready, is interrupted and fails once. -/
def busyWrites : List WriteAnswer :=
  [.takes 2, .notReady, .fails ⟨.interrupted, "again"⟩, .fails ⟨.timedOut, "busy"⟩]

/-- A flush that fails. -/
def lateFlush : List FlushAnswer := [.fails ⟨.timedOut, "late"⟩]

/-- If one failure may be retried, the flush that fails behind a failed write is one too many. -/
theorem lateFlush_exact : (1 : UInt32).toNat + 1 < UInt32.size ∧
    (writeAll 1 busyWrites lateFlush [1, 2, 3]).result =
      .error (.transientWrite 2 ⟨.timedOut, "late"⟩) ∧
    (writeAll 1 busyWrites lateFlush [1, 2, 3]).Exact 1 100 [1, 2, 3]
      (course lateFlush busyWrites [1, 2, 3]) :=
  ⟨by decide, rfl, writeAll_exact (by decide) 100 busyWrites lateFlush [1, 2, 3]⟩

end TunnelRelay
