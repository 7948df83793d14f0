import TunnelRelay.Proofs.Except
import TunnelRelay.Proofs.Frame.Stream

/-!
# A message is sent whole or not at all

A message can be refused at every stage of its way: its token does not seal, the cipher does not
take the token, the contents do not compress or are too long. Only the last stage writes, and it
checks before it writes. So what waits to be sent has grown by one frame or not at all
(`encodeOnto_on`), and a refused message in a stream is as if it had never been there.
-/

namespace TunnelRelay.Frame

namespace Appending

variable {ε ε' α β : Type} (out : Bytes)

@[simp] theorem on_pure (a : α) : on (pure a : Appending ε α) out = (.ok a, out) := rfl

@[simp] theorem on_throw (e : ε) : on (throw e : Appending ε α) out = (.error e, out) := rfl

@[simp] theorem on_emit (b : Bytes) : on (emit b : Appending ε Unit) out = (.ok (), out ++ b) := rfl

/-- An outcome that is there already writes nothing. -/
@[simp] theorem on_ofExcept (r : Except ε α) :
    on (MonadExcept.ofExcept r : Appending ε α) out = (r, out) := by
  cases r <;> rfl

/-- After a failure nothing more is written. -/
theorem on_bind (work : Appending ε α) (f : α → Appending ε β) :
    on (work >>= f) out =
      match on work out with
      | (.ok a, out) => on (f a) out
      | (.error e, out) => (.error e, out) := by
  simp only [on, ExceptT.run_bind, StateT.run_bind]
  change (match (ExceptT.run work).run out with | (r, s) => _) = _
  rcases (ExceptT.run work).run out with ⟨_ | _, _⟩ <;> rfl

@[simp] theorem on_adapt (f : ε → ε') (work : Appending ε α) :
    on (work.adapt f) out = ((on work out).1.mapError f, (on work out).2) := rfl

end Appending

variable {κ : Type} [Family κ] {w w' : Means} {l : Limits} {m : Message κ} {out : Bytes}

/-! ## One message -/

/-- The limit is looked at before anything is written. -/
theorem putOnto_on (limit : Nat) (contents out : Bytes) :
    (putOnto limit contents).on out =
      if limit < contents.length then (.error (tooBig .invalidInput), out)
      else (.ok (), out ++ delimit contents) := by
  unfold putOnto delimit
  split
  · rfl
  · simp [Appending.on_bind]

/-- Plain contents as they travel. -/
def packed (w : Means) (l : Limits) (plain : Bytes) : Except RelayError Bytes :=
  if l.compress then (w.compress plain).mapError .stream else .ok plain

/-- Contents that may be in a frame. -/
def fitting (l : Limits) (contents : Bytes) : Except RelayError Bytes :=
  if l.length < contents.length then .error (.stream (tooBig .invalidInput)) else .ok contents

/-- The contents of a message's frame, unless the message is refused. -/
def framed (w : Means) (l : Limits) (m : Message κ) : Except RelayError Bytes := do
  let plain ← write w m
  let contents ← packed w l plain
  fitting l contents

theorem packed_eq_ok_iff {plain contents : Bytes} :
    packed w l plain = .ok contents ↔ Packs w l plain contents := by
  unfold packed Packs
  split
  · exact mapError_eq_ok_iff
  · rw [Except.ok.injEq, eq_comm]

theorem packed_eq_error_iff {plain : Bytes} {e : RelayError} :
    packed w l plain = .error e ↔
      l.compress = true ∧ ∃ cause, w.compress plain = .error cause ∧ .stream cause = e := by
  unfold packed
  split
  · rename_i hcompress
    rw [mapError_eq_error_iff]
    exact (and_iff_right hcompress).symm
  · rename_i hcompress
    exact ⟨nofun, fun h => absurd h.1 hcompress⟩

/-- The contents decide what becomes of a message. What waits in front has no part in it. -/
theorem encodeOnto_on (w : Means) (l : Limits) (m : Message κ) (out : Bytes) :
    (encodeOnto w l m).on out =
      match framed w l m with
      | .ok contents => (.ok (), out ++ delimit contents)
      | .error e => (.error e, out) := by
  rw [encodeOnto, framed, Appending.on_bind, Appending.on_ofExcept]
  cases write w m with
  | error e => rfl
  | ok plain =>
    change Appending.on (MonadExcept.ofExcept (packed w l plain) >>= _) out =
      match packed w l plain >>= fitting l with
      | .ok contents => (.ok (), out ++ delimit contents)
      | .error e => (.error e, out)
    rw [Appending.on_bind, Appending.on_ofExcept]
    cases packed w l plain with
    | error e => rfl
    | ok contents =>
      change Appending.on ((putOnto l.length contents).adapt RelayError.stream) out =
        match fitting l contents with
        | .ok contents => (.ok (), out ++ delimit contents)
        | .error e => (.error e, out)
      rw [Appending.on_adapt, putOnto_on, fitting]
      split <;> rfl

/-- A writer that is given what waits as a value puts the same frame behind it. -/
theorem encode_eq_map (w : Means) (l : Limits) (m : Message κ) (out : Bytes) :
    encode w l m out = (framed w l m).map fun contents => out ++ delimit contents := by
  have hput (contents : Bytes) : (put l.length contents out).mapError RelayError.stream =
      (fitting l contents).map fun contents => out ++ delimit contents := by
    unfold put fitting delimit
    split
    · rfl
    · rw [List.append_assoc]
      rfl
  unfold encode framed packed
  cases write w m with
  | error e => rfl
  | ok plain =>
    by_cases hcompress : l.compress = true
    · simp only [hcompress, if_true, bind, Except.bind]
      cases (w.compress plain).mapError RelayError.stream with
      | error e => rfl
      | ok contents => exact hput contents
    · simp only [hcompress, if_false, bind, Except.bind, Bool.false_eq_true]
      exact hput plain

/-- Why a message is refused, stage by stage. -/
inductive Unsendable (w : Means) (l : Limits) (m : Message κ) : RelayError → Prop where
  /-- The token does not seal. -/
  | token {e : CryptoError} (h : w.sealToken m.token = .error e) : Unsendable w l m (.crypto e)
  /-- The token seals, but it is no key of the cipher. -/
  | cipher {sealed : Bytes} {e : CryptoError} (hsealed : w.sealToken m.token = .ok sealed)
      (h : (w.blockCipher m.cipher).encrypt m.token m.body.encode = .error e) :
      Unsendable w l m (.crypto e)
  /-- The contents do not compress. -/
  | compression {plain : Bytes} {e : StreamError} (hwrite : write w m = .ok plain)
      (hcompress : l.compress = true) (h : w.compress plain = .error e) :
      Unsendable w l m (.stream e)
  /-- The contents are longer than a frame may be. -/
  | tooLong {plain contents : Bytes} (hwrite : write w m = .ok plain)
      (hpacks : Packs w l plain contents) (h : l.length < contents.length) :
      Unsendable w l m (.stream (tooBig .invalidInput))

theorem framed_eq_ok_iff {contents : Bytes} :
    framed w l m = .ok contents ↔ Framed w l m contents := by
  constructor
  · intro h
    obtain ⟨plain, hwrite, h⟩ := exists_of_bind_eq_ok h
    obtain ⟨contents', hpacked, h⟩ := exists_of_bind_eq_ok h
    unfold fitting at h
    split at h
    · cases h
    · cases h
      exact ⟨plain, hwrite, packed_eq_ok_iff.mp hpacked, by omega⟩
  · rintro ⟨plain, hwrite, hpacks, hle⟩
    have hfits : fitting l contents = .ok contents := if_neg (by omega)
    simp only [framed, hwrite, packed_eq_ok_iff.mpr hpacks, hfits, bind, Except.bind]

theorem write_eq_error_iff {e : RelayError} :
    write w m = .error e ↔ ∃ cause, .crypto cause = e ∧
      (w.sealToken m.token = .error cause ∨ (∃ sealed, w.sealToken m.token = .ok sealed) ∧
        (w.blockCipher m.cipher).encrypt m.token m.body.encode = .error cause) := by
  unfold write
  cases w.sealToken m.token with
  | error cause => simp [Except.mapError, bind, Except.bind]
  | ok sealed =>
    cases (w.blockCipher m.cipher).encrypt m.token m.body.encode with
    | error cause => simp [Except.mapError, bind, Except.bind]
    | ok body => simp [Except.mapError, bind, Except.bind, pure, Except.pure]

theorem framed_eq_error_iff {e : RelayError} : framed w l m = .error e ↔ Unsendable w l m e := by
  constructor
  · intro h
    rcases error_or_exists_of_bind_eq_error h with h | ⟨plain, hwrite, h⟩
    · obtain ⟨cause, rfl, htoken | ⟨⟨sealed, hsealed⟩, hcipher⟩⟩ := write_eq_error_iff.mp h
      · exact .token htoken
      · exact .cipher hsealed hcipher
    rcases error_or_exists_of_bind_eq_error h with h | ⟨contents, hpacked, h⟩
    · obtain ⟨hcompress, cause, hcause, rfl⟩ := packed_eq_error_iff.mp h
      exact .compression hwrite hcompress hcause
    · unfold fitting at h
      split at h
      · cases h
        exact .tooLong hwrite (packed_eq_ok_iff.mp hpacked) ‹_›
      · cases h
  · intro h
    cases h with
    | token h =>
      have hwrite := write_eq_error_iff.mpr ⟨_, rfl, .inl h⟩
      simp only [framed, hwrite, bind, Except.bind]
    | cipher hsealed h =>
      have hwrite := write_eq_error_iff.mpr ⟨_, rfl, .inr ⟨⟨_, hsealed⟩, h⟩⟩
      simp only [framed, hwrite, bind, Except.bind]
    | compression hwrite hcompress h =>
      have hpacked := packed_eq_error_iff.mpr ⟨hcompress, _, h, rfl⟩
      simp only [framed, hwrite, hpacked, bind, Except.bind]
    | tooLong hwrite hpacks h =>
      simp only [framed, hwrite, packed_eq_ok_iff.mpr hpacks, fitting, if_pos h, bind, Except.bind]

/-! ## One message after the other -/

/-- What becomes of a message. -/
def outcome (l : Limits) : Message κ × Means → Except RelayError Unit
  | (m, w) => (framed w l m).map fun _ => ()

/-- What a message puts behind what waits. -/
def share (l : Limits) : Message κ × Means → Bytes
  | (m, w) =>
    match framed w l m with
    | .ok contents => delimit contents
    | .error _ => []

theorem encodeOnto_eq (w : Means) (l : Limits) (m : Message κ) (out : Bytes) :
    (encodeOnto w l m).on out = (outcome l (m, w), out ++ share l (m, w)) := by
  rw [encodeOnto_on, outcome, share]
  cases framed w l m with
  | error e => simp [Except.map]
  | ok contents => rfl

/-- What becomes of one message has no part in what becomes of the others. -/
theorem encodeEach_run (l : Limits) (ms : List (Message κ × Means)) (out : Bytes) :
    (encodeEach l ms).run out =
      (ms.map (outcome l), out ++ ms.flatMap (share l)) := by
  -- what waits in front grows by the share of each message
  induction ms generalizing out with
  | nil =>
    rw [encodeEach, List.mapM_nil, StateT.run_pure, List.flatMap_nil, List.append_nil]
    rfl
  | cons mw ms ih =>
    obtain ⟨m, w⟩ := mw
    have hm : (ExceptT.run (encodeOnto w l m)).run out = _ := encodeOnto_eq w l m out
    have hcons : (encodeEach l ((m, w) :: ms)).run out =
        (outcome l (m, w) :: ((encodeEach l ms).run (out ++ share l (m, w))).1,
          ((encodeEach l ms).run (out ++ share l (m, w))).2) := by
      rw [encodeEach, List.mapM_cons, StateT.run_bind, hm]
      rfl
    rw [hcons, ih, List.append_assoc, List.map_cons, List.flatMap_cons]

/-- Whether a message is sent. -/
def accepts (l : Limits) : Message κ × Means → Bool
  | (m, w) => ((encodeOnto w l m).on []).1.isOk

/-- The messages that are sent. -/
def delivered (l : Limits) (ms : List (Message κ × Means)) : List (Message κ) :=
  (ms.filter (accepts l)).map Prod.fst

/-- A message with the contents of its frame, unless it is refused. -/
def sent? (l : Limits) : Message κ × Means → Option (Message κ × Bytes)
  | (m, w) => (framed w l m).toOption.map (m, ·)

theorem sent?_eq_some_iff {l : Limits} {m : Message κ} {w : Means} {f : Message κ × Bytes} :
    sent? l (m, w) = some f ↔ ∃ contents, Framed w l m contents ∧ (m, contents) = f := by
  simp only [← framed_eq_ok_iff, sent?]
  cases framed w l m with
  | error e => simp [Except.toOption]
  | ok contents => simp [Except.toOption]

/-- What waits grows by the frames of the messages that are sent. -/
theorem flatMap_share (l : Limits) (ms : List (Message κ × Means)) :
    ms.flatMap (share l) = stream (ms.filterMap (sent? l)) := by
  induction ms with
  | nil => rfl
  | cons mw ms ih =>
    obtain ⟨m, w⟩ := mw
    rw [List.flatMap_cons, ih, List.filterMap_cons, sent?, share]
    cases framed w l m with
    | error e => rfl
    | ok contents => rfl

theorem map_fst_sent (l : Limits) (ms : List (Message κ × Means)) :
    (ms.filterMap (sent? l)).map Prod.fst = delivered l ms := by
  induction ms with
  | nil => rfl
  | cons mw ms ih =>
    obtain ⟨m, w⟩ := mw
    unfold delivered at *
    rw [List.filter_cons, List.filterMap_cons, sent?, accepts, encodeOnto_on]
    cases framed w l m with
    | error e => exact ih
    | ok contents => exact congrArg (m :: ·) ih

/-- The frames of the messages that are sent do not expand beyond the limit. -/
def Expandable (l : Limits) (ms : List (Message κ × Means)) : Prop :=
  l.compress = true → ∀ m w, (m, w) ∈ ms → accepts l (m, w) →
    ∀ plain, write w m = .ok plain → plain.length ≤ l.maxFrameSize

theorem Expandable.accepted {ms : List (Message κ × Means)} (h : Expandable l ms)
    (hmatch : ∀ m w, (m, w) ∈ ms → w.Matches w') :
    ∀ f ∈ ms.filterMap (sent? l), Accepted w' l f := by
  intro f hf
  obtain ⟨⟨m, w⟩, hmem, hf⟩ := List.mem_filterMap.mp hf
  obtain ⟨contents, hframed, rfl⟩ := sent?_eq_some_iff.mp hf
  have haccepts : accepts l (m, w) := by
    rw [accepts, encodeOnto_on, framed_eq_ok_iff.mpr hframed]
    rfl
  exact hframed.accepted (hmatch m w hmem) fun hcompress => h hcompress m w hmem haccepts

/-! ## All or nothing -/

/-- Within the limits `l` a message is sent whole or not at all. -/
structure AllOrNothing (κ : Type) [Family κ] (l : Limits) : Prop where
  /-- A message is refused for one of four reasons and no other, and then what waits is as it
  was. -/
  refused : ∀ w (m : Message κ) out e out',
    (encodeOnto w l m).on out = (.error e, out') ↔ Unsendable w l m e ∧ out' = out
  /-- Otherwise four octets that say a length stand behind what waited, and then that many octets,
  which are within the limit and hold the message. -/
  appended : ∀ w (m : Message κ) out out', (encodeOnto w l m).on out = (.ok (), out') →
    ∃ length contents, out' = out ++ (length ++ contents) ∧ length.length = 4 ∧
      Bytes.ofBigEndian length = contents.length ∧ contents.length ≤ l.maxFrameSize ∧
      Framed w l m contents
  /-- The writer of a tunnel, which is given what waits as a value and keeps it after a failure,
  sends the same. -/
  valued : ∀ w (m : Message κ) out, (encodeOnto w l m).on out =
    match encode w l m out with
    | .ok out' => (.ok (), out')
    | .error e => (.error e, out)
  /-- A refused message among others changes neither the octets nor what becomes of the others. -/
  undisturbed : ∀ w (m : Message κ) e, Unsendable w l m e → ∀ before after out, ∃ rs ss octets,
    rs.length = before.length ∧ (encodeEach l (before ++ after)).run out = (rs ++ ss, octets) ∧
      (encodeEach l (before ++ (m, w) :: after)).run out = (rs ++ .error e :: ss, octets)
  /-- A receiver with matching means gets all messages but the refused ones, as long as they do not
  expand beyond its limit. -/
  received : ∀ w' (ms : List (Message κ × Means)), (∀ m w, (m, w) ∈ ms → w.Matches w') →
    Expandable l ms → ∀ pieces, pieces.flatten = ((encodeEach l ms).run []).2 →
      feed w' l .empty pieces = ((delivered l ms).map .ok, .empty)

/-- **A message is sent whole or not at all.** Whatever the message, its token, the cipher, the
limits and what waits in front: a refused message leaves what waits as it was, and any other puts
one frame behind it; so the messages around a refused one are sent and read as if it were not
there. -/
theorem encodeOnto_allOrNothing (l : Limits) : AllOrNothing κ l where
  refused w m out e out' := by
    rw [encodeOnto_on, ← framed_eq_error_iff]
    cases framed w l m with
    | error e' => simp [eq_comm]
    | ok contents => simp
  appended w m out out' h := by
    rw [encodeOnto_on] at h
    split at h
    · rename_i contents hframed
      have hcontents := framed_eq_ok_iff.mp hframed
      obtain ⟨plain, -, -, hle⟩ := hcontents
      have hlength : contents.length ≤ l.maxFrameSize := Nat.le_trans hle (Nat.min_le_left _ _)
      have hlt : contents.length < UInt32.size := Nat.lt_of_le_of_lt hle l.length_lt
      cases h
      exact ⟨_, contents, rfl, Bytes.length_bigEndian32 _, Bytes.ofBigEndian_bigEndian32 hlt,
        hlength, framed_eq_ok_iff.mp hframed⟩
    · cases h
  valued w m out := by
    rw [encodeOnto_on, encode_eq_map]
    cases framed w l m <;> rfl
  undisturbed w m e h before after out := by
    have hframed := framed_eq_error_iff.mpr h
    have houtcome : outcome l (m, w) = .error e := by rw [outcome, hframed]; rfl
    have hshare : share l (m, w) = [] := by rw [share, hframed]
    refine ⟨before.map (outcome l), after.map (outcome l),
      out ++ (before ++ after).flatMap (share l), List.length_map _, ?_, ?_⟩
    · rw [encodeEach_run, List.map_append]
    · rw [encodeEach_run, List.map_append, List.map_cons, houtcome, List.flatMap_append,
        List.flatMap_cons, hshare, List.nil_append, ← List.flatMap_append]
  received w' ms hmatch hexpands pieces hpieces := by
    rw [encodeEach_run, List.nil_append, flatMap_share] at hpieces
    have hoctets : Inbound.empty.octets ++ pieces.flatten = stream (ms.filterMap (sent? l)) :=
      hpieces
    have hend (hempty : pieces.flatten = []) : ms.filterMap (sent? l) = [] :=
      eq_nil_of_stream (hpieces.symm.trans hempty)
    rw [feed_frames pieces _ (hexpands.accepted hmatch) (s := Inbound.empty)
      (Inbound.legal_unread _ _) hoctets hend, ← map_fst_sent, List.map_map]
    rfl

/-- Three octets are no AES key. The token has been sealed by then, and still nothing is written. -/
example : (encodeOnto ((KeyPair.ofKey mersenneKey).means 0) ⟨true, defaultMaxFrameSize⟩
    (⟨[1, 2, 3], .aes, Body.connectSuccess "1" "user" "example.org" 80⟩ : Message ProxyKind)).on
      [7] = (.error (.crypto (.invalidTokenLength 3)), [7]) := by decide +kernel

end TunnelRelay.Frame
