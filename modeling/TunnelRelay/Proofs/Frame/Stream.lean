import TunnelRelay.Frame.Stream
import TunnelRelay.Proofs.Frame.Means

/-!
# The tunnel's round trip

Frames that a reader accepts come out of a stream in the order in which they were put into it,
however the stream is cut. `drain_spec` is one piece of the stream and `feed_frames` all of them;
`feed_encodeAll` says it of what a sender encodes whose means match, and they may be others for each
message.
-/

namespace TunnelRelay.Frame

variable {κ : Type} [Family κ] {w w' : Means} {l : Limits}

/-- A message with the contents of its frame, which a receiver accepts. -/
def Accepted (w : Means) (l : Limits) (f : Message κ × Bytes) : Prop :=
  f.2.length ≤ l.length ∧ open? w l f.2 = .ok f.1

/-- The frames of contents, one behind the other. -/
def stream (fs : List (Message κ × Bytes)) : Bytes := fs.flatMap fun f => delimit f.2

omit [Family κ] in
/-- Each frame has at least the four octets of its length. -/
theorem eq_nil_of_stream {fs : List (Message κ × Bytes)} (h : stream fs = []) : fs = [] := by
  cases fs with
  | nil => rfl
  | cons f fs => simp [stream, delimit, Bytes.bigEndian32] at h

/-- What a frame may hold: the contents of the message as they travel, within the limit. -/
def Framed (w : Means) (l : Limits) (m : Message κ) (contents : Bytes) : Prop :=
  ∃ plain, write w m = .ok plain ∧ Packs w l plain contents ∧ contents.length ≤ l.length

/-- A receiver with matching means accepts a frame that does not expand beyond its limit. -/
theorem Framed.accepted (hm : w.Matches w') {m : Message κ} {contents : Bytes}
    (h : Framed w l m contents)
    (hfits : l.compress = true → ∀ plain, write w m = .ok plain → plain.length ≤ l.maxFrameSize) :
    Accepted w' l (m, contents) := by
  obtain ⟨plain, hwrite, hpacks, hle⟩ := h
  refine ⟨hle, ?_⟩
  rw [open_of_packs hm hwrite hpacks hle, if_neg]
  rintro ⟨hcompress, hlt⟩
  exact absurd (hfits hcompress plain hwrite) (Nat.not_le_of_lt hlt)

/-! ## Single steps of a reader -/

/-- A complete frame is consumed, whatever is in it and whatever follows. -/
theorem decode_delimit {contents : Bytes} (hle : contents.length ≤ l.length) {s : Inbound}
    (hs : s.Legal l.length) {r : Bytes} (h : s.octets = delimit contents ++ r) :
    decode (κ := κ) w l s = ((open? w l contents).map some, ⟨r, none⟩) := by
  simp only [decode, next_octets l.length_lt hs, h, next_frame l.length_lt hle]

theorem decode_frame {f : Message κ × Bytes} (hf : Accepted w l f) {s : Inbound}
    (hs : s.Legal l.length) {r : Bytes} (h : s.octets = delimit f.2 ++ r) :
    decode w l s = (.ok (some f.1), ⟨r, none⟩) := by
  rw [decode_delimit hf.1 hs h, hf.2]
  rfl

theorem decode_of_incomplete {f : Message κ × Bytes} (hf : Accepted w l f) {s : Inbound}
    (hs : s.Legal l.length) (hp : s.octets <+: delimit f.2) (hne : s.octets ≠ delimit f.2) :
    ∃ t, decode (κ := κ) w l s = (.ok none, t) ∧ t.octets = s.octets ∧ t.Legal l.length := by
  obtain ⟨t, hnext, ht⟩ := next_of_incomplete l.length_lt hf.1 hp hne
  refine ⟨t, ?_, ht⟩
  simp only [decode, next_octets l.length_lt hs, hnext]

theorem decode_empty : decode (κ := κ) w l Inbound.empty = (.ok none, Inbound.empty) := rfl

/-! ## A whole stream -/

/-- What one piece of a stream leads to: the frames that are complete come out, and the octets of
the others are kept. -/
theorem drain_spec (fs : List (Message κ × Bytes)) (hfs : ∀ f ∈ fs, Accepted w l f)
    {s : Inbound} (hs : s.Legal l.length) {rest : Bytes} (h : s.octets ++ rest = stream fs) :
    ∃ done todo t, fs = done ++ todo ∧
      drain w l s = (done.map fun f => .ok f.1, t) ∧ t.Legal l.length ∧
      t.octets ++ rest = stream todo ∧ (rest = [] → todo = []) := by
  induction fs generalizing s with
  | nil =>
    obtain ⟨hempty, rfl⟩ := List.append_eq_nil_iff.mp h
    obtain rfl := Inbound.eq_empty hempty
    refine ⟨[], [], Inbound.empty, rfl, ?_, hs, rfl, fun _ => rfl⟩
    exact drain_of_none decode_empty
  | cons f fs ih =>
    have hf := hfs f (by simp)
    rw [stream, List.flatMap_cons] at h
    by_cases hp : delimit f.2 <+: s.octets
    · obtain ⟨r, hr⟩ := hp
      have hrest : r ++ rest = stream fs := by
        rw [← hr, List.append_assoc] at h
        exact List.append_cancel_left h
      obtain ⟨done, todo, t, rfl, hdrain, ht⟩ :=
        ih (fun g hg => hfs g (List.mem_cons_of_mem f hg)) (s := ⟨r, none⟩)
          (Inbound.legal_unread _ r) hrest
      refine ⟨f :: done, todo, t, rfl, ?_, ht⟩
      rw [drain_of_some (decode_frame hf hs hr.symm), hdrain, List.map_cons]
    · -- the frame in front is not complete, so nothing comes out
      have hpart : s.octets <+: delimit f.2 := by
        rcases List.prefix_or_prefix_of_prefix (List.prefix_append s.octets rest)
          (h ▸ List.prefix_append (delimit f.2) _) with hle | hle
        · exact hle
        · exact absurd hle hp
      have hne : s.octets ≠ delimit f.2 := fun heq => hp (heq ▸ List.prefix_rfl)
      obtain ⟨t, hdecode, hoctets, ht⟩ := decode_of_incomplete hf hs hpart hne
      refine ⟨[], f :: fs, t, rfl, ?_, ht, ?_, ?_⟩
      · exact drain_of_none hdecode
      · rw [hoctets, h, stream, List.flatMap_cons]
      · rintro rfl
        rw [List.append_nil] at h
        exact absurd (h ▸ List.prefix_append _ _) hp

/-- Accepted frames come out of their stream, cut into whatever pieces, and nothing stays behind. -/
theorem feed_frames (pieces : List Bytes) (fs : List (Message κ × Bytes))
    (hfs : ∀ f ∈ fs, Accepted w l f) {s : Inbound} (hs : s.Legal l.length)
    (h : s.octets ++ pieces.flatten = stream fs) (hend : pieces.flatten = [] → fs = []) :
    feed w l s pieces = (fs.map fun f => .ok f.1, Inbound.empty) := by
  -- after each piece the frames that came out are dropped, and the rest of the stream is due
  induction pieces generalizing fs s with
  | nil =>
    obtain rfl := hend rfl
    obtain ⟨hempty, -⟩ := List.append_eq_nil_iff.mp h
    rw [feed, Inbound.eq_empty hempty]
    rfl
  | cons piece pieces ih =>
    have hpush : (s.push piece).octets ++ pieces.flatten = stream fs := by
      rw [Inbound.octets_push, List.append_assoc, ← List.flatten_cons, h]
    obtain ⟨done, todo, t, rfl, hdrain, ht, hoctets, hdone⟩ :=
      drain_spec fs hfs (hs.push piece) hpush
    have htodo := ih todo (fun f hf => hfs f (List.mem_append_right done hf)) ht hoctets hdone
    simp only [feed, hdrain, htodo, List.map_append]

/-! ## What a sender encodes -/

/-- The frames of messages, each with the contents that its message and means have. -/
def frames (fs : List ((Message κ × Means) × Bytes)) : List (Message κ × Bytes) :=
  fs.map fun f => (f.1.1, f.2)

/-- Encoding messages puts their frames behind what waits. -/
theorem encodeAll_eq_ok {ms : List (Message κ × Means)} {out out' : Bytes}
    (h : encodeAll l ms out = .ok out') :
    ∃ fs : List ((Message κ × Means) × Bytes), fs.map Prod.fst = ms ∧
      out' = out ++ stream (frames fs) ∧ ∀ f ∈ fs, Framed f.1.2 l f.1.1 f.2 := by
  -- what waits in front grows by a frame at each message
  induction ms generalizing out with
  | nil =>
    cases h
    exact ⟨[], rfl, by simp [stream, frames], by simp⟩
  | cons mw ms ih =>
    obtain ⟨m, w⟩ := mw
    simp only [encodeAll, bind, Except.bind] at h
    split at h
    · cases h
    · rename_i out₁ hencode
      obtain ⟨plain, contents, hwrite, hpacks, hle, rfl⟩ := encode_eq_ok_iff.mp hencode
      obtain ⟨fs, rfl, rfl, hfs⟩ := ih h
      refine ⟨((m, w), contents) :: fs, rfl, by simp [stream, frames], ?_⟩
      rintro f (_ | ⟨_, hf⟩)
      · exact ⟨plain, hwrite, hpacks, hle⟩
      · exact hfs f hf

/-- No length that is written with a message is cut off: each has room in four octets. -/
structure NothingCut (w : Means) (m : Message κ) : Prop where
  body : m.body.Countable
  token : ∀ sealed, w.sealToken m.token = .ok sealed → sealed.length < UInt32.size

theorem Framed.nothingCut (hm : w.Matches w') {m : Message κ} {contents : Bytes}
    (h : Framed w l m contents) : NothingCut w m := by
  obtain ⟨plain, hwrite, hpacks, hle⟩ := h
  have hlen := length_lt_of_packs hm hpacks hle
  obtain ⟨token, htoken, hlt⟩ := lengths_of_write hm.lawful hwrite
  refine ⟨Body.countable_of_length (by omega), fun sealed hsealed => ?_⟩
  obtain rfl : token = sealed := by simpa [htoken] using hsealed
  omega

/-- Messages that an end can send are encoded, one behind the other, whatever the noise. -/
theorem encodeAll_isOk {k : KeyPair} (hplain : l.compress = false)
    {ms : List (Message κ × (Nat → UInt8))} (hms : ∀ m ∈ ms.map Prod.fst, k.Sends l m)
    (out : Bytes) :
    ∃ octets, encodeAll l (ms.map fun m => (m.1, k.means m.2)) out = .ok octets := by
  induction ms generalizing out with
  | nil => exact ⟨out, rfl⟩
  | cons m ms ih =>
    rw [List.map_cons, List.forall_mem_cons] at hms
    obtain ⟨out₁, hm⟩ := hms.1.encode_isOk hplain m.2 out
    obtain ⟨octets, hrest⟩ := ih hms.2 out₁
    refine ⟨octets, ?_⟩
    simp only [List.map_cons, encodeAll, hm, bind, Except.bind, hrest]

/-- **A stream of messages comes back.** When a sender has encoded messages whose plain contents
are within the limit, each with means of its own that match the receiver's, a receiver with the same
limits gets exactly these messages in their order, into whatever pieces the stream is cut, without
an error, and nothing is left; and no length was cut off on the way. -/
theorem feed_encodeAll {ms : List (Message κ × Means)} (hm : ∀ m w, (m, w) ∈ ms → w.Matches w')
    {octets : Bytes} (h : encodeAll l ms [] = .ok octets)
    (hfits : ∀ m w, (m, w) ∈ ms → ∀ plain, write w m = .ok plain → plain.length ≤ l.maxFrameSize)
    {pieces : List Bytes} (hpieces : pieces.flatten = octets) :
    feed w' l Inbound.empty pieces = (ms.map fun mw => .ok mw.1, Inbound.empty) ∧
      ∀ m w, (m, w) ∈ ms → NothingCut w m := by
  obtain ⟨fs, rfl, rfl, hfs⟩ := encodeAll_eq_ok h
  refine ⟨?_, ?_⟩
  · have haccepted : ∀ f ∈ frames fs, Accepted w' l f := by
      intro f hf
      obtain ⟨⟨⟨m, w⟩, contents⟩, hmem, rfl⟩ := List.mem_map.mp hf
      have hmw : (m, w) ∈ fs.map Prod.fst := List.mem_map_of_mem hmem
      exact (hfs _ hmem).accepted (hm m w hmw) fun _ => hfits m w hmw
    have hend (hempty : pieces.flatten = []) : frames fs = [] :=
      eq_nil_of_stream (hpieces.symm.trans hempty)
    rw [feed_frames pieces (frames fs) haccepted (s := Inbound.empty)
      (Inbound.legal_unread _ _) hpieces hend, frames, List.map_map, List.map_map]
    rfl
  · intro m w hmem
    obtain ⟨f, hf, heq⟩ := List.mem_map.mp hmem
    have hframed := hfs f hf
    rw [heq] at hframed
    exact hframed.nothingCut (hm m w hmem)

/-- The answers of a proxy, each with its own noise for the token that they share. -/
def noisyAnswers : List (Message ProxyKind × (Nat → UInt8)) := answers.zip [fun _ => 1, fun _ => 2]

/-- Two messages, under AES and with a key made of Mersenne primes, octet by octet. Their token is
the same, and it is sealed in two ways. -/
theorem feed_answers :
    ((KeyPair.ofKey mersenneKey).means fun _ => 1).sealToken digits ≠
      ((KeyPair.ofKey mersenneKey).means fun _ => 2).sealToken digits ∧
    ∃ octets, encodeAll ⟨false, defaultMaxFrameSize⟩
        (noisyAnswers.map fun m => (m.1, (KeyPair.ofKey mersenneKey).means m.2)) [] = .ok octets ∧
      feed ((KeyPair.ofKey mersenneKey).means 0) ⟨false, defaultMaxFrameSize⟩ Inbound.empty
        (octets.map fun b => [b]) = (answers.map .ok, Inbound.empty) := by
  have hsends : ∀ m ∈ noisyAnswers.map Prod.fst,
      (KeyPair.ofKey mersenneKey).Sends ⟨false, defaultMaxFrameSize⟩ m := answers_sends
  obtain ⟨octets, hencode⟩ := encodeAll_isOk rfl hsends []
  have hmatch : ∀ m w,
      (m, w) ∈ noisyAnswers.map (fun m => (m.1, (KeyPair.ofKey mersenneKey).means m.2)) →
        w.Matches ((KeyPair.ofKey mersenneKey).means 0) := by
    intro m w hmem
    obtain ⟨⟨m, noise⟩, -, heq⟩ := List.mem_map.mp hmem
    cases heq
    exact KeyPair.ofKey_matches mersenneKey_sound noise 0
  have hfits : ∀ m w,
      (m, w) ∈ noisyAnswers.map (fun m => (m.1, (KeyPair.ofKey mersenneKey).means m.2)) →
        ∀ plain, write w m = .ok plain → plain.length ≤ defaultMaxFrameSize := by
    intro m w hmem plain hwrite
    obtain ⟨⟨m, noise⟩, hnoisy, heq⟩ := List.mem_map.mp hmem
    cases heq
    exact Nat.le_trans ((hsends m (List.mem_map_of_mem hnoisy)).length_le hwrite)
      (Nat.min_le_left _ _)
  have hcut : (octets.map fun b => [b]).flatten = octets := by simp [← List.flatMap_def]
  exact ⟨by decide +kernel, octets, hencode, (feed_encodeAll hmatch hencode hfits hcut).1⟩

end TunnelRelay.Frame
