import TunnelRelay.Proofs.Frame.Means
import TunnelRelay.Proofs.Frame.Stream

/-!
# How long a payload may be

Of a frame's limit, what compression may add is taken off first, then 8 KiB for what stands around a
payload. Compression adds a size of four octets and to `n` octets `n / 255 + 16` more; so contents
of at most 255 octets for every 256 that are left behind 20 stay within the limit in either form.
The 8 KiB hold 50 octets of marker, lengths and padding, and 8142 of sealed token, id, user and
host.

Nothing is assumed of the way in which the ends compress but what LZ4 promises.
-/

namespace TunnelRelay.Frame

/-! ## What is assumed -/

/-- What LZ4 promises: inputs up to its limit are compressed, and do not grow by more than this. -/
structure Means.Compresses (w : Means) : Prop where
  isOk : ∀ {plain : Bytes}, plain.length ≤ Lz4.maxInput → ∃ packed, w.compress plain = .ok packed
  length_le : ∀ {plain packed : Bytes}, w.compress plain = .ok packed →
    packed.length ≤ plain.length + plain.length / 255 + 16 + 4

/-- The means of a sender that enciphers with the two ciphers and compresses as LZ4 does. -/
structure Means.Standard (w : Means) : Prop where
  ciphers : w.blockCipher = Cipher.block
  compresses : w.Compresses

variable {κ : Type} [Family κ] {w w' : Means} {l : Limits} {m : Message κ}

/-- A message leaves room for a payload if its token is a key of its cipher, and if the sealed token
and the fields beside the payload stay within what is set aside for them. -/
structure Means.LeavesRoom (w : Means) (m : Message κ) : Prop where
  keyed : ∃ f, (w.blockCipher m.cipher).keyed? m.token = some f
  sealed : ∃ token, w.sealToken m.token = .ok token ∧
    token.length + (Bytes.ofText m.body.id).length + (Bytes.ofText m.body.user).length
      + (Bytes.ofText m.body.host).length ≤ 8142

/-- A message travels between two ends: it is encoded, whatever waits to be sent, as one frame
within the limit, and the receiver reads it and nothing else from that frame, whatever follows. -/
def Travels (w w' : Means) (l : Limits) (m : Message κ) : Prop :=
  ∃ contents, contents.length ≤ l.maxFrameSize ∧
    (∀ out, encode w l m out = .ok (out ++ delimit contents)) ∧
    ∀ rest, decode w' l ⟨delimit contents ++ rest, none⟩ = (.ok (some m), ⟨rest, none⟩)

/-! ## Lengths -/

/-- The longest plain contents that stay within the limit when they are compressed. -/
def plainLimit (maxFrameSize : Nat) : Nat := (maxFrameSize - 20) / 256 * 255

theorem plainLimit_le (n : Nat) : plainLimit n ≤ n := by
  unfold plainLimit
  omega

/-- What is set aside and the largest payload make up the longest plain contents. -/
theorem add_le_plainLimit {n payload rest : Nat} (husable : 0 < maxPayloadSize n)
    (hpayload : payload ≤ maxPayloadSize n) (hrest : rest ≤ messageOverhead) :
    payload + rest ≤ plainLimit n := by
  simp only [maxPayloadSize] at husable hpayload
  unfold plainLimit
  omega

/-- Compressed contents are within the limit if the plain ones are within theirs. -/
theorem add_div_le {n plain : Nat} (husable : 0 < plainLimit n) (hle : plain ≤ plainLimit n) :
    plain + plain / 255 + 16 + 4 ≤ n := by
  unfold plainLimit at husable hle
  omega

/-! ## What compression adds -/

/-- The longest contents of a frame in which so many plain octets can travel. -/
def Limits.grown (l : Limits) (n : Nat) : Nat := if l.compress then n + n / 255 + 16 + 4 else n

theorem Limits.le_grown (l : Limits) (n : Nat) : n ≤ l.grown n := by
  unfold grown
  split <;> omega

theorem Limits.grown_mono (l : Limits) {n k : Nat} (h : n ≤ k) : l.grown n ≤ l.grown k := by
  have hdiv : n / 255 ≤ k / 255 := Nat.div_le_div_right h
  unfold grown
  split <;> omega

/-- What is called the largest payload is one for which there is room. -/
theorem Limits.grown_le_of_payload (l : Limits) {n : Nat}
    (husable : 0 < maxPayloadSize l.maxFrameSize) (h : n ≤ maxPayloadSize l.maxFrameSize) :
    l.grown (messageOverhead + n) ≤ l.maxFrameSize := by
  have hle := add_le_plainLimit husable h (Nat.le_refl messageOverhead)
  have hpositive : 0 < plainLimit l.maxFrameSize :=
    Nat.lt_of_lt_of_le (by decide : 0 < messageOverhead) (Nat.le_trans (Nat.le_add_left _ n) hle)
  rw [Nat.add_comm] at hle
  unfold grown
  split
  · exact add_div_le hpositive hle
  · exact Nat.le_trans hle (plainLimit_le _)

/-! ## Messages -/

/-- The plain contents of a message that leaves room. -/
theorem Means.LeavesRoom.exists_plain (h : w.LeavesRoom m) (hw : w.Standard) :
    ∃ plain, write w m = .ok plain ∧
      plain.length ≤ m.body.payload.length + messageOverhead := by
  obtain ⟨token, htoken, hfields⟩ := h.sealed
  obtain ⟨plain, hwrite⟩ := write_isOk htoken h.keyed
  have hlawful : ∀ c, (w.blockCipher c).Lawful := hw.ciphers ▸ Cipher.block_lawful
  have hlength := length_le_of_write hlawful hwrite htoken
  have hblock : (w.blockCipher m.cipher).blockSize ≤ 16 := hw.ciphers ▸ m.cipher.blockSize_le
  have hbody := m.body.length_encode
  refine ⟨plain, hwrite, ?_⟩
  simp only [messageOverhead]
  omega

/-- Plain contents that stay within the limit even when they grow have a frame. -/
theorem Means.Standard.exists_packs_of_grown (hw : w.Standard) {plain : Bytes}
    (hlimit : l.maxFrameSize ≤ Lz4.maxInput) (h : l.grown plain.length ≤ l.maxFrameSize) :
    ∃ contents, Packs w l plain contents ∧ contents.length ≤ l.maxFrameSize := by
  have hplain := l.le_grown plain.length
  by_cases hcompress : l.compress
  · obtain ⟨packed, hpacked⟩ := hw.compresses.isOk (Nat.le_trans (Nat.le_trans hplain h) hlimit)
    have hlength := hw.compresses.length_le hpacked
    rw [Limits.grown, if_pos hcompress] at h
    refine ⟨packed, ?_, Nat.le_trans hlength h⟩
    rw [Packs, if_pos hcompress]
    exact hpacked
  · refine ⟨plain, ?_, Nat.le_trans hplain h⟩
    rw [Packs, if_neg hcompress]

/-- **A payload within the largest has a frame**, compressed or not. -/
theorem Means.LeavesRoom.exists_packs (h : w.LeavesRoom m) (hw : w.Standard)
    (hlimit : l.maxFrameSize ≤ Lz4.maxInput) (husable : 0 < maxPayloadSize l.maxFrameSize)
    (hpayload : m.body.payload.length ≤ maxPayloadSize l.maxFrameSize) :
    ∃ plain contents, write w m = .ok plain ∧ Packs w l plain contents ∧
      plain.length ≤ l.maxFrameSize ∧ contents.length ≤ l.maxFrameSize := by
  obtain ⟨plain, hwrite, hlength⟩ := h.exists_plain hw
  have hlargest := l.grown_le_of_payload husable hpayload
  have hgrown : l.grown plain.length ≤ l.maxFrameSize :=
    Nat.le_trans (l.grown_mono (by omega)) hlargest
  obtain ⟨contents, hpacks, hcontents⟩ := hw.exists_packs_of_grown hlimit hgrown
  exact ⟨plain, contents, hwrite, hpacks, Nat.le_trans (l.le_grown _) hgrown, hcontents⟩

/-- Limits within LZ4's input are lengths that four octets can say. -/
theorem Limits.length_eq (h : l.maxFrameSize ≤ Lz4.maxInput) : l.length = l.maxFrameSize := by
  simp only [Limits.length, maxLength, UInt32.size, Lz4.maxInput] at h ⊢
  omega

/-- **A payload within the largest travels**, compressed or not. -/
theorem Means.LeavesRoom.travels (h : w.LeavesRoom m) (hw : w.Standard) (hm : w.Matches w')
    (hlimit : l.maxFrameSize ≤ Lz4.maxInput) (husable : 0 < maxPayloadSize l.maxFrameSize)
    (hpayload : m.body.payload.length ≤ maxPayloadSize l.maxFrameSize) : Travels w w' l m := by
  obtain ⟨plain, contents, hwrite, hpacks, hplain, hcontents⟩ :=
    h.exists_packs hw hlimit husable hpayload
  have hle : contents.length ≤ l.length := by rwa [Limits.length_eq hlimit]
  refine ⟨contents, hcontents, fun out => ?_, fun rest => ?_⟩
  · exact encode_eq_ok_iff.mpr ⟨plain, contents, hwrite, hpacks, hle, rfl⟩
  · have hlegal := Inbound.legal_unread l.length (delimit contents ++ rest)
    have hfits : ¬(l.compress = true ∧ l.maxFrameSize < plain.length) := by omega
    rw [decode_delimit hle hlegal rfl, open_of_packs hm hwrite hpacks hle, if_neg hfits]
    rfl

end TunnelRelay.Frame

namespace TunnelRelay

/-- A tunnel end keeps what is assumed. -/
theorem KeyPair.means_standard (k : KeyPair) (noise : Nat → UInt8) : (k.means noise).Standard where
  ciphers := rfl
  compresses := {
    isOk := fun hle => ⟨_, Lz4.compress_eq_ok_iff.mpr ⟨hle, rfl⟩⟩
    length_le := Lz4.length_compress_le }

/-- A message leaves room if its token can be sealed, and if the key and the fields stay within what
is set aside. -/
theorem KeyPair.leavesRoom {κ : Type} {k : KeyPair} {m : Message κ}
    (hsealable : m.token.length + 11 ≤ k.remote.size)
    (hkeyed : ∃ f, m.cipher.block.keyed? m.token = some f)
    (hfields : k.remote.size + (Bytes.ofText m.body.id).length + (Bytes.ofText m.body.user).length
      + (Bytes.ofText m.body.host).length ≤ 8142) (noise : Nat → UInt8) :
    (k.means noise).LeavesRoom m := by
  obtain ⟨token, htoken⟩ := Rsa.encrypt_isOk hsealable noise
  have hlength := Rsa.length_of_encrypt htoken
  exact ⟨hkeyed, token, htoken, by omega⟩

end TunnelRelay
