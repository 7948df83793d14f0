import TunnelRelay.Proofs.Frame.Payload

/-!
# Room for a payload

Of a frame's limit 8 KiB are set aside for what stands around a payload, and of the rest what
compression may add. A payload within `maxPayloadSize` then fits under any key and beside any fields
that stay within these 8 KiB, compressed or not. What does not fit is refused.
-/

open TunnelRelay.Frame

namespace TunnelRelay

variable {κ : Type} [Family κ] {k : KeyPair} {l : Limits} {m : Message κ}

/-- A message whose payload is within the largest that the limit is meant to have room for, and
whose other fields are within what is set aside for them. Frames of the limit can be compressed at
all. -/
structure KeyPair.HasRoom (k : KeyPair) (l : Limits) (m : Message κ) : Prop where
  sealable : m.token.length + 11 ≤ k.remote.size
  keyed : ∃ f, m.cipher.block.keyed? m.token = some f
  fields : k.remote.size + (Bytes.ofText m.body.id).length + (Bytes.ofText m.body.user).length
    + (Bytes.ofText m.body.host).length + 50 ≤ messageOverhead
  payload : m.body.payload.length ≤ maxPayloadSize l.maxFrameSize
  usable : maxPayloadSize l.maxFrameSize ≠ 0
  packable : l.maxFrameSize ≤ Lz4.maxInput

namespace KeyPair.HasRoom

/-- **A message with room is encoded**, whether frames are compressed or not. -/
theorem encode_isOk (h : k.HasRoom l m) (noise : Nat → UInt8) (out : Bytes) :
    ∃ out', encode (k.means noise) l m out = .ok out' := by
  have husable := Nat.pos_of_ne_zero h.usable
  have hfields := h.fields
  simp only [messageOverhead] at hfields
  have hroom := KeyPair.leavesRoom h.sealable h.keyed (by omega) noise
  obtain ⟨plain, contents, hwrite, hpacks, -, hcontents⟩ :=
    hroom.exists_packs (k.means_standard noise) h.packable husable h.payload
  rw [← Limits.length_eq h.packable] at hcontents
  exact ⟨_, encode_eq_ok_iff.mpr ⟨plain, contents, hwrite, hpacks, hcontents, rfl⟩⟩

end KeyPair.HasRoom

/-- Without compression a body above the limit is refused. -/
theorem KeyPair.encode_of_long (hsealable : m.token.length + 11 ≤ k.remote.size)
    (hkeyed : ∃ f, m.cipher.block.keyed? m.token = some f) (hplain : l.compress = false)
    (hlong : l.length < m.body.encode.length) (noise : Nat → UInt8) (out : Bytes) :
    encode (k.means noise) l m out = .error (.stream (tooBig .invalidInput)) := by
  obtain ⟨plain, hwrite⟩ := write_isOk hsealable hkeyed noise
  obtain ⟨_, -, hlength⟩ := lengths_of_write Cipher.block_lawful hwrite
  have hpacks : Packs (k.means noise) l plain plain := by
    rw [Packs, if_neg (by simp [hplain])]
  exact Frame.encode_of_long hwrite hpacks (by omega) out

end TunnelRelay
