import TunnelRelay.Proofs.Frame.Stream

/-!
# What fits in a frame

A sender checks the length of what it sends, and a receiver also the length of what comes out of it.
With compression these are different lengths, so the two ends agree on a message only while its
plain contents are within the limit. Beyond it the sender may succeed, and the receiver refuses.
-/

namespace TunnelRelay.Frame

/-- **What a receiver makes of an encoded message.** Encoding appends one frame. The receiver
consumes this frame and nothing else; it gets the message back if the frame is not compressed or its
plain contents are within the limit, and refuses the declared size otherwise. -/
theorem decode_of_encode {κ : Type} [Family κ] {w w' : Means} (hm : w.Matches w') {l : Limits}
    {m : Message κ} {out out' : Bytes} (h : encode w l m out = .ok out') :
    ∃ plain frame, write w m = .ok plain ∧ out' = out ++ frame ∧
      ∀ rest, decode w' l ⟨frame ++ rest, none⟩ =
        (if l.compress ∧ l.maxFrameSize < plain.length then
          .error (.protocol (.decompressedSizeTooLarge plain.length))
        else .ok (some m), ⟨rest, none⟩) := by
  obtain ⟨plain, contents, hwrite, hpacks, hle, hout⟩ := encode_eq_ok_iff.mp h
  refine ⟨plain, delimit contents, hwrite, hout, fun rest => ?_⟩
  have hlegal := Inbound.legal_unread l.length (delimit contents ++ rest)
  rw [decode_delimit hle hlegal rfl, open_of_packs hm hwrite hpacks hle]
  split <;> rfl

/-! ## A message of zeros

Equal blocks are encrypted to equal blocks, so zeros stay compressible. -/

/-- Octets that are all zero, for a target without a name. -/
def zeros : Message AgentKind := ⟨digits, .aes, Body.tcpData "" "" "" 0 (List.replicate 77 0)⟩

/-- The sealed token of `zeros`. -/
def zerosToken : Bytes :=
  [0xd3, 0x82, 0xcc, 0xc1, 0xc5, 0xd8, 0x47, 0x7b, 0xc1, 0xad, 0xf9, 0x5a, 0xd3, 0xbd, 0x09, 0x91,
   0x80, 0x5c, 0xca, 0xa8, 0x11, 0x65, 0xf0, 0xc7, 0xe5, 0x60, 0x8e, 0x22, 0xe3, 0x3e, 0x50, 0x27,
   0x2d, 0x0e, 0x8d, 0x25, 0x4f, 0x8a, 0xe5, 0xf0, 0xe6, 0x7a, 0xcc, 0xca, 0x1b, 0xf1, 0xa2, 0xd5,
   0x4a, 0x34, 0xcd, 0xb5, 0x64, 0x18, 0x7c, 0x2e, 0x80, 0x39, 0xf4, 0x6c, 0x15, 0x3c, 0x3e, 0x03,
   0xba, 0x44, 0x09, 0x64, 0x05, 0x95, 0xf0, 0xfc, 0x65, 0xe9, 0x5c, 0xea, 0x73, 0x32, 0x1f, 0xc2,
   0x6b]

theorem encrypt_digits : Rsa.encrypt mersenneKey.shared 0 digits = .ok zerosToken := by
  rw [Rsa.encrypt, if_neg (by decide +kernel), Rsa.powMod_eq]
  refine congrArg Except.ok ?_
  decide +kernel

/-- The blocks of the padded body of `zeros`. -/
def zerosBlocks : List Bytes :=
  [3 :: List.replicate 15 0, 0 :: 0 :: 77 :: List.replicate 13 0, List.replicate 16 0,
    List.replicate 16 0, List.replicate 16 0, List.replicate 16 0, List.replicate 16 16]

/-- The encrypted body of `zeros`. -/
def zerosBody : Bytes :=
  [0xee, 0x62, 0xaf, 0x83, 0x79, 0x6b, 0xad, 0x85, 0xa5, 0x5e, 0x98, 0x45, 0x93, 0x06, 0x84, 0xa1,
   0x81, 0x8e, 0x87, 0x09, 0xf6, 0xb3, 0x72, 0xb4, 0x6c, 0x2d, 0xc4, 0x1e, 0x58, 0x97, 0x9f, 0xa3,
   0x7d, 0xbd, 0x88, 0x27, 0x2f, 0xb2, 0x59, 0x37, 0x69, 0x2a, 0x3b, 0x81, 0x00, 0x47, 0x41, 0x75,
   0x7d, 0xbd, 0x88, 0x27, 0x2f, 0xb2, 0x59, 0x37, 0x69, 0x2a, 0x3b, 0x81, 0x00, 0x47, 0x41, 0x75,
   0x7d, 0xbd, 0x88, 0x27, 0x2f, 0xb2, 0x59, 0x37, 0x69, 0x2a, 0x3b, 0x81, 0x00, 0x47, 0x41, 0x75,
   0x7d, 0xbd, 0x88, 0x27, 0x2f, 0xb2, 0x59, 0x37, 0x69, 0x2a, 0x3b, 0x81, 0x00, 0x47, 0x41, 0x75,
   0x8a, 0xa3, 0x62, 0x41, 0xfd, 0xe8, 0xdf, 0x05, 0x4d, 0xc3, 0x25, 0xc6, 0xc6, 0x95, 0xb8, 0x9e]

theorem encrypt_zerosBlocks :
    zerosBlocks.flatMap (fun b => ((Aes.schedule digits).encrypt (Aes.Block.ofBytes b)).toBytes) =
      zerosBody := by
  -- the substitution is looked up in its table, which evaluates fast
  simp -zeta only [Aes.schedule, Aes.laterKeys, Aes.Schedule.encrypt, Aes.sub_eq_table]
  decide +kernel

theorem encrypt_zeros : Aes.cipher.encrypt digits zeros.body.encode = .ok zerosBody := by
  have hpad : BlockCipher.pad 16 zeros.body.encode = zerosBlocks.flatten := by decide +kernel
  have hlength : ∀ b ∈ zerosBlocks, b.length = 16 := by decide
  have hkeyed : Aes.cipher.keyed? digits =
      some ⟨fun b => ((Aes.schedule digits).encrypt (Aes.Block.ofBytes b)).toBytes,
        fun b => ((Aes.schedule digits).decrypt (Aes.Block.ofBytes b)).toBytes⟩ := by
    have hlength : digits.length = 32 := by decide +kernel
    simp only [Aes.cipher, hlength, if_true]
  simp only [BlockCipher.encrypt, hkeyed]
  change Except.ok ((Bytes.blocks 16 (BlockCipher.pad 16 zeros.body.encode)).flatMap _) = _
  rw [hpad, Bytes.blocks_flatten (by decide) _ hlength, encrypt_zerosBlocks]

/-- The plain contents of the frame of `zeros`. -/
def zerosPlain : Bytes :=
  magic ++ Bytes.bigEndian32 zerosToken.length ++ zerosToken ++ Cipher.aes.code :: zerosBody

/-- What `zeros` is sent with: keys made of Mersenne primes, and no octet to draw. -/
def zerosMeans : Means := (KeyPair.ofKey mersenneKey).means 0

theorem zerosMeans_matches : zerosMeans.Matches zerosMeans :=
  KeyPair.ofKey_matches mersenneKey_sound 0 0

theorem write_zeros : write zerosMeans zeros = .ok zerosPlain := by
  refine write_eq_ok_iff.mpr ⟨zerosToken, zerosBody, ?_, ?_, rfl⟩
  · simp only [zerosMeans, KeyPair.means, KeyPair.ofKey, zeros]
    exact encrypt_digits
  · exact encrypt_zeros

theorem compress_zerosPlain :
    ∃ packed, Lz4.compress zerosPlain = .ok packed ∧ packed.length = 171 := by
  refine ⟨_, Lz4.compress_eq_ok_iff.mpr ⟨by decide +kernel, rfl⟩, ?_⟩
  rw [Lz4.find_eq]
  decide +kernel

/-- Zeros are encoded as soon as there is room for their compressed form. -/
theorem encode_zeros {n : Nat} (h : 171 ≤ n) (hn : n ≤ maxLength) :
    ∃ packed, encode zerosMeans ⟨true, n⟩ zeros [] = .ok (delimit packed) ∧
      Packs zerosMeans ⟨true, n⟩ zerosPlain packed ∧
      packed.length ≤ (⟨true, n⟩ : Limits).length := by
  obtain ⟨packed, hcompress, hlength⟩ := compress_zerosPlain
  have hle : packed.length ≤ (⟨true, n⟩ : Limits).length := by
    rw [hlength, Limits.length, Nat.min_eq_left hn]
    exact h
  have hpacks : Packs zerosMeans ⟨true, n⟩ zerosPlain packed := by
    simp only [Packs, if_true, zerosMeans, KeyPair.means]
    exact hcompress
  exact ⟨packed, encode_eq_ok_iff.mpr ⟨zerosPlain, packed, write_zeros, hpacks, hle, rfl⟩,
    hpacks, hle⟩

/-- A limit of 208 octets lets the zeros through. -/
theorem decode_of_encode_zeros : ∃ frame, encode zerosMeans ⟨true, 208⟩ zeros [] = .ok frame ∧
    decode zerosMeans ⟨true, 208⟩ ⟨frame, none⟩ = (.ok (some zeros), ⟨[], none⟩) := by
  obtain ⟨packed, hencode, -⟩ := encode_zeros (n := 208) (by decide) (by decide)
  obtain ⟨plain, frame, hwrite, hframe, hdecode⟩ :=
    decode_of_encode zerosMeans_matches hencode
  obtain rfl : zerosPlain = plain := by
    have := write_zeros.symm.trans hwrite
    simpa using this
  have hlength : ¬208 < zerosPlain.length := by decide +kernel
  refine ⟨_, hencode, ?_⟩
  have := hdecode []
  rw [List.nil_append] at hframe
  rw [List.append_nil, ← hframe, if_neg fun h => hlength h.2] at this
  exact this

/-- **A frame that its sender makes and its receiver refuses**: at a limit of 207 octets, although
the compressed contents take 171. -/
theorem zeros_refused : ∃ frame, encode zerosMeans ⟨true, 207⟩ zeros [] = .ok frame ∧
    decode (κ := AgentKind) zerosMeans ⟨true, 207⟩ ⟨frame, none⟩ =
      (.error (.protocol (.decompressedSizeTooLarge 208)), ⟨[], none⟩) := by
  obtain ⟨packed, hencode, hpacks, hle⟩ := encode_zeros (n := 207) (by decide) (by decide)
  have hlength : zerosPlain.length = 208 := by decide +kernel
  refine ⟨_, hencode, ?_⟩
  have hlegal := Inbound.legal_unread (⟨true, 207⟩ : Limits).length (delimit packed)
  rw [decode_delimit hle hlegal (List.append_nil _).symm,
    open_of_packs zerosMeans_matches write_zeros hpacks hle, hlength]
  rfl

end TunnelRelay.Frame
