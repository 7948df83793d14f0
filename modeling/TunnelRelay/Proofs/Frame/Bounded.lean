import TunnelRelay.Proofs.Except
import TunnelRelay.Proofs.Frame.Agreement
import TunnelRelay.Proofs.Frame.Isolation
import TunnelRelay.Proofs.Lz4.Room

/-!
# No message is larger than a frame

Four octets announce a frame of any length, and four more what its contents expand to. A reader
looks at what is announced before it makes room for it, and every length further in only splits what
is there. So whatever comes, the fields of a message and the 35 octets that stand around them at
least are not more than the limit together.
-/

namespace TunnelRelay.Frame

/-! ## What is assumed -/

/-- Means that make no more of octets than the octets account for: the ciphers pad, and no more is
expanded than the first four octets declare. -/
structure Means.Modest (w : Means) : Prop where
  lawful : ∀ c, (w.blockCipher c).Lawful
  expands : ∀ {size block plain : Bytes}, size.length = 4 →
    w.decompress (size ++ block) = .ok plain → plain.length ≤ Bytes.ofLittleEndian size

variable {κ : Type} [Family κ] {w : Means} {l : Limits} {m : Message κ} {contents plain : Bytes}

/-! ## From the frame to its plain contents -/

/-- What passes the check begins with a size within the limit. -/
theorem exists_of_checkDeclaredSize {limit : Nat}
    (h : checkDeclaredSize limit contents = .ok ()) :
    ∃ size block, contents = size ++ block ∧ size.length = 4 ∧
      Bytes.ofLittleEndian size ≤ limit := by
  unfold checkDeclaredSize at h
  split at h
  · cases h
  · rename_i size block hsize
    obtain ⟨rfl, hfour⟩ := Bytes.append_of_split? hsize
    have hlt := Bytes.ofLittleEndian_lt size
    rw [hfour] at hlt
    refine ⟨size, block, rfl, hfour, ?_⟩
    simp only [Int.ofNat_eq_natCast] at h
    -- a size of 31 bits is refused above the limit, and one of 32 bits as a negative one
    by_cases hneg : 0x80000000 ≤ Bytes.ofLittleEndian size
    · rw [if_pos hneg, if_pos (by omega)] at h
      cases h
    · rw [if_neg hneg] at h
      split at h
      · cases h
      · omega

/-- The plain contents of a frame within the limit are within the limit. -/
theorem Means.Modest.length_le_of_inflate (hw : w.Modest) (hle : contents.length ≤ l.maxFrameSize)
    (h : inflate w l contents = .ok plain) : plain.length ≤ l.maxFrameSize := by
  unfold inflate at h
  split at h
  · obtain ⟨⟨⟩, hcheck, h⟩ := exists_of_bind_eq_ok h
    obtain ⟨size, block, rfl, hfour, hsize⟩ := exists_of_checkDeclaredSize hcheck
    exact Nat.le_trans (hw.expands hfour (mapError_eq_ok_iff.mp h)) hsize
  · cases h
    exact hle

/-! ## From the plain contents to the message -/

/-- Fifteen octets stand around the sealed token and the encrypted body. -/
theorem length_of_parts {p : Parts} (h : parts plain = .ok p) :
    plain.length = p.token.length + p.body.length + 15 := by
  have hmagic : magic.length = 10 := by decide
  unfold parts at h
  split at h
  · cases h
  · rename_i marker behindMarker hmarker
    obtain ⟨rfl, hten⟩ := Bytes.append_of_split? hmarker
    split at h
    · cases h
    · split at h
      · cases h
      · rename_i length behindLength hlength
        obtain ⟨rfl, hfour⟩ := Bytes.append_of_split? hlength
        split at h
        · cases h
        · cases h
        · rename_i token code body htoken
          obtain ⟨rfl, -⟩ := Bytes.append_of_split? htoken
          obtain ⟨cipher, -, h⟩ := exists_of_bind_eq_ok h
          cases h
          simp only [List.length_append, List.length_cons]
          omega

/-- The octets of the body of a message that was read are at least 16 fewer than those that it was
read from. -/
theorem Means.Modest.length_encode_of_read (hw : w.Modest) (h : read w plain = .ok m) :
    m.body.encode.length + 16 ≤ plain.length := by
  obtain ⟨p, hparts, h⟩ := exists_of_bind_eq_ok h
  obtain ⟨token, -, h⟩ := exists_of_bind_eq_ok h
  obtain ⟨text, htext, h⟩ := exists_of_bind_eq_ok h
  obtain ⟨body, hbody, h⟩ := exists_of_bind_eq_ok h
  cases h
  have hplain := length_of_parts (mapError_eq_ok_iff.mp hparts)
  have hlt := BlockCipher.length_lt_of_decrypt (hw.lawful _) (mapError_eq_ok_iff.mp htext)
  obtain ⟨-, hencode⟩ := Body.encode_of_decode (mapError_eq_ok_iff.mp hbody)
  rw [hencode]
  omega

/-- The fields of a message fit into the frame that it came in. -/
theorem Means.Modest.fits_of_open (hw : w.Modest) (hle : contents.length ≤ l.maxFrameSize)
    (h : open? w l contents = .ok m) :
    (Bytes.ofText m.body.id).length + (Bytes.ofText m.body.user).length
      + (Bytes.ofText m.body.host).length + m.body.payload.length + 35 ≤ l.maxFrameSize := by
  obtain ⟨plain, hplain, hread⟩ := exists_of_bind_eq_ok h
  have hlimit := hw.length_le_of_inflate hle (mapError_eq_ok_iff.mp hplain)
  have hbody := hw.length_encode_of_read hread
  rw [Body.length_encode] at hbody
  omega

end TunnelRelay.Frame

namespace TunnelRelay

/-- A tunnel end keeps what is assumed: LZ4 stays within the room that a block declares. -/
theorem KeyPair.means_modest (k : KeyPair) (noise : Nat → UInt8) : (k.means noise).Modest where
  lawful := Cipher.block_lawful
  expands := Lz4.length_le_of_decompress

end TunnelRelay

namespace TunnelRelay.Frame

/-! ## Whatever comes -/

/-- **No message is larger than a frame.** Whatever octets come, in whatever pieces and with
whatever questions between them, the fields of every message that a reader hands out are within the
limit, with the 35 octets that stand around them at least. -/
theorem Means.Modest.fits_of_mem_replies {κ : Type} [Family κ] {w : Means} (hw : w.Modest)
    (l : Limits) (ts : List Turn) {m : Message κ} (h : .ok m ∈ (replies w l .empty ts).1) :
    (Bytes.ofText m.body.id).length + (Bytes.ofText m.body.user).length
      + (Bytes.ofText m.body.host).length + m.body.payload.length + 35 ≤ l.maxFrameSize := by
  have hfollows := replies_spec (κ := κ) (w := w) ts (Inbound.legal_unread l.length [])
  obtain ⟨i, -, hanswer⟩ := hfollows.mem_iff.mp h
  -- a message is the answer to a frame, and a frame is within the limit
  rcases answer_cases hanswer with ⟨-, hrefused⟩ | ⟨c, r, hfront, hopen⟩
  · cases hrefused
  · obtain ⟨hle, -⟩ := (front_eq_frame_iff l.length_lt).mp hfront
    exact hw.fits_of_open (Nat.le_trans hle (Nat.min_le_left _ _)) hopen.symm

/-- The compressed zeros come out of a frame that has just the room for them. -/
theorem fits_of_mem_replies_zeros : ∃ frame,
    encode zerosMeans ⟨true, 208⟩ zeros [] = .ok frame ∧
    .ok zeros ∈ (replies (κ := AgentKind) zerosMeans ⟨true, 208⟩ .empty [.push frame, .ask]).1 ∧
    (Bytes.ofText zeros.body.id).length + (Bytes.ofText zeros.body.user).length
      + (Bytes.ofText zeros.body.host).length + zeros.body.payload.length + 35 ≤ 208 := by
  obtain ⟨frame, hencode, hdecode⟩ := decode_of_encode_zeros
  have hmem : .ok zeros ∈
      (replies (κ := AgentKind) zerosMeans ⟨true, 208⟩ .empty [.push frame, .ask]).1 := by
    simp only [replies, Inbound.push, Inbound.empty, List.nil_append, hdecode, reply?]
    exact List.mem_singleton.mpr rfl
  have hmodest : zerosMeans.Modest := (KeyPair.ofKey mersenneKey).means_modest 0
  exact ⟨frame, hencode, hmem, hmodest.fits_of_mem_replies ⟨true, 208⟩ _ hmem⟩

end TunnelRelay.Frame
