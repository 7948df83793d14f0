import TunnelRelay.Proofs.Frame.Payload

/-!
# How much a frame has to hold

What stands around a payload takes 8 KiB at most. There are messages in which it takes all of them,
because the padding of a body that fills its blocks is a block more, and LZ4 may add to `n` octets
all that it is allowed to. So the payloads up to some length all have a frame, with whatever sender,
just if the limit is not below what the longest of them can come to (`carries_iff`).
-/

namespace TunnelRelay.Frame

/-- Every sender's data message with a payload of at most `n` octets is encoded. -/
def Limits.Carries (l : Limits) (n : Nat) : Prop :=
  ∀ (w : Means) (m : Message ProxyKind), w.Standard → w.LeavesRoom m → m.body.kind = .okTcp →
    m.body.payload.length ≤ n → ∀ out, ∃ out', encode w l m out = .ok out'

variable {κ : Type} [Family κ] {w : Means} {l : Limits} {m : Message κ} {plain contents : Bytes}

/-! ## The lengths under one key -/

theorem size_mersenneKey : (KeyPair.ofKey mersenneKey).remote.size = 81 := by decide +kernel

theorem sealable_mersenneKey : digits.length + 11 ≤ (KeyPair.ofKey mersenneKey).remote.size := by
  rw [size_mersenneKey]
  decide +kernel

/-- What the plain contents of a message come to under AES, with a key that `digits` has room in. -/
theorem exists_plain_of_digits {k : KeyPair} (hsealable : digits.length + 11 ≤ k.remote.size)
    (noise : Nat → UInt8) (m : Body ProxyKind) :
    ∃ plain, write (k.means noise) ⟨digits, .aes, m⟩ = .ok plain ∧
      plain.length = k.remote.size + m.encode.length + 15 + (16 - m.encode.length % 16) := by
  have hdigits : digits.length = tokenLength := by decide +kernel
  obtain ⟨token, htoken⟩ := Rsa.encrypt_isOk hsealable noise
  obtain ⟨plain, hwrite⟩ := write_isOk (w := k.means noise) (m := ⟨digits, .aes, m⟩) htoken
    (Cipher.keyed_of_length .aes hdigits)
  have hlength := length_of_write Cipher.block_lawful hwrite htoken
  rw [Rsa.length_of_encrypt htoken] at hlength
  exact ⟨plain, hwrite, hlength⟩

/-- A message leaves room under the Mersenne key if its fields stay within what is set aside. -/
theorem leavesRoom_of_fields {m : Body ProxyKind}
    (hfields : 81 + (Bytes.ofText m.id).length + (Bytes.ofText m.user).length
      + (Bytes.ofText m.host).length ≤ 8142) (noise : Nat → UInt8) :
    ((KeyPair.ofKey mersenneKey).means noise).LeavesRoom (⟨digits, .aes, m⟩ : Message _) := by
  have hdigits : digits.length = tokenLength := by decide +kernel
  refine KeyPair.leavesRoom ?_ (Cipher.keyed_of_length .aes hdigits) ?_ noise
  · exact sealable_mersenneKey
  · rw [size_mersenneKey]
    exact hfields

/-! ## The worst that can come -/

/-- The means of a sender with sealed tokens of so many octets, whose compression adds all that LZ4
is allowed to. -/
def bulky (sealed : Nat) : Means where
  sealToken _ := .ok (List.replicate sealed 0)
  openToken := .ok
  blockCipher := Cipher.block
  compress plain :=
    if plain.length ≤ Lz4.maxInput then
      .ok (plain ++ List.replicate (plain.length / 255 + 16 + 4) 0)
    else .error (tooBig .invalidInput)
  decompress := .ok

theorem bulky_standard (sealed : Nat) : (bulky sealed).Standard where
  ciphers := rfl
  compresses := {
    isOk := fun hle => ⟨_, if_pos hle⟩
    length_le := fun {plain packed} h => by
      simp only [bulky] at h
      split at h
      · cases h
        rw [List.length_append, List.length_replicate]
        omega
      · cases h }

theorem length_of_bulky {sealed : Nat} (h : Packs (bulky sealed) l plain contents) :
    contents.length = l.grown plain.length := by
  unfold Packs at h
  unfold Limits.grown
  split at h
  · rename_i hcompress
    simp only [bulky] at h
    split at h
    · cases h
      rw [if_pos hcompress, List.length_append, List.length_replicate]
      omega
    · cases h
  · rename_i hcompress
    rw [if_neg hcompress, h]

/-- How many octets a host has that makes a body with a payload of `n` octets fill its blocks. -/
def filling (n : Nat) : Nat := 15 - (n + 18) % 16

/-- A data message with a payload of `n` octets whose body fills its blocks. -/
def brimful (n : Nat) : Message ProxyKind :=
  ⟨digits, .aes, Body.okTcp "" "" (String.ofList (List.replicate (filling n) 'a')) 80
    (List.replicate n 0)⟩

theorem length_host_brimful (n : Nat) :
    (Bytes.ofText (brimful n).body.host).length = filling n := by
  have hletter : String.utf8EncodeChar 'a' = [97] := by decide
  change (Bytes.ofText (String.ofList (List.replicate (filling n) 'a'))).length = filling n
  rw [Bytes.ofText_ofList, List.length_flatMap, List.map_replicate, hletter]
  simp

theorem length_body_brimful (n : Nat) : (brimful n).body.encode.length = filling n + n + 19 := by
  have hempty : (Bytes.ofText "").length = 0 := by decide
  have hid : (brimful n).body.id = "" := rfl
  have huser : (brimful n).body.user = "" := rfl
  have hpayload : (brimful n).body.payload.length = n := List.length_replicate
  rw [Body.length_encode, length_host_brimful, hid, huser, hempty, hpayload]
  omega

theorem brimful_keyed (n : Nat) :
    ∃ f, (brimful n).cipher.block.keyed? (brimful n).token = some f := by
  have hdigits : digits.length = tokenLength := by decide +kernel
  exact Cipher.keyed_of_length .aes hdigits

theorem brimful_leavesRoom (n : Nat) :
    (bulky (8142 - filling n)).LeavesRoom (brimful n) where
  keyed := brimful_keyed n
  sealed := by
    have hempty : (Bytes.ofText "").length = 0 := by decide
    have hid : (brimful n).body.id = "" := rfl
    have huser : (brimful n).body.user = "" := rfl
    refine ⟨_, rfl, ?_⟩
    rw [length_host_brimful, hid, huser, hempty, List.length_replicate]
    unfold filling
    omega

/-- Around its payload a message can take all that is set aside. -/
theorem exists_plain_brimful (n : Nat) :
    ∃ plain, write (bulky (8142 - filling n)) (brimful n) = .ok plain ∧
      plain.length = messageOverhead + n := by
  obtain ⟨plain, hwrite⟩ := write_isOk (w := bulky (8142 - filling n)) (m := brimful n) rfl
    (brimful_keyed n)
  have hlength := length_of_write (w := bulky (8142 - filling n)) Cipher.block_lawful hwrite rfl
  have hsize : ((bulky (8142 - filling n)).blockCipher (brimful n).cipher).blockSize = 16 := rfl
  refine ⟨plain, hwrite, ?_⟩
  rw [hsize, length_body_brimful, List.length_replicate] at hlength
  simp only [filling, messageOverhead] at hlength ⊢
  omega

/-! ## What a limit is good for -/

/-- **All payloads up to a length have a frame**, whatever the sender, just if the limit has room for
what is set aside and the longest of them, grown by compression if there is any. -/
theorem carries_iff (hlimit : l.maxFrameSize ≤ Lz4.maxInput) (n : Nat) :
    l.Carries n ↔ l.grown (messageOverhead + n) ≤ l.maxFrameSize := by
  constructor
  · intro h
    obtain ⟨plain, hwrite, hlength⟩ := exists_plain_brimful n
    have hpayload : (brimful n).body.payload.length ≤ n := Nat.le_of_eq List.length_replicate
    obtain ⟨out', hencode⟩ :=
      h _ _ (bulky_standard _) (brimful_leavesRoom n) rfl hpayload []
    obtain ⟨plain', contents, hwrite', hpacks, hle, -⟩ := encode_eq_ok_iff.mp hencode
    obtain rfl : plain' = plain := by simpa [hwrite'] using hwrite
    rwa [length_of_bulky hpacks, hlength, Limits.length_eq hlimit] at hle
  · intro h w m hw hroom _ hpayload out
    obtain ⟨plain, hwrite, hlength⟩ := hroom.exists_plain hw
    have hgrown : l.grown plain.length ≤ l.maxFrameSize :=
      Nat.le_trans (l.grown_mono (by omega)) h
    obtain ⟨contents, hpacks, hcontents⟩ := hw.exists_packs_of_grown hlimit hgrown
    rw [← Limits.length_eq hlimit] at hcontents
    exact ⟨_, encode_eq_ok_iff.mpr ⟨plain, contents, hwrite, hpacks, hcontents, rfl⟩⟩

end TunnelRelay.Frame
