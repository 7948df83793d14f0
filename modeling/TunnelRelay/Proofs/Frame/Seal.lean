import TunnelRelay.Frame.Codec
import TunnelRelay.Proofs.Cipher.Ecb
import TunnelRelay.Proofs.Frame.Length
import TunnelRelay.Proofs.Message.Body

/-!
# Sealed messages

The means of two tunnel ends match if one undoes what the other does. Nothing else is assumed of
sealing, of the ciphers and of compression, and from it follows that a sealed message reads back.
-/

namespace TunnelRelay.Frame

/-- What the sender `w` seals, enciphers and compresses, the receiver `w'` opens, deciphers and
expands. Both use the same ciphers, and compressed octets begin with the size of what was
compressed, which is limited. -/
structure Means.Matches (w w' : Means) : Prop where
  openToken : ∀ {token sealed : Bytes}, w.sealToken token = .ok sealed →
    w'.openToken sealed = .ok token
  sameCiphers : w'.blockCipher = w.blockCipher
  lawful : ∀ c, (w.blockCipher c).Lawful
  decompress : ∀ {plain packed : Bytes}, w.compress plain = .ok packed →
    w'.decompress packed = .ok plain
  sizeFirst : ∀ {plain packed : Bytes}, w.compress plain = .ok packed →
    Bytes.littleEndian32 plain.length <+: packed
  sizeLimited : ∀ {plain packed : Bytes}, w.compress plain = .ok packed →
    plain.length < 0x80000000

variable {κ : Type} [Family κ] {w w' : Means} {m : Message κ} {plain : Bytes}

/-! ## Parts of a frame -/

/-- The contents of a frame in terms of the sealed token and the encrypted body. -/
theorem write_eq_ok_iff :
    write w m = .ok plain ↔ ∃ token body, w.sealToken m.token = .ok token ∧
      (w.blockCipher m.cipher).encrypt m.token m.body.encode = .ok body ∧
      plain = magic ++ Bytes.bigEndian32 token.length ++ token ++ m.cipher.code :: body := by
  unfold write
  cases htoken : w.sealToken m.token with
  | error e => simp [Except.mapError, bind, Except.bind]
  | ok token =>
    cases hbody : (w.blockCipher m.cipher).encrypt m.token m.body.encode with
    | error e => simp [Except.mapError, bind, Except.bind]
    | ok body => simp [Except.mapError, bind, Except.bind, pure, Except.pure, eq_comm]

theorem parts_append {token body : Bytes} (c : Cipher) (h : token.length < UInt32.size) :
    parts (magic ++ Bytes.bigEndian32 token.length ++ token ++ c.code :: body)
      = .ok ⟨token, c, body⟩ := by
  simp only [parts, List.append_assoc, Bytes.split?_append, Bytes.split?_bigEndian32,
    Bytes.ofBigEndian_bigEndian32 h, Cipher.read_eq_ok_iff.mpr rfl, bind, Except.bind, ne_eq,
    not_true_eq_false, if_false, pure, Except.pure]

/-- How long the contents are: the sealed token and the padded body, and fifteen octets. -/
theorem length_of_write (hw : ∀ c, (w.blockCipher c).Lawful) (h : write w m = .ok plain)
    {token : Bytes} (htoken : w.sealToken m.token = .ok token) :
    plain.length = token.length + m.body.encode.length + 15
      + ((w.blockCipher m.cipher).blockSize
        - m.body.encode.length % (w.blockCipher m.cipher).blockSize) := by
  obtain ⟨token', body, htoken', hbody, rfl⟩ := write_eq_ok_iff.mp h
  obtain rfl : token' = token := by simpa [htoken'] using htoken
  have hlength := BlockCipher.length_encrypt (hw _) hbody
  have hmagic : magic.length = 10 := by decide
  simp only [List.length_append, List.length_cons, Bytes.length_bigEndian32]
  omega

/-- The sealed token and the encoded body are shorter than the contents that hold them. -/
theorem lengths_of_write (hw : ∀ c, (w.blockCipher c).Lawful) (h : write w m = .ok plain) :
    ∃ token, w.sealToken m.token = .ok token ∧
      token.length + m.body.encode.length + 15 < plain.length := by
  obtain ⟨token, -, htoken, -, -⟩ := write_eq_ok_iff.mp h
  have hlength := length_of_write hw h htoken
  have hmod := Nat.mod_lt m.body.encode.length (hw m.cipher).blockSize_pos
  exact ⟨token, htoken, by omega⟩

/-- The contents are the sealed token and the encoded body, fifteen octets and a block at most. -/
theorem length_le_of_write (hw : ∀ c, (w.blockCipher c).Lawful) (h : write w m = .ok plain)
    {token : Bytes} (htoken : w.sealToken m.token = .ok token) :
    plain.length ≤
      token.length + m.body.encode.length + (w.blockCipher m.cipher).blockSize + 15 := by
  have hlength := length_of_write hw h htoken
  omega

/-- A message has a frame as soon as its token can be sealed and is a key of its cipher. -/
theorem write_isOk {token : Bytes} (htoken : w.sealToken m.token = .ok token)
    (hkeyed : ∃ f, (w.blockCipher m.cipher).keyed? m.token = some f) :
    ∃ plain, write w m = .ok plain := by
  obtain ⟨f, hf⟩ := hkeyed
  obtain ⟨body, hbody⟩ := BlockCipher.encrypt_isOk hf m.body.encode
  exact ⟨_, write_eq_ok_iff.mpr ⟨token, body, htoken, hbody, rfl⟩⟩

/-! ## Round trips -/

/-- A message reads back from contents whose length four octets can say. -/
theorem read_of_write (hm : w.Matches w') (h : write w m = .ok plain)
    (hlen : plain.length < UInt32.size) : read w' plain = .ok m := by
  obtain ⟨token, htoken, hlt⟩ := lengths_of_write hm.lawful h
  obtain ⟨token', body, htoken', hbody, rfl⟩ := write_eq_ok_iff.mp h
  obtain rfl : token' = token := by simpa [htoken'] using htoken
  have hdecrypt := BlockCipher.decrypt_of_encrypt (hm.lawful m.cipher) hbody
  have hcountable : m.body.Countable := Body.countable_of_length (by omega)
  simp only [read, parts_append m.cipher (show token'.length < UInt32.size by omega),
    hm.openToken htoken, hm.sameCiphers, hdecrypt, Body.decode_encode hcountable, Except.mapError,
    bind, Except.bind, pure, Except.pure]

/-- A receiver finds the size of what was compressed in front and refuses it only if it is above
the limit. -/
theorem checkDeclaredSize_of_compress (hm : w.Matches w') {packed : Bytes}
    (h : w.compress plain = .ok packed) (limit : Nat) :
    checkDeclaredSize limit packed =
      if plain.length ≤ limit then .ok () else .error (.decompressedSizeTooLarge plain.length) := by
  obtain ⟨r, rfl⟩ := hm.sizeFirst h
  have hsize := hm.sizeLimited h
  have hvalue := Bytes.ofLittleEndian_littleEndian32 (n := plain.length)
    (by simp only [UInt32.size]; omega)
  have hneg : ¬0x80000000 ≤ plain.length := by omega
  simp only [checkDeclaredSize, Bytes.split?_of_length (Bytes.length_littleEndian32 _), hvalue,
    hneg, if_false]
  by_cases hle : plain.length ≤ limit
  · rw [if_pos hle, if_neg (by omega)]
  · rw [if_neg hle, if_pos (by omega)]

/-! ## Contents as they travel -/

/-- What a frame holds for the given plain contents: with compression their compressed form, and
otherwise the contents themselves. -/
def Packs (w : Means) (l : Limits) (plain contents : Bytes) : Prop :=
  if l.compress then w.compress plain = .ok contents else contents = plain

theorem Limits.length_lt (l : Limits) : l.length < UInt32.size := by
  simp only [Limits.length, maxLength, UInt32.size]
  omega

/-- Encoding appends one frame, and only if its contents are within the limit. -/
theorem encode_eq_ok_iff {l : Limits} {out out' : Bytes} :
    encode w l m out = .ok out' ↔ ∃ plain contents, write w m = .ok plain ∧
      Packs w l plain contents ∧ contents.length ≤ l.length ∧ out' = out ++ delimit contents := by
  unfold encode Packs
  cases write w m with
  | error e => simp [bind, Except.bind]
  | ok plain =>
    by_cases hcompress : l.compress
    · cases hpacked : w.compress plain with
      | error e => simp [hcompress, hpacked, Except.mapError, bind, Except.bind]
      | ok contents =>
        simp [hcompress, hpacked, Except.mapError, bind, Except.bind, ← put_eq_ok_iff]
        cases put l.length contents out <;> simp
    · simp [hcompress, bind, Except.bind, ← put_eq_ok_iff]
      cases put l.length plain out <;> simp [Except.mapError]

/-- Contents above the limit are refused. -/
theorem encode_of_long {l : Limits} {contents : Bytes} (hwrite : write w m = .ok plain)
    (hpacks : Packs w l plain contents) (hlong : l.length < contents.length) (out : Bytes) :
    encode w l m out = .error (.stream (tooBig .invalidInput)) := by
  have hput : put l.length contents out = .error (tooBig .invalidInput) := if_pos hlong
  unfold Packs at hpacks
  by_cases hcompress : l.compress
  · rw [if_pos hcompress] at hpacks
    simp [encode, hwrite, hcompress, hpacks, hput, bind, Except.bind, Except.mapError]
  · rw [if_neg hcompress] at hpacks
    subst hpacks
    simp [encode, hwrite, hcompress, hput, bind, Except.bind, Except.mapError]

/-- Four octets can say the length of plain contents that were packed within the limit. -/
theorem length_lt_of_packs (hm : w.Matches w') {l : Limits} {contents : Bytes}
    (h : Packs w l plain contents) (hle : contents.length ≤ l.length) :
    plain.length < UInt32.size := by
  unfold Packs at h
  split at h
  · exact Nat.lt_trans (hm.sizeLimited h) (by decide)
  · exact h ▸ Nat.lt_of_le_of_lt hle l.length_lt

/-- **What a receiver makes of a frame that the sender built.** The message comes back, unless the
frame is compressed and its plain contents are above the limit. -/
theorem open_of_packs (hm : w.Matches w') {l : Limits} {contents : Bytes}
    (hwrite : write w m = .ok plain) (h : Packs w l plain contents)
    (hle : contents.length ≤ l.length) :
    open? (κ := κ) w' l contents =
      if l.compress ∧ l.maxFrameSize < plain.length then
        .error (.protocol (.decompressedSizeTooLarge plain.length))
      else .ok m := by
  have hread := read_of_write hm hwrite (length_lt_of_packs hm h hle)
  unfold Packs at h
  by_cases hcompress : l.compress
  · rw [if_pos hcompress] at h
    simp only [open?, inflate, hcompress, if_true, checkDeclaredSize_of_compress hm h, true_and]
    by_cases hfits : plain.length ≤ l.maxFrameSize
    · have hnot : ¬l.maxFrameSize < plain.length := by omega
      simp only [hfits, hnot, if_true, if_false, hm.decompress h, hread, Except.mapError, bind,
        Except.bind]
    · have hlt : l.maxFrameSize < plain.length := by omega
      simp only [hfits, hlt, if_true, if_false, Except.mapError, bind, Except.bind]
  · rw [if_neg hcompress] at h
    subst h
    simp only [open?, inflate, hcompress, if_false, false_and, Except.mapError, bind, Except.bind,
      hread, Bool.false_eq_true]

end TunnelRelay.Frame
