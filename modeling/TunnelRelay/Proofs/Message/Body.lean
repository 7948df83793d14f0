import TunnelRelay.Message.Body
import TunnelRelay.Proofs.Bytes
import TunnelRelay.Proofs.Except

/-!
# Bodies on the wire

A body whose fields can be counted in four octets reads back from its encoding, and octets that read
as a body are the encoding of this body. So each body has one written form, and `decode_eq_ok_iff`
says which octets are read at all.
-/

namespace TunnelRelay

namespace Body

/-- Four octets can say how long each field is. -/
structure Countable {κ : Type} (m : Body κ) : Prop where
  id : (Bytes.ofText m.id).length < UInt32.size
  user : (Bytes.ofText m.user).length < UInt32.size
  host : (Bytes.ofText m.host).length < UInt32.size
  payload : m.payload.length < UInt32.size

/-! ## Fields -/

theorem length_counted (b : Bytes) : (counted b).length = b.length + 4 := by
  simp [counted, Nat.add_comm]

/-- Counted octets read back, whatever follows them. -/
theorem takeCounted_counted (f : Field) {b : Bytes} (h : b.length < UInt32.size) (r : Bytes) :
    takeCounted f (counted b ++ r) = .ok (b, r) := by
  rw [counted, List.append_assoc, takeCounted, Bytes.split?_bigEndian32]
  simp only [Bytes.ofBigEndian_bigEndian32 h, Bytes.split?_append]

theorem takeText_counted (f : Field) {s : String} (h : (Bytes.ofText s).length < UInt32.size)
    (r : Bytes) : takeText f (counted (Bytes.ofText s) ++ r) = .ok (s, r) := by
  simp only [takeText, takeCounted_counted f h, bind, Except.bind, Bytes.toText?_ofText]

theorem takePort_bigEndian16 (port : UInt16) (r : Bytes) :
    takePort (Bytes.bigEndian16 port ++ r) = .ok (port, r) := by
  rw [takePort, Bytes.split?_of_length (Bytes.length_bigEndian16 port)]
  simp only [Bytes.ofBigEndian_bigEndian16, UInt16.ofNat_toNat]

/-! ## Fields that have been read

Each reader takes off the front just what the writer of its field puts there. -/

variable {f : Field} {b r x : Bytes}

theorem eq_counted_of_takeCounted (h : takeCounted f b = .ok (x, r)) :
    b = counted x ++ r ∧ x.length < UInt32.size := by
  unfold takeCounted at h
  split at h
  · cases h
  · rename_i count behind hcount
    obtain ⟨rfl, hfour⟩ := Bytes.append_of_split? hcount
    split at h
    · cases h
    · rename_i found hfound
      cases h
      obtain ⟨rfl, hlength⟩ := Bytes.append_of_split? hfound
      have hlt := Bytes.ofBigEndian_lt count
      rw [hfour] at hlt
      refine ⟨?_, ?_⟩
      · rw [counted, hlength, Bytes.bigEndian32_ofBigEndian hfour, List.append_assoc]
      · rw [hlength]
        exact hlt

theorem eq_counted_of_takeText {s : String} (h : takeText f b = .ok (s, r)) :
    b = counted (Bytes.ofText s) ++ r ∧ (Bytes.ofText s).length < UInt32.size := by
  obtain ⟨⟨x, r'⟩, hcounted, h⟩ := exists_of_bind_eq_ok h
  simp only at h
  split at h
  · cases h
  · rename_i text htext
    cases h
    -- no other octets spell this text
    rw [Bytes.ofText_of_toText? htext]
    exact eq_counted_of_takeCounted hcounted

theorem eq_append_of_takePort {port : UInt16} (h : takePort b = .ok (port, r)) :
    b = Bytes.bigEndian16 port ++ r := by
  unfold takePort at h
  split at h
  · cases h
  · rename_i octets behind hport
    cases h
    obtain ⟨rfl, htwo⟩ := Bytes.append_of_split? hport
    rw [Bytes.bigEndian16_ofBigEndian htwo]

/-! ## Bodies -/

variable {κ : Type} [Family κ]

/-- The five lengths, the tag and the port take nineteen octets. -/
theorem length_encode (m : Body κ) :
    m.encode.length = (Bytes.ofText m.id).length + (Bytes.ofText m.user).length
      + (Bytes.ofText m.host).length + m.payload.length + 19 := by
  simp only [encode, List.length_cons, List.length_append, length_counted,
    Bytes.length_bigEndian16]
  omega

/-- Fields are no longer than the body that they are part of. -/
theorem countable_of_length {m : Body κ} (h : m.encode.length < UInt32.size) : m.Countable := by
  rw [length_encode] at h
  exact ⟨by omega, by omega, by omega, by omega⟩

/-- A body reads back from its octets, and of what follows them the octets are counted. -/
theorem decode_append {m : Body κ} (h : m.Countable) (r : Bytes) :
    decode (m.encode ++ r) = if r.isEmpty then .ok m else .error (.trailingBytes r.length) := by
  have hread : Family.read (Family.code m.kind) = .ok m.kind := by
    simp [Family.read, Family.ofCode?_code]
  simp only [encode, List.cons_append, List.append_assoc, decode, hread, takeText_counted _ h.id,
    takeText_counted _ h.user, takeText_counted _ h.host, takePort_bigEndian16,
    takeCounted_counted _ h.payload, bind, Except.bind]

/-- A body reads back from its octets. -/
theorem decode_encode {m : Body κ} (h : m.Countable) : decode m.encode = .ok m := by
  simpa using decode_append h []

/-- Octets that read as a body are its encoding. -/
theorem encode_of_decode {m : Body κ} (h : decode b = .ok m) : m.Countable ∧ m.encode = b := by
  cases b with
  | nil => cases h
  | cons code b =>
    -- the readers of the fields have all succeeded, each on what the one before had left
    obtain ⟨kind, hkind, h⟩ := exists_of_bind_eq_ok h
    obtain ⟨⟨id, b₁⟩, hid, h⟩ := exists_of_bind_eq_ok h
    obtain ⟨⟨user, b₂⟩, huser, h⟩ := exists_of_bind_eq_ok h
    obtain ⟨⟨host, b₃⟩, hhost, h⟩ := exists_of_bind_eq_ok h
    obtain ⟨⟨port, b₄⟩, hport, h⟩ := exists_of_bind_eq_ok h
    obtain ⟨⟨payload, b₅⟩, hpayload, h⟩ := exists_of_bind_eq_ok h
    cases b₅ with
    | cons x b₅ => cases h
    | nil =>
      cases h
      have hcode := Family.code_of_read hkind
      obtain ⟨rfl, hidLength⟩ := eq_counted_of_takeText hid
      obtain ⟨rfl, huserLength⟩ := eq_counted_of_takeText huser
      obtain ⟨rfl, hhostLength⟩ := eq_counted_of_takeText hhost
      obtain rfl := eq_append_of_takePort hport
      obtain ⟨rfl, hpayloadLength⟩ := eq_counted_of_takeCounted hpayload
      refine ⟨⟨hidLength, huserLength, hhostLength, hpayloadLength⟩, ?_⟩
      simp only [encode, hcode, List.cons_append, List.append_assoc, List.append_nil]

/-- **Each body has one written form.** Octets read as a body if and only if they are its encoding
and four octets can say how long each of its fields is: such a body reads back, no other octets read
as the same body, and nothing is skipped. -/
theorem decode_eq_ok_iff {m : Body κ} : decode b = .ok m ↔ m.Countable ∧ m.encode = b := by
  constructor
  · exact encode_of_decode
  · rintro ⟨hcountable, rfl⟩
    exact decode_encode hcountable

end Body

end TunnelRelay
