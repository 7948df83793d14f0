import TunnelRelay.Proofs.Bytes
import TunnelRelay.Proofs.Scan
import TunnelRelay.Socks.Datagram

/-!
# Addresses and datagrams on the wire

What is written of an address whose host has a length that its kind can write is read back, whatever
follows it, and nothing else is read: the octets in which an address is found are those that it is
written in. So a datagram with such an address is read back, and there are no other datagrams. The
address of a host's text is of this kind as long as the text is not longer than a length octet can
say.
-/

namespace TunnelRelay

theorem Ip.V6.length_toBytes (x : V6) : x.toBytes.length = 16 := by
  simp [toBytes, List.length_flatMap, x.length_groups]

/-- The next octets are the ones that have been put there. -/
theorem Scan.take_append {ε : Type} {n : Nat} {front : Bytes} (h : front.length = n)
    (rest : Bytes) : (take n : Scan ε Bytes) (front ++ rest) = .complete front rest := by
  simp only [take, Bytes.split?_of_length h]

/-- Octets that are taken stand before what is left. -/
theorem Scan.eq_append_of_take {ε : Type} {n : Nat} {b front rest : Bytes}
    (h : (take n : Scan ε Bytes) b = .complete front rest) :
    b = front ++ rest ∧ front.length = n := by
  unfold take at h
  split at h
  · cases h
  · rename_i hsplit
    cases h
    exact Bytes.append_of_split? hsplit

namespace Socks

namespace Address

/-- The address of an IP address has the length of its kind. -/
theorem wellFormed_ofIp (ip : Ip) (port : UInt16) : (ofIp ip port).WellFormed := by
  cases ip with
  | v4 x => rfl
  | v6 x => exact x.length_toBytes

/-- The address of a text that a length octet can count can be written. -/
theorem wellFormed_ofHost {host : String} (h : (Bytes.ofText host).length ≤ 255) (port : UInt16) :
    (ofHost host port).WellFormed := by
  unfold ofHost
  split
  · exact wellFormed_ofIp _ port
  · exact h

theorem scanKind_cons (kind : AddressKind) (b : Bytes) :
    scanKind (kind.code :: b) = .complete kind b := by
  cases kind <;> rfl

/-- The octet of a kind is the only one that is read as that kind. -/
theorem eq_cons_of_scanKind {b behind : Bytes} {kind : AddressKind}
    (h : scanKind b = .complete kind behind) : b = kind.code :: behind := by
  obtain ⟨x, r, hoctet, hkind⟩ := Scan.andThen_eq_complete h
  cases b with
  | nil => cases hoctet
  | cons y b =>
    cases hoctet
    cases hcode : AddressKind.ofCode? x with
    | none =>
      rw [hcode] at hkind
      cases hkind
    | some k =>
      rw [hcode] at hkind
      cases hkind
      rw [AddressKind.code_of_ofCode? hcode]

/-- What stands before a host tells its length. -/
theorem scanHostLength_append {a : Address} (ha : a.WellFormed) (b : Bytes) :
    scanHostLength a.kind (a.lengthOctet ++ b) = .complete a.host.length b := by
  obtain ⟨kind, host, port⟩ := a
  cases kind with
  | v4 => exact congrArg (Scanned.complete · b) (Eq.symm ha)
  | v6 => exact congrArg (Scanned.complete · b) (Eq.symm ha)
  | domain =>
    have hlength : host.length ≤ 255 := ha
    have hcount : (UInt8.ofNat host.length).toNat = host.length := by
      rw [UInt8.toNat_ofNat']
      omega
    exact congrArg (Scanned.complete · b) hcount

/-- A length is read off what stands before a host of that length. -/
theorem eq_append_of_scanHostLength {b behind : Bytes} {n : Nat} {a : Address}
    (h : scanHostLength a.kind b = .complete n behind) (hhost : a.host.length = n) :
    a.WellFormed ∧ b = a.lengthOctet ++ behind := by
  obtain ⟨kind, host, port⟩ := a
  cases kind with
  | v4 =>
    cases h
    exact ⟨hhost, rfl⟩
  | v6 =>
    cases h
    exact ⟨hhost, rfl⟩
  | domain =>
    obtain ⟨x, r, hoctet, hlength⟩ := Scan.andThen_eq_complete h
    cases b with
    | nil => cases hoctet
    | cons y b =>
      cases hoctet
      cases hlength
      change host.length = x.toNat at hhost
      refine ⟨?_, ?_⟩
      · show host.length ≤ 255
        have hx := x.toNat_lt
        omega
      · show x :: behind = UInt8.ofNat host.length :: behind
        rw [hhost, UInt8.ofNat_toNat]

/-- **An address is read back**, whatever follows it. -/
theorem scan_toBytes {a : Address} (ha : a.WellFormed) (rest : Bytes) :
    scan (a.toBytes ++ rest) = .complete a rest := by
  have hport : UInt16.ofNat (Bytes.ofBigEndian (Bytes.bigEndian16 a.port)) = a.port := by
    rw [Bytes.ofBigEndian_bigEndian16, UInt16.ofNat_toNat]
  rw [scan, toBytes]
  simp only [List.cons_append, List.append_assoc]
  rw [Scan.andThen_of_complete (scanKind_cons a.kind _),
    Scan.andThen_of_complete (scanHostLength_append ha _),
    Scan.andThen_of_complete (Scan.take_append rfl _),
    Scan.andThen_of_complete (Scan.take_append (Bytes.length_bigEndian16 a.port) _), hport]
  rfl

/-- An address that is found is written in the octets before what is left. -/
theorem eq_append_of_scan {a : Address} {b rest : Bytes} (h : scan b = .complete a rest) :
    a.WellFormed ∧ b = a.toBytes ++ rest := by
  obtain ⟨kind, behindKind, hkind, h⟩ := Scan.andThen_eq_complete h
  obtain ⟨n, behindLength, hn, h⟩ := Scan.andThen_eq_complete h
  obtain ⟨host, behindHost, hhost, h⟩ := Scan.andThen_eq_complete h
  obtain ⟨port, behindPort, hport, h⟩ := Scan.andThen_eq_complete h
  cases h
  obtain ⟨rfl, hhostLength⟩ := Scan.eq_append_of_take hhost
  obtain ⟨rfl, hportLength⟩ := Scan.eq_append_of_take hport
  obtain ⟨hwell, rfl⟩ := eq_append_of_scanHostLength
    (a := ⟨kind, host, UInt16.ofNat (Bytes.ofBigEndian port)⟩) hn hhostLength
  refine ⟨hwell, ?_⟩
  rw [eq_cons_of_scanKind hkind, toBytes, Bytes.bigEndian16_ofBigEndian hportLength]
  simp only [List.cons_append, List.append_assoc]

/-- **Addresses are found where they are written**, and nowhere else. -/
theorem scan_eq_complete_iff {a : Address} {b rest : Bytes} :
    scan b = .complete a rest ↔ a.WellFormed ∧ b = a.toBytes ++ rest := by
  constructor
  · exact eq_append_of_scan
  · rintro ⟨ha, rfl⟩
    exact scan_toBytes ha rest

/-- Nothing can be said of an address that is not yet complete. -/
theorem scan_of_prefix {a : Address} (ha : a.WellFormed) {front : Bytes}
    (hfront : front <+: a.toBytes) (hne : front ≠ a.toBytes) : scan front = .incomplete := by
  have hwhole := scan_toBytes ha []
  rw [List.append_nil] at hwhole
  exact stable_scan.incomplete_of_prefix hwhole hfront hne

end Address

namespace Datagram

/-- Datagrams are three octets and an address, and what follows that. The first two octets say
nothing. -/
theorem ofBytes?_eq_ok_iff {b : Bytes} {d : Datagram} :
    ofBytes? b = .ok d ↔
      d.address.WellFormed ∧ ∃ x y, b = [x, y, d.fragment] ++ d.address.toBytes ++ d.payload := by
  constructor
  · intro h
    unfold ofBytes? at h
    split at h
    · split at h
      · cases h
      · cases h
      · rename_i x y fragment r scanned a payload hscan
        cases h
        obtain ⟨hwell, rfl⟩ := Address.eq_append_of_scan hscan
        refine ⟨hwell, x, y, ?_⟩
        rw [List.append_assoc]
        rfl
    · cases h
  · rintro ⟨hwell, x, y, rfl⟩
    simp only [ofBytes?, List.cons_append, List.nil_append, Address.scan_toBytes hwell]

/-- **A datagram is read back.** -/
theorem ofBytes?_toBytes {d : Datagram} (hd : d.address.WellFormed) :
    ofBytes? d.toBytes = .ok d :=
  ofBytes?_eq_ok_iff.mpr ⟨hd, 0, 0, rfl⟩

end Datagram

/-! ## The format -/

/-- How addresses and datagrams stand on the wire. -/
structure WireFormat : Prop where
  /-- An address is found, and some octets left behind it, just where it stands before them. -/
  address : ∀ (a : Address) (b rest : Bytes),
    Address.scan b = .complete a rest ↔ a.WellFormed ∧ b = a.toBytes ++ rest
  /-- A part of an address is not yet an address, and not yet wrong. -/
  part : ∀ (a : Address) (front : Bytes), a.WellFormed → front <+: a.toBytes → front ≠ a.toBytes →
    Address.scan front = .incomplete
  /-- A datagram is found just in its own octets, behind any two. -/
  datagram : ∀ (b : Bytes) (d : Datagram), Datagram.ofBytes? b = .ok d ↔
    d.address.WellFormed ∧ ∃ x y, b = [x, y, d.fragment] ++ d.address.toBytes ++ d.payload
  /-- A datagram that a client receives is whole, and says who sent it and what. -/
  received : ∀ (sender : Address) (payload : Bytes), sender.WellFormed →
    Datagram.ofBytes? (Datagram.whole sender payload).toBytes = .ok ⟨0, sender, payload⟩

/-- **What is written is what is read** of addresses and datagrams. -/
theorem wireFormat_exact : WireFormat where
  address _ _ _ := Address.scan_eq_complete_iff
  part _ _ ha hfront hne := Address.scan_of_prefix ha hfront hne
  datagram _ _ := Datagram.ofBytes?_eq_ok_iff
  received sender payload hsender := Datagram.ofBytes?_toBytes (d := .whole sender payload) hsender

end Socks

end TunnelRelay
