import TunnelRelay.Proofs.Agent.Association
import TunnelRelay.Proofs.Ip

/-!
# What a client reads of a datagram that is sent back

The agent puts the address of the host that a message of the proxy names before the message's
payload. A client reads both again as long as the host has at most 255 octets. The length octet of a
longer host is too small by a multiple of 256, so the client takes a part of the host for the whole,
the two octets behind it for the port, and all that follows for the payload.
-/

namespace TunnelRelay

namespace Socks

/-- The address of a text can be written just if a length octet can count the text. -/
theorem Address.wellFormed_ofHost_iff {host : String} {port : UInt16} :
    (ofHost host port).WellFormed ↔ (Bytes.ofText host).length ≤ 255 := by
  refine ⟨?_, fun h => wellFormed_ofHost h port⟩
  unfold ofHost
  split
  · rename_i ip hip
    exact fun _ => Ip.length_octets_of_ofText? hip
  · exact id

/-- A text that no length octet can count is a domain name. -/
theorem Address.ofHost_of_long {host : String} (h : 255 < (Bytes.ofText host).length)
    (port : UInt16) : ofHost host port = ⟨.domain, Bytes.ofText host, port⟩ := by
  unfold ofHost
  split
  · rename_i ip hip
    have hle := Ip.length_octets_of_ofText? hip
    omega
  · rfl

namespace Datagram

/-- What is read of a datagram from a host that is longer than its length octet says. -/
def cropped (host : Bytes) (port : UInt16) (payload : Bytes) : Datagram :=
  let n := host.length % 256
  ⟨0, ⟨.domain, host.take n, UInt16.ofNat (Bytes.ofBigEndian ((host.drop n).take 2))⟩,
    host.drop (n + 2) ++ Bytes.bigEndian16 port ++ payload⟩

/-- A host that no length octet can count is cropped. -/
theorem ofBytes?_of_long {host : Bytes} (h : 255 < host.length) (port : UInt16) (payload : Bytes) :
    ofBytes? (whole ⟨.domain, host, port⟩ payload).toBytes = .ok (cropped host port payload) := by
  have hmod := Nat.mod_lt host.length (by omega : 256 > 0)
  have htake : (host.take (host.length % 256)).length = host.length % 256 := by
    rw [List.length_take]
    omega
  have hport : ((host.drop (host.length % 256)).take 2).length = 2 := by
    rw [List.length_take, List.length_drop]
    omega
  have hcount : UInt8.ofNat (host.length % 256) = UInt8.ofNat host.length := by
    rw [← UInt8.toNat_inj, UInt8.toNat_ofNat', UInt8.toNat_ofNat', Nat.mod_mod]
  have hparts (t : Bytes) : host.take (host.length % 256) ++
      ((host.drop (host.length % 256)).take 2 ++ (host.drop (host.length % 256 + 2) ++ t)) =
        host ++ t := by
    rw [← List.drop_drop, ← List.append_assoc (List.take 2 _), List.take_append_drop,
      ← List.append_assoc, List.take_append_drop]
  refine ofBytes?_eq_ok_iff.mpr ⟨?_, 0, 0, ?_⟩
  · show (host.take (host.length % 256)).length ≤ 255
    omega
  · simp only [toBytes, whole, cropped, Address.toBytes, Address.lengthOctet, htake, hcount,
      Bytes.bigEndian16_ofBigEndian hport, List.cons_append, List.nil_append, List.append_assoc,
      hparts]

end Datagram

end Socks

namespace Association

variable {a : Association} {m : Body ProxyKind} {dest : Endpoint}

/-- What the client is sent for a message says where it comes from and what it is, just if a length
octet can count the host. -/
theorem ofBytes?_reply_iff (m : Body ProxyKind) :
    Socks.Datagram.ofBytes? (reply m).toBytes = .ok ⟨0, .ofHost m.host m.port, m.payload⟩ ↔
      (Bytes.ofText m.host).length ≤ 255 := by
  constructor
  · intro h
    exact Socks.Address.wellFormed_ofHost_iff.mp (Socks.Datagram.ofBytes?_eq_ok_iff.mp h).1
  · intro h
    exact Socks.Datagram.ofBytes?_toBytes (Socks.Address.wellFormed_ofHost h m.port)

theorem ofBytes?_reply_of_long {m : Body ProxyKind} (h : 255 < (Bytes.ofText m.host).length) :
    Socks.Datagram.ofBytes? (reply m).toBytes =
      .ok (.cropped (Bytes.ofText m.host) m.port m.payload) := by
  rw [reply, Socks.Address.ofHost_of_long h]
  exact Socks.Datagram.ofBytes?_of_long h m.port m.payload

/-- **A datagram comes back as it was sent** just if its host has at most 255 octets. From a longer
host it comes back cropped. -/
theorem returned_iff (hover : a.isOver = false) (hreading : a.inbound = .reading)
    (hsender : a.sender = some dest) (hm : m.kind = .okUdp) (c : AgentContext)
    (all : Associations) :
    ∃ a' b, a.step c all (.received (.body m)) = some (all, a', []) ∧
      a'.step c all (.delivered true) = some (all, a, [.datagram dest b]) ∧
      (Socks.Datagram.ofBytes? b = .ok ⟨0, .ofHost m.host m.port, m.payload⟩ ↔
        (Bytes.ofText m.host).length ≤ 255) ∧
      (255 < (Bytes.ofText m.host).length → Socks.Datagram.ofBytes? b =
        .ok (.cropped (Bytes.ofText m.host) m.port m.payload)) := by
  have hdeliver : a.deliver (.body m) =
      { a with inbound := .delivering dest (reply m).toBytes } := by
    simp only [deliver, hm, hsender, reply]
  have hreceived := step_received hreading hover c all (.body m)
  rw [hdeliver] at hreceived
  refine ⟨_, (reply m).toBytes, hreceived, ?_, ofBytes?_reply_iff m, ofBytes?_reply_of_long⟩
  have hback : { a with inbound := .reading } = a := by rw [← hreading]
  simp only [step, visible]
  rw [hback, hover]
  rfl

/-- The association of a client on the machine of the agent that has sent a datagram. -/
def replying : Association :=
  { granted localLink with sender := some localSender, inbound := .reading }

/-- An echo comes back as it was sent. -/
theorem echo_returned :
    (replying.isOver = false ∧ replying.inbound = .reading ∧ replying.sender = some localSender ∧
      echo.kind = .okUdp) ∧
    ∃ a' b, replying.step oneProxy .empty (.received (.body echo)) = some (.empty, a', []) ∧
      a'.step oneProxy .empty (.delivered true) =
        some (.empty, replying, [.datagram localSender b]) ∧
      Socks.Datagram.ofBytes? b = .ok ⟨0, .ofHost "127.0.0.1" 53, [1]⟩ := by
  refine ⟨⟨rfl, rfl, rfl, rfl⟩, ?_⟩
  obtain ⟨a', b, hreceived, hdelivered, hreads, -⟩ :=
    returned_iff (a := replying) (m := echo) rfl rfl rfl rfl oneProxy .empty
  exact ⟨a', b, hreceived, hdelivered, hreads.mpr (by decide +kernel)⟩

/-- A datagram from a host of 256 letters. -/
def farEcho : Body ProxyKind := .okUdp "m" "user" (String.ofList (List.replicate 256 'a')) 80 [1]

/-- The client takes it for one from a host without a name. -/
theorem farEcho_misread :
    Socks.Datagram.ofBytes? (reply farEcho).toBytes =
        .ok ⟨0, ⟨.domain, [], 0x6161⟩, List.replicate 254 0x61 ++ [0, 80, 1]⟩ ∧
      Socks.Datagram.ofBytes? (reply farEcho).toBytes ≠
        .ok ⟨0, .ofHost farEcho.host farEcho.port, farEcho.payload⟩ := by
  have hhost : Bytes.ofText farEcho.host = List.replicate 256 0x61 := by
    rw [farEcho, Body.okUdp, Bytes.ofText_ofList]
    decide +kernel
  have hlong : 255 < (Bytes.ofText farEcho.host).length := by
    rw [hhost, List.length_replicate]
    omega
  constructor
  · rw [ofBytes?_reply_of_long hlong, hhost]
    decide +kernel
  · intro h
    have hshort := (ofBytes?_reply_iff farEcho).mp h
    omega

end Association

end TunnelRelay
