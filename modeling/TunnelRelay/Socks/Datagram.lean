import TunnelRelay.Socks.Address

/-!
# Datagrams of the SOCKS protocol

A datagram between a client and the relay starts with two octets that say nothing, the number of
its fragment, and an address: the target of a datagram that the client sends, the sender of one that
it receives.
-/

namespace TunnelRelay.Socks

/-- A datagram and the address it is for or from. -/
structure Datagram where
  fragment : UInt8
  address : Address
  payload : Bytes
  deriving DecidableEq, Repr

namespace Datagram

/-- The datagram in these octets. -/
def ofBytes? (b : Bytes) : Except Error Datagram :=
  match b with
  | _ :: _ :: fragment :: r =>
    match Address.scan r with
    | .incomplete => .error (.invalidRequest .truncatedAddress)
    | .invalid e => .error e
    | .complete address payload => .ok ⟨fragment, address, payload⟩
  | _ => .error (.invalidRequest .shortDatagram)

/-- The datagram on the wire. -/
def toBytes (d : Datagram) : Bytes := [0, 0, d.fragment] ++ d.address.toBytes ++ d.payload

/-- A datagram that the client receives. -/
def whole (sender : Address) (payload : Bytes) : Datagram := ⟨0, sender, payload⟩

end Datagram

end TunnelRelay.Socks
