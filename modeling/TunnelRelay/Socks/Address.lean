import TunnelRelay.Ip
import TunnelRelay.Scan

/-!
# Addresses of the SOCKS protocol

A client names a target by an address of a kind, a host in the form of that kind, and a port. The
host of an IP address has a fixed length on the wire; a domain name comes after its length.
-/

namespace TunnelRelay.Socks

/-- What is wrong with a request beyond its single octets. -/
inductive Fault where
  | noMethod
  | v4Length
  | v6Length
  | domainEncoding
  | shortDatagram
  | truncatedAddress
  | unsupportedCommand
  deriving DecidableEq, Repr

/-- How a fault is reported. -/
def Fault.message : Fault → String
  | noMethod => "authenticate command carries no method"
  | v4Length => "ipv4 address length"
  | v6Length => "ipv6 address length"
  | domainEncoding => "domain name is not utf8"
  | shortDatagram => "udp datagram shorter than its header"
  | truncatedAddress => "udp datagram address is truncated"
  | unsupportedCommand => "unsupported command"

/-- Why a client's octets are no request. -/
inductive Error where
  /-- The first octet is not the protocol's version. -/
  | invalidVersion (octet : UInt8)
  /-- No kind of address has this octet. -/
  | unknownAddressKind (octet : UInt8)
  /-- The request is at fault. -/
  | invalidRequest (fault : Fault)
  deriving DecidableEq, Repr

/-- How an error is reported. -/
def Error.message : Error → String
  | invalidVersion n => s!"Invalid socks version: {n}"
  | unknownAddressKind n => s!"Fail to parse socks5 address type: {n}"
  | invalidRequest f => s!"Invalid socks5 request: {f.message}"

/-- The error's name as it is reported. -/
def Error.name : Error → String
  | invalidVersion _ => "InvalidSocksVersion"
  | unknownAddressKind _ => "FailToParseSocks5AddrType"
  | invalidRequest _ => "InvalidSocks5Request"

/-- The kinds of address. -/
inductive AddressKind where
  | v4 | v6 | domain
  deriving DecidableEq, Repr

namespace AddressKind

/-- The kind's octet on the wire. -/
def code : AddressKind → UInt8
  | v4 => 1
  | v6 => 4
  | domain => 3

/-- The kind of that octet. -/
def ofCode? (n : UInt8) : Option AddressKind :=
  if n = 1 then some v4 else if n = 4 then some v6 else if n = 3 then some domain else none

/-- The kind's name as it is reported. -/
def name : AddressKind → String
  | v4 => "IpV4"
  | v6 => "IpV6"
  | domain => "Domain"

theorem ofCode?_code (k : AddressKind) : ofCode? k.code = some k := by cases k <;> rfl

theorem code_of_ofCode? {n : UInt8} {k : AddressKind} (h : ofCode? n = some k) : k.code = n := by
  unfold ofCode? at h
  split at h
  · cases h; simp_all [code]
  · split at h
    · cases h; simp_all [code]
    · split at h
      · cases h; simp_all [code]
      · cases h

end AddressKind

/-- A target as a client names it. -/
structure Address where
  kind : AddressKind
  /-- The host in the form of its kind. -/
  host : Bytes
  port : UInt16
  deriving DecidableEq, Repr

namespace Address

/-- The host has a length that its kind can write. -/
def WellFormed (a : Address) : Prop :=
  match a.kind with
  | .v4 => a.host.length = 4
  | .v6 => a.host.length = 16
  | .domain => a.host.length ≤ 255

/-- The address of an IP address and a port. -/
def ofIp (ip : Ip) (port : UInt16) : Address :=
  match ip with
  | .v4 x => ⟨.v4, x.toBytes, port⟩
  | .v6 x => ⟨.v6, x.toBytes, port⟩

/-- The address of a host's text: an IP address where the text spells one, and a domain name
otherwise. -/
def ofHost (host : String) (port : UInt16) : Address :=
  match Ip.ofText? host.toList with
  | some ip => ofIp ip port
  | none => ⟨.domain, Bytes.ofText host, port⟩

/-- The host's text. -/
def hostText (a : Address) : Except Error String :=
  match a.kind with
  | .v4 =>
    match Ip.V4.ofBytes? a.host with
    | some x => .ok x.toText
    | none => .error (.invalidRequest .v4Length)
  | .v6 =>
    match Ip.V6.ofBytes? a.host with
    | some x => .ok x.toText
    | none => .error (.invalidRequest .v6Length)
  | .domain =>
    match Bytes.toText? a.host with
    | some s => .ok s
    | none => .error (.invalidRequest .domainEncoding)

/-- The address for a reader: the octets of a host that has no text are listed. -/
def display (a : Address) : String :=
  match a.hostText with
  | .ok host => s!"{a.kind.name}({host}:{a.port})"
  | .error _ =>
    let octets := ", ".intercalate (a.host.map fun x => toString x.toNat)
    s!"{a.kind.name}([{octets}]:{a.port})"

/-! ## The wire -/

/-- The length before the host, which only a domain name has. -/
def lengthOctet (a : Address) : Bytes :=
  match a.kind with
  | .domain => [UInt8.ofNat a.host.length]
  | _ => []

/-- The address on the wire. -/
def toBytes (a : Address) : Bytes :=
  a.kind.code :: a.lengthOctet ++ a.host ++ Bytes.bigEndian16 a.port

/-- The length of the host of an address of that kind. -/
def scanHostLength : AddressKind → Scan Error Nat
  | .v4 => Scan.give 4
  | .v6 => Scan.give 16
  | .domain => Scan.octet.andThen fun n => Scan.give n.toNat

/-- The kind of the next octet. -/
def scanKind : Scan Error AddressKind :=
  Scan.octet.andThen fun n =>
    match AddressKind.ofCode? n with
    | some k => Scan.give k
    | none => Scan.fail (.unknownAddressKind n)

/-- The address at the front of a stream. -/
def scan : Scan Error Address :=
  scanKind.andThen fun k =>
    (scanHostLength k).andThen fun n =>
      (Scan.take n).andThen fun host =>
        (Scan.take 2).andThen fun port =>
          Scan.give ⟨k, host, UInt16.ofNat (Bytes.ofBigEndian port)⟩

/-- What a reader makes of an address does not depend on what follows it. -/
theorem stable_scan : Scan.Stable scan := by
  refine Scan.Stable.andThen ?_ fun k => Scan.Stable.andThen ?_ fun n =>
    (Scan.stable_take n).andThen fun host => (Scan.stable_take 2).andThen fun port =>
      Scan.stable_give _
  · refine Scan.stable_octet.andThen fun n => ?_
    cases AddressKind.ofCode? n with
    | none => exact Scan.stable_fail _
    | some k => exact Scan.stable_give k
  · cases k with
    | v4 => exact Scan.stable_give 4
    | v6 => exact Scan.stable_give 16
    | domain => exact Scan.stable_octet.andThen fun n => Scan.stable_give n.toNat

end Address

end TunnelRelay.Socks
