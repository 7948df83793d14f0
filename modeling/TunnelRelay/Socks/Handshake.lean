import TunnelRelay.Socks.Address

/-!
# The handshake of the SOCKS protocol

A client greets with the methods of authentication that it knows, is told which one to use, and
then commands: to connect to a target, to wait for one, or to open a way for datagrams. Each command
has one reply. The length checks come before all others, so a wrong version in a message that is not
complete is not yet an error.
-/

namespace TunnelRelay.Socks

/-- The version of the protocol. -/
def version : UInt8 := 5

/-- The version before, which is refused. -/
def oldVersion : UInt8 := 4

/-- What a client of the version before is told. -/
def oldVersionRefusal : Bytes := [0, 0x5B, 0, 0, 0, 0, 0, 0]

/-- Methods of authentication. -/
inductive AuthMethod where
  | noAuthentication | gssapi | password | assigned | reserved | unacceptable
  deriving DecidableEq, Repr

namespace AuthMethod

/-- The method of an octet. -/
def ofCode (n : UInt8) : AuthMethod :=
  if n = 0 then noAuthentication
  else if n = 1 then gssapi
  else if n = 2 then password
  else if n < 0x80 then assigned
  else if n < 0xFF then reserved
  else unacceptable

/-- The octet of a method; the first one where it has several. -/
def code : AuthMethod → UInt8
  | noAuthentication => 0
  | gssapi => 1
  | password => 2
  | assigned => 3
  | reserved => 0x80
  | unacceptable => 0xFF

/-- The method's name as it is reported. -/
def name : AuthMethod → String
  | noAuthentication => "NoAuthenticationRequired"
  | gssapi => "GSSAPI"
  | password => "UsernameAndPassword"
  | assigned => "IanaAssigned"
  | reserved => "ReservedForPrivateMethods"
  | unacceptable => "NoAcceptableMethods"

theorem ofCode_code (m : AuthMethod) : ofCode m.code = m := by cases m <;> rfl

end AuthMethod

/-- What a client may command. -/
inductive Command where
  | connect | bind | associate
  | unsupported (octet : UInt8)
  deriving DecidableEq, Repr

namespace Command

/-- The command of an octet. -/
def ofCode (n : UInt8) : Command :=
  if n = 1 then connect else if n = 2 then bind else if n = 3 then associate else unsupported n

/-- The command's name as it is reported. -/
def name : Command → String
  | connect => "Connect"
  | bind => "Bind"
  | associate => "UdpAssociate"
  | unsupported n => s!"Unsupported({n})"

end Command

/-- A command and the target that it is about. -/
structure Request where
  command : Command
  target : Address
  deriving DecidableEq, Repr

/-- What becomes of a command. -/
inductive Status where
  | succeeded | failure | notAllowed | networkUnreachable | hostUnreachable | connectionRefused
  | expired | commandNotSupported | addressNotSupported
  deriving DecidableEq, Repr

namespace Status

/-- Every status, in the order of its octets. -/
def all : List Status :=
  [succeeded, failure, notAllowed, networkUnreachable, hostUnreachable, connectionRefused, expired,
   commandNotSupported, addressNotSupported]

/-- The octet of a status. -/
def code : Status → UInt8
  | succeeded => 0
  | failure => 1
  | notAllowed => 2
  | networkUnreachable => 3
  | hostUnreachable => 4
  | connectionRefused => 5
  | expired => 6
  | commandNotSupported => 7
  | addressNotSupported => 8

/-- The status's name as it is reported. -/
def name : Status → String
  | succeeded => "Succeeded"
  | failure => "Failure"
  | notAllowed => "ConnectionNotAllowedByRuleSet"
  | networkUnreachable => "NetworkUnReachable"
  | hostUnreachable => "HostUnReachable"
  | connectionRefused => "ConnectionRefused"
  | expired => "TtlExpired"
  | commandNotSupported => "CommandNotSupported"
  | addressNotSupported => "AddressTypeNotSupported"

/-- The status of that name. -/
def ofName? (s : String) : Option Status := all.find? (·.name == s)

end Status

/-- The answer to a command. -/
structure Reply where
  status : Status
  bound : Address
  deriving DecidableEq, Repr

namespace Reply

/-- A refusal, which has no address to offer. -/
def refusal (s : Status) : Reply := ⟨s, .ofIp (.v4 ⟨0, 0, 0, 0⟩) 0⟩

/-- The reply on the wire. -/
def toBytes (r : Reply) : Bytes := [version, r.status.code, 0] ++ r.bound.toBytes

end Reply

/-- The answer to a greeting. -/
def choice (m : AuthMethod) : Bytes := [version, m.code]

/-- The octet of the version. -/
def checkVersion : Scan Error Unit :=
  Scan.octet.andThen fun v =>
    if v = version then Scan.give () else Scan.fail (.invalidVersion v)

/-- The methods of a greeting. -/
def greeting : Scan Error (List AuthMethod) :=
  (Scan.need 2).andThen fun _ =>
    checkVersion.andThen fun _ =>
      Scan.octet.andThen fun n =>
        if n = 0 then Scan.fail (.invalidRequest .noMethod)
        else (Scan.take n.toNat).andThen fun ms => Scan.give (ms.map AuthMethod.ofCode)

/-- A command. -/
def request : Scan Error Request :=
  (Scan.need 4).andThen fun _ =>
    checkVersion.andThen fun _ =>
      Scan.octet.andThen fun c =>
        Scan.octet.andThen fun _ =>
          Address.scan.andThen fun target => Scan.give ⟨.ofCode c, target⟩

/-! ## Stability -/

theorem stable_checkVersion : Scan.Stable checkVersion :=
  Scan.stable_octet.andThen fun _ => (Scan.stable_give ()).ite (Scan.stable_fail _)

/-- What a reader makes of a greeting does not depend on what follows it. -/
theorem stable_greeting : Scan.Stable greeting :=
  (Scan.stable_need 2).andThen fun _ => stable_checkVersion.andThen fun _ =>
    Scan.stable_octet.andThen fun _ => (Scan.stable_fail _).ite
      ((Scan.stable_take _).andThen fun _ => Scan.stable_give _)

/-- What a reader makes of a command does not depend on what follows it. -/
theorem stable_request : Scan.Stable request :=
  (Scan.stable_need 4).andThen fun _ => stable_checkVersion.andThen fun _ =>
    Scan.stable_octet.andThen fun _ => Scan.stable_octet.andThen fun _ =>
      Address.stable_scan.andThen fun _ => Scan.stable_give _

end TunnelRelay.Socks
