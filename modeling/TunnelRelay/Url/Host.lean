import TunnelRelay.Domain
import TunnelRelay.Ip
import TunnelRelay.Url.Percent

/-!
# Hosts of a URL

A host is a domain name or an address. Under a scheme of the web a name whose last label is a
number has to be an IPv4 address in one of its many spellings: one to four numbers, each in
decimal, octal or hexadecimal, the last one filling all the octets that are left.
-/

namespace TunnelRelay.Url

/-- Why a text is no URL. -/
inductive Error where
  /-- A scheme that needs a host has none. -/
  | emptyHost
  /-- The host is no domain name. -/
  | invalidDomain
  /-- The port is no number below 65536. -/
  | invalidPort
  /-- The host ends in a number and is no IPv4 address. -/
  | invalidV4
  /-- What stands in brackets is no IPv6 address. -/
  | invalidV6
  /-- A character stands in the host that no host holds. -/
  | invalidHostCharacter
  /-- The text does not start with a scheme. -/
  | noScheme
  deriving DecidableEq, Repr

/-- How an error is reported. -/
def Error.message : Error → String
  | emptyHost => "empty host"
  | invalidDomain => "invalid international domain name"
  | invalidPort => "invalid port number"
  | invalidV4 => "invalid IPv4 address"
  | invalidV6 => "invalid IPv6 address"
  | invalidHostCharacter => "invalid domain character"
  | noScheme => "relative URL without a base"

/-- A host. -/
inductive Host where
  | name (domain : List Char)
  | address (ip : Ip)
  deriving DecidableEq, Repr

/-- The host as it is given to whoever connects to it. -/
def Host.toText : Host → String
  | name d => String.ofList d
  | address ip => ip.toText

/-! ## Numbers -/

/-- A number in the base that its first characters announce. -/
def number? : List Char → Option Nat
  | [] => none
  | '0' :: 'x' :: cs | '0' :: 'X' :: cs => Text.numeral? 16 0 cs
  | '0' :: cs => Text.numeral? 8 0 cs
  | cs => Text.numeral? 10 0 cs

/-- The last label, or the one before it when the name ends in a dot. -/
def lastLabel (labels : List (List Char)) : List Char :=
  match labels.reverse with
  | [] :: l :: _ => l
  | l :: _ => l
  | [] => []

/-- Whether a name is meant as an IPv4 address: its last label is a number in some base, or has
digits only. -/
def endsInNumber (labels : List (List Char)) : Bool :=
  let l := lastLabel labels
  l != [] && (l.all Char.isDigit || (number? l).isSome)

/-- The number of an address whose last part fills the octets that the others leave. -/
def gather (parts : List Nat) (last : Nat) : Option Nat :=
  if parts.any (255 < ·) || 1 <<< (8 * (4 - parts.length)) ≤ last then none
  else some ((parts.foldl (fun n x => n * 256 + x) 0 <<< (8 * (4 - parts.length))) + last)

/-- The IPv4 address that these labels spell. -/
def v4? (labels : List (List Char)) : Option Ip.V4 :=
  let labels := if labels.getLast? = some [] then labels.dropLast else labels
  if 4 < labels.length then none
  else do
    let ns ← labels.mapM number?
    return Ip.V4.ofNat (← gather ns.dropLast (← ns.getLast?))

/-! ## Hosts -/

/-- The address between brackets. -/
def bracketed (cs : List Char) : Except Error Host :=
  match cs.reverse with
  | ']' :: r =>
    match Ip.V6.ofText? r.reverse with
    | some x => .ok (.address (.v6 x))
    | none => .error .invalidV6
  | _ => .error .invalidV6

/-- The host of a URL under a scheme of the web. -/
def webHost (cs : List Char) : Except Error Host :=
  match cs with
  | '[' :: r => bracketed r
  | _ =>
    match Domain.toAscii? (percentDecode (Bytes.ofText (String.ofList cs))) with
    | none => .error .invalidDomain
    | some [] => .error .emptyHost
    | some d =>
      let labels := Text.fields '.' d
      if endsInNumber labels then
        match v4? labels with
        | some x => .ok (.address (.v4 x))
        | none => .error .invalidV4
      else .ok (.name d)

/-- The characters that no host holds. -/
def isForbiddenInHost (c : Char) : Bool :=
  ['\x00', '\t', '\n', '\r', ' ', '#', '/', ':', '<', '>', '?', '@', '[', '\\', ']', '^',
    '|'].contains c

/-- The host of a URL under any other scheme: it may be empty and nobody looks it up. -/
def otherHost (cs : List Char) : Except Error (Option Host) :=
  match cs with
  | [] => .ok none
  | '[' :: r => (bracketed r).map some
  | _ =>
    if cs.any isForbiddenInHost then .error .invalidHostCharacter
    else .ok (some (.name (percentEncode .control cs)))

end TunnelRelay.Url
