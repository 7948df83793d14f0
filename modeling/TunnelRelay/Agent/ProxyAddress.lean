import TunnelRelay.Text.Blank
import TunnelRelay.Text.Decimal
import TunnelRelay.Text.Split

/-!
# Addresses of proxies

A configuration names each proxy by a host and a port with a colon between them. Brackets around the
host are not part of it; they are written around a host that has colons itself.
-/

namespace TunnelRelay

/-- Where a proxy listens. -/
structure ProxyAddress where
  host : String
  port : UInt16
  deriving DecidableEq, Repr

namespace ProxyAddress

/-- The host without the brackets around it. -/
def unbracket (cs : List Char) : List Char :=
  Text.dropEndWhile (· == ']') (cs.dropWhile (· == '['))

/-- The address that a text spells. -/
def ofText? (s : String) : Option ProxyAddress := do
  let (host, port) ← Text.cutLast? ':' (Text.strip s.toList)
  let host := unbracket host
  if host = [] then none
  else return ⟨String.ofList host, UInt16.ofNat (← Text.unsigned? 65535 port)⟩

/-- The address as it is written. -/
def toText (a : ProxyAddress) : String :=
  if a.host.toList.contains ':' then s!"[{a.host}]:{a.port}" else s!"{a.host}:{a.port}"

end ProxyAddress

end TunnelRelay
