import TunnelRelay.Proxy.Relay

/-!
# Relaying datagrams to targets

A tunnel whose first message is a datagram carries datagrams only. Each of them goes to the first
IPv4 address of its host, or nowhere if the host has none; what comes back goes to the agent under
the address that it came from.
-/

namespace TunnelRelay

/-- Where the leg to the targets stands. -/
inductive DatagramRelay.Outbound where
  /-- The first datagram is being passed on, before any other leg runs. -/
  | starting (m : Body AgentKind)
  | reading
  /-- A datagram is being passed on. -/
  | passing (m : Body AgentKind)
  | ended
  deriving DecidableEq, Repr

/-- Where the leg from the targets stands. -/
inductive DatagramRelay.Inbound where
  | reading
  | sending (sender : Endpoint) (b : Bytes)
  | ended
  deriving DecidableEq, Repr

/-- A relay of datagrams between a tunnel and any number of targets. -/
structure DatagramRelay where
  id : String
  user : String
  lifecycle : Lifecycle
  outbound : DatagramRelay.Outbound
  inbound : DatagramRelay.Inbound
  isOver : Bool
  deriving DecidableEq, Repr

/-- What a registry knows of a relay of datagrams. -/
structure DatagramEntry where
  user : String
  /-- The address that the targets see. -/
  own : Endpoint
  deriving DecidableEq, Repr

/-- The sessions of a proxy that relay datagrams. -/
abbrev ProxyDatagrams := Registry DatagramEntry

namespace DatagramRelay

/-- A relay that begins with a datagram. -/
def start (all : ProxyDatagrams) (id : String) (own : Endpoint) (m : Body AgentKind) :
    Option (ProxyDatagrams × DatagramRelay) :=
  match all.create id ⟨m.user, own⟩, Lifecycle.fresh.transit .idle .established with
  | .ok all, .ok l => some (all, ⟨id, m.user, l, .starting m, .reading, false⟩)
  | _, _ => none

/-- What a relay waits for. -/
inductive Event where
  /-- The address to which a datagram went, if it went anywhere. -/
  | passed (dest : Option Endpoint)
  | received (r : Received AgentKind)
  /-- The leg to the targets sees that the session is closed. -/
  | outboundClosed
  /-- A datagram has come back. -/
  | datagram (sender : Endpoint) (b : Bytes)
  /-- No datagram could be received this time. -/
  | receiveFailed
  /-- The message with this id came to this. -/
  | sent (id : String) (outcome : Sent)
  /-- The leg from the targets sees that the session is closed. -/
  | inboundClosed
  /-- Both legs have ended. -/
  | finished
  deriving DecidableEq, Repr

/-- Whether the event can be seen: that the session is closed only if it is. -/
def visible (l : Lifecycle) : Event → Bool
  | .outboundClosed | .inboundClosed => l.cancelled
  | _ => true

/-- Whether a datagram for a host can go to that address. -/
def leadsTo (m : Body AgentKind) (dest : Endpoint) : Bool :=
  dest.port = m.port &&
    match dest.ip, Ip.ofText? m.host.toList with
    | .v4 _, none => true
    | .v4 x, some ip => ip = .v4 x
    | .v6 _, _ => false

/-- The session is closed. -/
def close (r : DatagramRelay) : DatagramRelay := { r with lifecycle := r.lifecycle.close.2 }

/-- A datagram has been passed on or dropped. -/
def passOn (m : Body AgentKind) (dest : Option Endpoint) (r : DatagramRelay) :
    Option (DatagramRelay × List ProxyEffect) :=
  match dest with
  | none => some ({ r with outbound := .reading }, [])
  | some dest =>
    if leadsTo m dest then some ({ r with outbound := .reading }, [.datagram dest m.payload])
    else none

/-- What a read from the tunnel leads to. -/
def receive (r : DatagramRelay) : Received AgentKind → DatagramRelay
  | .ended | .failed _ => { r with outbound := .ended }.close
  | .body m =>
    if m.kind = .udpData then { r with outbound := .passing m }
    else { r with outbound := .ended }.close

/-- Whether the leg from the targets runs. -/
def isStarted (r : DatagramRelay) : Bool :=
  match r.outbound with
  | .starting _ => false
  | _ => true

/-- What an event leads to; nothing when the relay does not wait for it. -/
def step (all : ProxyDatagrams) (r : DatagramRelay) (e : Event) :
    Option (ProxyDatagrams × DatagramRelay × List ProxyEffect) :=
  if !visible r.lifecycle e || r.isOver then none
  else
    match e with
    | .passed dest =>
      match r.outbound with
      | .starting m | .passing m => (r.passOn m dest).map fun (r, effects) => (all, r, effects)
      | _ => none
    | .received got => if r.outbound = .reading then some (all, r.receive got, []) else none
    | .outboundClosed =>
      if r.outbound = .reading then some (all, { r with outbound := .ended }.close, []) else none
    | .datagram sender b =>
      if r.isStarted ∧ r.inbound = .reading then
        some (all, { r with inbound := .sending sender b }, [])
      else none
    | .receiveFailed => if r.isStarted ∧ r.inbound = .reading then some (all, r, []) else none
    | .sent id outcome =>
      match r.inbound with
      | .sending sender b =>
        let m := Body.okUdp id r.user sender.ip.toText sender.port b
        let entered := (outcome.entered m).map ProxyEffect.message
        match outcome.error? with
        | none => some (all, { r with inbound := .reading }, entered)
        | some _ => some (all, { r with inbound := .ended }.close, entered)
      | _ => none
    | .inboundClosed =>
      if r.isStarted ∧ r.inbound = .reading then
        some (all, { r with inbound := .ended }.close, [])
      else none
    | .finished =>
      if r.outbound = .ended ∧ r.inbound = .ended then
        some (all.remove r.id, { r with isOver := true }.close, [.closeTunnel])
      else none

end DatagramRelay

end TunnelRelay
