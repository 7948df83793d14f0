import TunnelRelay.Agent.Context
import TunnelRelay.Agent.Opening
import TunnelRelay.Registry
import TunnelRelay.Socks.Datagram

/-!
# Relaying datagrams

A client that has asked for an association sends its datagrams to an address of the agent. Those
that come from the client's host, read, are whole and name a host go to the proxy, through a tunnel
that is opened for the first of them. What the proxy sends goes back to the address from which the
first whole datagram came. The association lasts as long as the connection over which the client
asked for it.

Three legs run side by side and share the association's lifecycle: one takes the client's datagrams,
one, once there is a tunnel, delivers those of the proxy, and one watches the connection.
-/

namespace TunnelRelay

/-- A datagram for a target. -/
structure Parcel where
  target : Target
  payload : Bytes
  deriving DecidableEq, Repr

/-- Where the leg for the client's datagrams stands. -/
inductive Association.Outbound where
  | reading
  /-- A tunnel is being opened for a datagram; the first of these proxies is being tried. -/
  | choosing (left : List ProxyAddress) (p : Parcel)
  | sending (p : Parcel)
  | ended
  deriving DecidableEq, Repr

/-- Where the leg for the proxy's datagrams stands. -/
inductive Association.Inbound where
  /-- There is no tunnel yet. -/
  | absent
  | reading
  /-- A datagram is being sent to the client. -/
  | delivering (dest : Endpoint) (b : Bytes)
  | ended
  deriving DecidableEq, Repr

/-- What a registry knows of an association. -/
structure AssociationEntry where
  user : String
  /-- The client's end of the connection over which it asked. -/
  control : Endpoint
  /-- Where the client sends its datagrams to. -/
  own : Endpoint
  deriving DecidableEq, Repr

/-- An association that runs. -/
structure Association where
  id : String
  client : Ip
  lifecycle : Lifecycle
  /-- Where the first whole datagram came from. -/
  sender : Option Endpoint
  /-- Where the last datagram went to. -/
  recipient : Option Target
  outbound : Association.Outbound
  inbound : Association.Inbound
  /-- Whether the connection is being watched. -/
  watching : Bool
  isOver : Bool
  deriving DecidableEq, Repr

/-- The associations of an agent. -/
abbrev Associations := Registry AssociationEntry

namespace Association

/-- An association of a client. -/
def start (id : String) (client : Ip) (lifecycle : Lifecycle) : Association :=
  ⟨id, client, lifecycle, none, none, .reading, .absent, true, false⟩

/-- What an association waits for. -/
inductive Event where
  /-- A datagram has come. -/
  | datagram (sender : Endpoint) (b : Bytes)
  /-- No datagram can be received. -/
  | receiveFailed
  /-- Whether the proxy accepts. -/
  | tried (accepted : Bool)
  /-- The message with this id came to this. -/
  | sent (id : String) (outcome : Sent)
  /-- The leg for the client's datagrams sees that the association is closed. -/
  | outboundClosed
  | received (r : Received ProxyKind)
  /-- Whether a datagram could be sent to the client. -/
  | delivered (success : Bool)
  /-- The leg for the proxy's datagrams sees that the association is closed. -/
  | inboundClosed
  /-- The client sends something over its connection. -/
  | chatter
  /-- The client's connection has ended. -/
  | disconnected
  /-- The leg that watches the connection sees that the association is closed. -/
  | unwatched
  /-- All legs have ended. -/
  | finished
  deriving DecidableEq, Repr

/-- Whether the event can be seen: that the association is closed only if it is. -/
def visible (l : Lifecycle) : Event → Bool
  | .outboundClosed | .inboundClosed | .unwatched => l.cancelled
  | _ => true

/-- The association is closed. -/
def close (a : Association) : Association := { a with lifecycle := a.lifecycle.close.2 }

/-- The leg for the client's datagrams ends, and with it the tunnel. -/
def endOutbound (a : Association) : Association × List AgentEffect :=
  ({ a with outbound := .ended }.close, if a.inbound = .absent then [] else [.closeTunnel])

/-- A datagram goes on its way, for which the first one needs a tunnel. -/
def forward (proxies : List ProxyAddress) (p : Parcel) (a : Association) :
    Association × List AgentEffect :=
  if a.inbound ≠ .absent then ({ a with outbound := .sending p }, [])
  else if proxies = [] then a.endOutbound
  else ({ a with outbound := .choosing proxies p }, [])

/-- What a datagram leads to. One that is not the client's, does not read or is a fragment is
dropped; so is one that names no host, but its sender counts. -/
def receive (proxies : List ProxyAddress) (sender : Endpoint) (b : Bytes) (a : Association) :
    Association × List AgentEffect :=
  if sender.ip ≠ a.client then (a, [])
  else
    match Socks.Datagram.ofBytes? b with
    | .error _ => (a, [])
    | .ok d =>
      if d.fragment ≠ 0 then (a, [])
      else
        let a := { a with sender := a.sender.or (some sender) }
        match d.address.hostText with
        | .error _ => (a, [])
        | .ok host =>
          let target : Target := ⟨host, d.address.port⟩
          forward proxies ⟨target, d.payload⟩ { a with recipient := some target }

/-- What a read from the tunnel leads to. -/
def deliver (r : Received ProxyKind) (a : Association) : Association :=
  match r with
  | .ended | .failed _ => { a with inbound := .ended }.close
  | .body m =>
    match m.kind with
    | .heartbeat => a
    | .okUdp =>
      match a.sender with
      | none => a
      | some dest =>
        let d := Socks.Datagram.whole (.ofHost m.host m.port) m.payload
        { a with inbound := .delivering dest d.toBytes }
    | _ => { a with inbound := .ended }.close

/-- What an event leads to; nothing when the association does not wait for it. -/
def step (c : AgentContext) (all : Associations) (a : Association) (e : Event) :
    Option (Associations × Association × List AgentEffect) :=
  if !visible a.lifecycle e || a.isOver then none
  else
    match e with
    | .datagram sender b =>
      if a.outbound = .reading then some (all, receive c.proxies sender b a) else none
    | .receiveFailed | .outboundClosed =>
      if a.outbound = .reading then some (all, a.endOutbound) else none
    | .tried accepted =>
      match a.outbound with
      | .choosing left p =>
        if accepted then
          some (all, { a with outbound := .sending p, inbound := .reading }, [.tunnel a.id])
        else if left.tail = [] then some (all, a.endOutbound)
        else some (all, { a with outbound := .choosing left.tail p }, [])
      | _ => none
    | .sent id outcome =>
      match a.outbound with
      | .sending p =>
        let m := Body.udpData id c.userToken p.target.host p.target.port p.payload
        let entered := (outcome.entered m).map AgentEffect.message
        match outcome.error? with
        | none => some (all, { a with outbound := .reading }, entered)
        | some _ =>
          let (a, effects) := a.endOutbound
          some (all, a, entered ++ effects)
      | _ => none
    | .received r => if a.inbound = .reading then some (all, a.deliver r, []) else none
    | .delivered success =>
      match a.inbound with
      | .delivering dest b =>
        if success then some (all, { a with inbound := .reading }, [.datagram dest b])
        else some (all, { a with inbound := .ended }.close, [])
      | _ => none
    | .inboundClosed =>
      if a.inbound = .reading then some (all, { a with inbound := .ended }.close, []) else none
    | .chatter => if a.watching then some (all, a, []) else none
    | .disconnected | .unwatched =>
      if a.watching then some (all, { a with watching := false }.close, []) else none
    | .finished =>
      if a.outbound = .ended ∧ (a.inbound = .absent ∨ a.inbound = .ended) ∧ !a.watching then
        some (all.remove a.id, { a with isOver := true }.close, [])
      else none

end Association

end TunnelRelay
