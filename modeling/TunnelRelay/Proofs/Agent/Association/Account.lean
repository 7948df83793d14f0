import TunnelRelay.Agent.Association
import Mathlib.Data.List.Forall2
import Mathlib.Tactic.Common

/-!
# What an association is to relay

What an association is to do is a function of what comes in: of the datagrams at its address those
that are the client's, read, are whole and name a host are to be sent as messages, and of the
messages of the proxy those that carry a datagram are to be sent to where the first whole datagram
came from. `Exact` says that it has done just this, up to the one datagram in each direction that is
on its way.
-/

namespace TunnelRelay

/-! ## What comes in -/

/-- What reaches an association from outside. -/
inductive Association.Input where
  /-- A datagram at its address. -/
  | datagram (sender : Endpoint) (b : Bytes)
  /-- A message from the proxy. -/
  | message (m : Body ProxyKind)
  deriving DecidableEq, Repr

namespace Association

/-- The sender and the datagram, if this is a whole datagram of the client. -/
def Input.whole? (client : Ip) : Input → Option (Endpoint × Socks.Datagram)
  | datagram sender b =>
    match Socks.Datagram.ofBytes? b with
    | .ok d => if sender.ip = client ∧ d.fragment = 0 then some (sender, d) else none
    | .error _ => none
  | message _ => none

/-- What a whole datagram carries, if it names a host. -/
def parcelOf (d : Socks.Datagram) : Option Parcel :=
  match d.address.hostText with
  | .ok host => some ⟨⟨host, d.address.port⟩, d.payload⟩
  | .error _ => none

/-- What is to be relayed to the proxy. -/
def Input.parcel? (client : Ip) (i : Input) : Option Parcel :=
  (i.whole? client).bind fun (_, d) => parcelOf d

/-- The message that carries a datagram for the client. -/
def Input.reply? : Input → Option (Body ProxyKind)
  | message m => if m.kind = .okUdp then some m else none
  | datagram _ _ => none

/-- All that is to be relayed to the proxy. -/
def parcels (client : Ip) (ins : List Input) : List Parcel := ins.filterMap (Input.parcel? client)

/-- All messages that carry a datagram for the client. -/
def replies (ins : List Input) : List (Body ProxyKind) := ins.filterMap Input.reply?

/-- Where the first whole datagram of the client came from. -/
def captured (client : Ip) (ins : List Input) : Option Endpoint :=
  (ins.findSome? (Input.whole? client)).map Prod.fst

/-- The datagram that the client is sent for a message. -/
def reply (m : Body ProxyKind) : Socks.Datagram := .whole (.ofHost m.host m.port) m.payload

/-- What comes in with an event, if anything does. -/
def Event.input? : Event → Option Input
  | datagram sender b => some (.datagram sender b)
  | received (.body m) => some (.message m)
  | _ => none

/-- What comes in with a sequence of events. -/
def inputs (es : List Event) : List Input := es.filterMap Event.input?

section

variable {client : Ip} {ins ins' : List Input} {i : Input} {dest : Endpoint}

theorem parcels_append (client : Ip) (ins ins' : List Input) :
    parcels client (ins ++ ins') = parcels client ins ++ parcels client ins' :=
  List.filterMap_append

theorem replies_append (ins ins' : List Input) :
    replies (ins ++ ins') = replies ins ++ replies ins' :=
  List.filterMap_append

theorem captured_append (client : Ip) (ins ins' : List Input) :
    captured client (ins ++ ins') = (captured client ins).or (captured client ins') := by
  rw [captured, List.findSome?_append, captured, captured]
  cases ins.findSome? (Input.whole? client) <;> rfl

/-- The address that has been captured stays. -/
theorem captured_append_of_some (h : captured client ins = some dest) (ins' : List Input) :
    captured client (ins ++ ins') = some dest := by
  rw [captured_append, h]
  rfl

theorem ip_of_whole? {d : Socks.Datagram} (h : i.whole? client = some (dest, d)) :
    dest.ip = client := by
  unfold Input.whole? at h
  split at h
  · split at h
    · split at h
      · rename_i hwhole
        cases h
        exact hwhole.1
      · cases h
    · cases h
  · cases h

/-- The address that is captured is one of the client's host. -/
theorem ip_of_captured (h : captured client ins = some dest) : dest.ip = client := by
  obtain ⟨⟨sender, d⟩, hfound, rfl⟩ := Option.map_eq_some_iff.mp h
  obtain ⟨i, -, hi⟩ := List.exists_of_findSome?_eq_some hfound
  exact ip_of_whole? hi

/-- Where something is to be relayed an address has been captured. -/
theorem captured_ne_none (h : parcels client ins ≠ []) : captured client ins ≠ none := by
  intro hnone
  apply h
  rw [captured, Option.map_eq_none_iff, List.findSome?_eq_none_iff] at hnone
  rw [parcels, List.filterMap_eq_nil_iff]
  intro i hi
  rw [Input.parcel?, hnone i hi]
  rfl

end

end Association

/-! ## What goes out -/

/-- Whether the effect opens the tunnel or puts something into it. -/
def AgentEffect.isUpward : AgentEffect → Bool
  | tunnel _ | message _ => true
  | _ => false

/-- The datagrams among what an agent does, with where they go. -/
def AgentEffect.datagrams (effects : List AgentEffect) : List (Endpoint × Bytes) :=
  effects.filterMap fun
    | .datagram dest b => some (dest, b)
    | _ => none

theorem AgentEffect.datagrams_append (es fs : List AgentEffect) :
    datagrams (es ++ fs) = datagrams es ++ datagrams fs :=
  List.filterMap_append

theorem AgentEffect.datagrams_map_message (ms : List (Body AgentKind)) :
    datagrams (ms.map message) = [] := by
  simp [datagrams]

namespace Association

/-- What is on its way to the proxy. -/
def Outbound.pending : Outbound → List Parcel
  | choosing _ p | sending p => [p]
  | _ => []

/-- What is on its way to the client. -/
def Inbound.pending : Inbound → List (Endpoint × Bytes)
  | delivering dest b => [(dest, b)]
  | _ => []

/-- The message is the one for the parcel, under an id of its own. -/
def Carries (user : String) (m : Body AgentKind) (p : Parcel) : Prop :=
  m = Body.udpData m.id user p.target.host p.target.port p.payload

/-- The datagram goes to that address and is the one for the message. -/
def Returns (dest : Option Endpoint) (x : Endpoint × Bytes) (m : Body ProxyKind) : Prop :=
  dest = some x.1 ∧ x.2 = (reply m).toBytes

/-- What has gone towards the proxy of what was to be relayed. The tunnel is opened once, for the
first parcel, and then there is one message for each parcel, in order. -/
inductive Sends (user id : String) :
    List Parcel → List AgentEffect → Outbound → Inbound → Prop
  | unopened {outbound : Outbound} (h : outbound = .reading ∨ outbound = .ended) :
    Sends user id [] [] outbound .absent
  | opening (left : List ProxyAddress) (p : Parcel) :
    Sends user id [p] [] (.choosing left p) .absent
  | opened {sent : List Parcel} {ms : List (Body AgentKind)} {inbound : Inbound}
    (hms : List.Forall₂ (Carries user) ms sent) (hin : inbound ≠ .absent) (outbound : Outbound)
    (hout : ∀ left p, outbound ≠ .choosing left p) (hsome : sent ++ outbound.pending ≠ []) :
    Sends user id (sent ++ outbound.pending) (.tunnel id :: ms.map .message) outbound inbound

/-- **What an association has done by what has come in.** -/
structure Exact (user id : String) (client : Ip) (ins : List Input) (a : Association)
    (effects : List AgentEffect) : Prop where
  id_eq : a.id = id
  client_eq : a.client = client
  /-- The session is relaying or closed. -/
  lifecycle : a.lifecycle = ⟨.established, false⟩ ∨ a.lifecycle = ⟨.closed, true⟩
  sender : a.sender = captured client ins
  up : Sends user id (parcels client ins) (effects.filter AgentEffect.isUpward) a.outbound a.inbound
  /-- There is one datagram for each reply, in order, and all go to the captured address. -/
  down : List.Forall₂ (Returns (captured client ins))
    (AgentEffect.datagrams effects ++ a.inbound.pending) (replies ins)

/-- What the association puts out in an event is taken, and a proxy accepts it in the end. -/
def Event.Works (a : Association) : Event → Prop
  | tried false => ∀ left p, a.outbound = .choosing left p → left.tail ≠ []
  | sent _ outcome => outcome = .done
  | delivered success => success = true
  | _ => True

/-- What an association can go through. -/
inductive Course (c : AgentContext) (all₀ : Associations) (a₀ : Association) :
    List Event → Associations → Association → List AgentEffect → Prop
  | refl : Course c all₀ a₀ [] all₀ a₀ []
  | step {es : List Event} {e : Event} {all all' : Associations} {a a' : Association}
    {done effects : List AgentEffect} : Course c all₀ a₀ es all a done → e.Works a →
      a.step c all e = some (all', a', effects) →
        Course c all₀ a₀ (es ++ [e]) all' a' (done ++ effects)

end Association

end TunnelRelay
