import TunnelRelay.Agent.HttpSession
import TunnelRelay.Proofs.Forward.Stream
import TunnelRelay.Proofs.Passage

/-!
# Errands

What a client's requests ask of an agent is a list of errands: one for each longest run of requests
for one target, a request for an opaque stream being a run by itself. An errand is done by a tunnel
that carries one message to connect and then, cut in any way, the octets of the errand. What an
agent does over time opens such tunnels one after the other, and at any time only the last of them
may have carried a part.
-/

namespace TunnelRelay

/-! ## What is asked -/

/-- What one tunnel is for. -/
structure Errand where
  target : Target
  keepAlive : Bool
  data : Bytes
  deriving DecidableEq, Repr

namespace Http.Item

/-- What the target is to receive for a request. -/
def data (i : Item) : Bytes :=
  if i.request.head.isConnect then i.behind else i.request.head.toBytes ++ i.behind

/-- The request can go through a tunnel to that target behind other requests. -/
def isFor (target : Target) (i : Item) : Bool := !i.request.head.isConnect && i.target = target

/-- The second request can go through the tunnel of the first one. -/
def joins (i j : Item) : Bool := !i.request.head.isConnect && j.isFor i.target

/-- The errands of requests: the first one takes the requests behind it along that can go through
its tunnel, up to the first that can not. -/
def errands : List Item → List Errand
  | [] => []
  | i :: items =>
    ⟨i.target, HttpSession.keepsAlive i.request,
        i.data ++ (items.takeWhile i.joins).flatMap data⟩ ::
      errands (items.dropWhile i.joins)
termination_by items => items.length
decreasing_by exact Nat.lt_succ_of_le (List.dropWhile_suffix _).length_le

@[simp] theorem errands_nil : errands [] = [] := by rw [errands]

end Http.Item

/-! ## What is done -/

/-- What has gone into a tunnel. -/
structure Tunnel where
  id : String
  messages : List (Body AgentKind)
  deriving DecidableEq, Repr

/-- What an agent has done: the tunnels that it has closed, and the one that is open. -/
structure Wire where
  closed : List Tunnel
  current : Option Tunnel
  deriving DecidableEq, Repr

namespace Wire

/-- Nothing has been done. -/
def empty : Wire := ⟨[], none⟩

/-- One more thing is done. A tunnel is opened only when none is open, and only then is there one
for messages and one to close; datagrams have no part in it. -/
def follow (w : Wire) (effect : AgentEffect) : Option Wire :=
  match effect, w.current with
  | .tunnel id, none => some ⟨w.closed, some ⟨id, []⟩⟩
  | .message m, some t => some ⟨w.closed, some ⟨t.id, t.messages ++ [m]⟩⟩
  | .closeTunnel, some t => some ⟨w.closed ++ [t], none⟩
  | .toClient _, _ => some w
  | _, _ => none

/-- More things are done. -/
def followAll (w : Wire) : List AgentEffect → Option Wire
  | [] => some w
  | e :: es => (w.follow e).bind (followAll · es)

theorem followAll_append {w w' : Wire} {es fs : List AgentEffect}
    (h : w.followAll es = some w') : w.followAll (es ++ fs) = w'.followAll fs := by
  -- induction on what is done first
  induction es generalizing w with
  | nil =>
    cases h
    rfl
  | cons e es ih =>
    obtain ⟨w₁, hfirst, hrest⟩ := Option.bind_eq_some_iff.mp h
    rw [List.cons_append, followAll, hfirst]
    exact ih hrest

/-- The tunnels in the order in which they were opened. -/
def tunnels (w : Wire) : List Tunnel := w.closed ++ w.current.toList

end Wire

/-- The tunnel carries a message to connect to the target of the errand, and then its octets. -/
def Errand.DoneBy (user : String) (e : Errand) (t : Tunnel) : Prop :=
  ∃ id ms, t.messages = Body.connect id user e.target.host e.target.port e.keepAlive :: ms ∧
    (∀ m ∈ ms, ∃ id b, m = Body.tcpData id user e.target.host e.target.port b) ∧
      Body.stream .tcpData ms = e.data

/-- More octets are carried. -/
theorem Errand.DoneBy.carry {user : String} {target : Target} {keepAlive : Bool} {sent : Bytes}
    {t : Tunnel} (h : Errand.DoneBy user ⟨target, keepAlive, sent⟩ t) (id : String) (b : Bytes) :
    Errand.DoneBy user ⟨target, keepAlive, sent ++ b⟩
      ⟨t.id, t.messages ++ [Body.tcpData id user target.host target.port b]⟩ := by
  obtain ⟨first, ms, hmessages, hdata, hstream⟩ := h
  refine ⟨first, ms ++ [Body.tcpData id user target.host target.port b], ?_, ?_, ?_⟩
  · rw [hmessages, List.cons_append]
  · intro m hm
    rcases List.mem_append.mp hm with hm | hm
    · exact hdata m hm
    · exact ⟨id, b, List.mem_singleton.mp hm⟩
  · rw [Body.stream_append, hstream, Body.stream_singleton]
    rfl

namespace Errand

/-- The tunnel carries nothing yet, or what the errand asks up to some octet. -/
def BegunBy (user : String) (e : Errand) (t : Tunnel) : Prop :=
  t.messages = [] ∨ ∃ sent, sent <+: e.data ∧ DoneBy user ⟨e.target, e.keepAlive, sent⟩ t

/-- The tunnels take errands up in their order, and each but the last has done its own. -/
inductive TakenUpBy (user : String) : List Errand → List Tunnel → Prop
  | none (plan : List Errand) : TakenUpBy user plan []
  | last {e : Errand} {plan : List Errand} {t : Tunnel} : e.BegunBy user t →
    TakenUpBy user (e :: plan) [t]
  | done {e : Errand} {plan : List Errand} {t : Tunnel} {ts : List Tunnel} : e.DoneBy user t →
    TakenUpBy user plan ts → TakenUpBy user (e :: plan) (t :: ts)

variable {user : String} {done rest : List Errand} {ts more : List Tunnel}

/-- Errands are taken up behind those that are done. -/
theorem takenUpBy_append (hdone : List.Forall₂ (DoneBy user) done ts)
    (hrest : TakenUpBy user rest more) : TakenUpBy user (done ++ rest) (ts ++ more) := by
  induction hdone with
  | nil => exact hrest
  | cons hfirst _ ih => exact .done hfirst ih

/-- The errands that are done are taken up. -/
theorem takenUpBy_of_done (hdone : List.Forall₂ (DoneBy user) done ts) (rest : List Errand) :
    TakenUpBy user (done ++ rest) ts := by
  simpa using takenUpBy_append hdone (.none rest)

end Errand

end TunnelRelay
