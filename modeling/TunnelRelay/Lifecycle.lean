import TunnelRelay.Error

/-!
# The lifecycle of a relay session

A lifecycle is a state and a token that tells every leg of the session to stop. A transit moves the
state only if it is where the caller believes it is; closing moves it to `closed` from any earlier
state, once, and cancels the token for good.

Several tasks share one lifecycle. What each of them does is made of single atomic actions, and
between two of them any other task may act: `Task.step` is one action of one task, and `Reaches`
is what any number of tasks can lead to in any order.
-/

namespace TunnelRelay

/-- The state of a session and whether its legs have been told to stop. -/
structure Lifecycle where
  state : RelayState
  cancelled : Bool
  deriving DecidableEq, Repr

namespace Lifecycle

/-- A session that waits for its first message. -/
def fresh : Lifecycle := ⟨.idle, false⟩

/-! ## Whole operations -/

/-- Moves from one state to another, if the session is in the first. -/
def transit (s : Lifecycle) (expect after : RelayState) : Except RelayError Lifecycle :=
  if s.state = expect then .ok { s with state := after }
  else .error (.invalidRelayState expect s.state)

/-- Closes the session and tells whether this call is the one that did. -/
def close (s : Lifecycle) : Bool × Lifecycle :=
  match s.state with
  | .closing | .closed => (false, s)
  | _ => (true, ⟨.closed, true⟩)

/-- What can be asked of a lifecycle. -/
inductive Operation where
  | transit (expect after : RelayState)
  | close
  deriving DecidableEq, Repr

/-- What the asker is told. -/
inductive Answer where
  /-- Whether the state was moved. -/
  | moved (r : Except RelayError Unit)
  /-- Whether this call did the close. -/
  | closed (won : Bool)

/-- One operation; a transit that finds another state changes nothing. -/
def perform (s : Lifecycle) : Operation → Answer × Lifecycle
  | .transit expect after =>
    match s.transit expect after with
    | .ok s' => (.moved (.ok ()), s')
    | .error e => (.moved (.error e), s)
  | .close => (.closed s.close.1, s.close.2)

/-- The answer to each of the operations, with what the lifecycle is after it. -/
def course (s : Lifecycle) : List Operation → List (Answer × Lifecycle)
  | [] => []
  | op :: ops => s.perform op :: (s.perform op).2.course ops

/-! ## Single actions -/

/-- Where a task that closes or moves a session stands. -/
inductive Task where
  /-- About to exchange `expect` for `to`. -/
  | transit (expect after : RelayState)
  /-- About to look at the state in order to close. -/
  | load
  /-- About to exchange the state it has seen for `closing`. -/
  | exchange (seen : RelayState)
  /-- Has moved the state to `closing` and is about to cancel the token. -/
  | cancel
  /-- Has cancelled the token and is about to store `closed`. -/
  | store
  /-- The transit has moved the state, or found it elsewhere. -/
  | moved (success : Bool)
  /-- The close has returned, and tells whether it did the close. -/
  | closed (won : Bool)
  deriving DecidableEq, Repr

namespace Task

/-- What a task that looks at the state in order to close does next. -/
def seeing : RelayState → Task
  | .closing | .closed => .closed false
  | seen => .exchange seen

/-- One atomic action of a task. -/
def step (t : Task) (s : Lifecycle) : Task × Lifecycle :=
  match t with
  | transit expect after =>
    if s.state = expect then (moved true, { s with state := after }) else (moved false, s)
  | load => (seeing s.state, s)
  | exchange seen =>
    if s.state = seen then (cancel, { s with state := .closing }) else (seeing s.state, s)
  | cancel => (store, { s with cancelled := true })
  | store => (closed true, { s with state := .closed })
  | moved b => (moved b, s)
  | closed b => (closed b, s)

end Task

/-- Tasks around one lifecycle. -/
structure Shared where
  tasks : List Task
  lifecycle : Lifecycle
  deriving DecidableEq, Repr

/-- One action of the task at place `i`. -/
def Shared.act (c : Shared) (i : Nat) : Shared :=
  match c.tasks[i]? with
  | none => c
  | some t =>
    let (t, s) := t.step c.lifecycle
    ⟨c.tasks.set i t, s⟩

/-- What the tasks can lead to, in whatever order they act. -/
inductive Reaches (c : Shared) : Shared → Prop
  | refl : Reaches c c
  | act {d : Shared} (i : Nat) : Reaches c d → Reaches c (d.act i)

/-- A task that closes on its own performs exactly `close`. -/
theorem run_close_alone (s : Lifecycle) :
    let run (p : Task × Lifecycle) := p.1.step p.2
    run (run (run (run (.load, s)))) = (.closed s.close.1, s.close.2) := by
  obtain ⟨state, cancelled⟩ := s
  cases state <;> rfl

end Lifecycle

end TunnelRelay
