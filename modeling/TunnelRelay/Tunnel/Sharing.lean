import TunnelRelay.Frame.Codec
import TunnelRelay.Retry.Write

/-!
# The writer of a tunnel

All messages of one end go through one writer, which the tasks of a session share. A call that sends
a message waits for its turn, turns the message into a frame behind the octets that still wait,
offers these to the stream until none is left, and gives the turn back; the calls get their turns in
any order. A failure that may pass is retried after a pause; one that is given up leaves the octets
where they are, so the next message takes them along. Before a frame is added to a lot of waiting
octets, these have to go out first, and that is tried only once. A stream that is not ready has the
call look again how many octets wait.

Here a call does one thing at a time, and whenever it offers octets to the stream, the stream gives
any answer. What has gone through the writer stays in sight: the octets that the stream took and the
turns that the calls had.
-/

namespace TunnelRelay.Tunnel

/-- The stream takes nothing, as if it were gone. -/
def takesNothing : StreamError := ⟨.writeZero, "failed to write frame to transport"⟩

/-- What a failure before the frame was there is reported as. -/
def early : RelayError → RelayError
  | .stream e => if e.kind.closesChannel then .channelClosed e.text else .stream e
  | e => e

/-- With this many waiting octets no frame is added. -/
def highWater : Nat := 8 * 1024

/-- Where a call that sends a message stands. -/
inductive Stage where
  /-- It waits for its turn. -/
  | queued
  /-- It looks how many octets wait. -/
  | looking
  /-- It gets the waiting octets out of the way of its frame. -/
  | clearing
  /-- It is about to put its frame behind the waiting octets. -/
  | encoding
  /-- It gets all out, and has retried after so many failures. -/
  | flushing (failures : UInt32)
  /-- It has returned, and its frame was there or not. -/
  | returned (encoded : Bool) (result : Except RelayError Unit)

/-- The octets that the frames consist of: those that the stream took and those that wait. -/
structure Outbound where
  accepted : Bytes
  pending : Bytes
  deriving DecidableEq, Repr

/-- The stream takes at most `n` octets. -/
def Outbound.take (o : Outbound) (n : Nat) : Outbound :=
  ⟨o.accepted ++ o.pending.take n, o.pending.drop n⟩

namespace Stage

/-- It is the call's turn. -/
def hasTurn : Stage → Bool
  | queued | returned _ _ => false
  | _ => true

/-- The call's frame is among the octets. -/
def encoded : Stage → Bool
  | flushing _ => true
  | returned b _ => b
  | _ => false

/-- What the verdict on a failed flush leads to. -/
def judged : Verdict → Stage
  | .stop e => returned true (.error e)
  | .again failures => flushing failures

/-- Octets are offered to the stream, and it has its say on how the call goes on. -/
def offer (o : Outbound) (waiting going : Stage) (failed : StreamError → Stage) :
    WriteAnswer → Stage × Outbound
  | .notReady => (waiting, o)
  | .takes 0 => (failed takesNothing, o)
  | .takes (n + 1) => (going, o.take (n + 1))
  | .fails e => (failed e, o)

/-- The next thing that a call does. The answer counts if octets are offered. -/
def step (limit : UInt32) (encode : Bytes → Except RelayError Bytes) (answer : WriteAnswer)
    (o : Outbound) : Stage → Stage × Outbound
  | queued => (looking, o)
  | looking => (if highWater ≤ o.pending.length then clearing else encoding, o)
  | clearing =>
    if o.pending = [] then (encoding, o)
    else offer o looking clearing (fun e => returned false (.error (early (.stream e)))) answer
  | encoding =>
    match encode o.pending with
    | .ok pending => (flushing 0, ⟨o.accepted, pending⟩)
    | .error e => (returned false (.error (early e)), o)
  | flushing failures =>
    if o.pending = [] then (returned true (.ok ()), o)
    else
      offer o (flushing failures) (flushing failures) (fun e => judged (.of limit failures e))
        answer
  | returned encoded result => (returned encoded result, o)

end Stage

open TunnelRelay.Frame

/-- A call that sends a message. The means are the call's own because each sealing of a token takes
other noise. -/
structure Call (κ : Type) [Family κ] where
  message : Message κ
  means : Means
  stage : Stage

/-- The next thing that a call does. -/
def Call.step {κ : Type} [Family κ] (limit : UInt32) (l : Limits) (answer : WriteAnswer)
    (o : Outbound) (call : Call κ) : Call κ × Outbound :=
  let (stage, o) := call.stage.step limit (encode call.means l call.message) answer o
  ({ call with stage }, o)

/-- Calls around one writer. -/
structure Shared (κ : Type) [Family κ] where
  calls : List (Call κ)
  outbound : Outbound
  /-- The places of the calls that have had their turn, in the order in which they got it. -/
  turns : List Nat

variable {κ : Type} [Family κ]

/-- Calls that are about to be made, and a writer that nothing has gone through. -/
def Shared.start (messages : List (Message κ × Means)) : Shared κ :=
  ⟨messages.map fun (m, w) => ⟨m, w, .queued⟩, ⟨[], []⟩, []⟩

/-- It is nobody's turn. -/
def Shared.isFree (c : Shared κ) : Bool := c.calls.all fun call => !call.stage.hasTurn

/-- The call at place `i` does the next thing, which while it is another's turn is to go on
waiting. -/
def Shared.act (limit : UInt32) (l : Limits) (c : Shared κ) (i : Nat) (answer : WriteAnswer) :
    Shared κ :=
  match c.calls[i]? with
  | none => c
  | some call =>
    let (after, outbound) := call.step limit l answer c.outbound
    match call.stage with
    | .queued => if c.isFree then ⟨c.calls.set i after, outbound, c.turns ++ [i]⟩ else c
    | _ => ⟨c.calls.set i after, outbound, c.turns⟩

/-- What the calls can lead to, in whatever order they act and whatever the stream answers. -/
inductive Shared.Reaches (limit : UInt32) (l : Limits) (c : Shared κ) : Shared κ → Prop
  | refl : Reaches limit l c c
  | act {d : Shared κ} (i : Nat) (answer : WriteAnswer) :
    Reaches limit l c d → Reaches limit l c (d.act limit l i answer)

/-- The frame of a call if it is among the octets. -/
def Call.frame? (l : Limits) (call : Call κ) : Option Bytes :=
  if call.stage.encoded then (encode call.means l call.message []).toOption else none

/-- The frames that have been made, in the order of the turns. -/
def Shared.frames (l : Limits) (c : Shared κ) : List Bytes :=
  c.turns.filterMap fun i => c.calls[i]?.bind (Call.frame? l)

/-- The call at place `i` has returned with a result. -/
def Shared.Returns (c : Shared κ) (i : Nat) (result : Except RelayError Unit) : Prop :=
  ∃ call encoded, c.calls[i]? = some call ∧ call.stage = .returned encoded result

end TunnelRelay.Tunnel
