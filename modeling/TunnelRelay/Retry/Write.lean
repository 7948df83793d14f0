import TunnelRelay.Bytes
import TunnelRelay.Retry.Policy

/-!
# Writing all octets

A writer takes what it can of the octets offered to it, or fails, or is not ready. `writeAll`
offers the octets that have not been taken yet until all are taken, then flushes. A failure that
may pass is retried after a pause, writes and flushes counting together; an interrupted write is
repeated at once and does not count.

The writer enters as the list of what it will answer to each call; after the list it takes
everything. The run records what was received and every call, so that the whole course can be
spoken of.
-/

namespace TunnelRelay

/-- A writer's answer to a write. -/
inductive WriteAnswer where
  /-- At most this many octets are taken. -/
  | takes (most : Nat)
  | fails (e : StreamError)
  | notReady
  deriving DecidableEq, Repr

/-- A writer's answer to a flush. -/
inductive FlushAnswer where
  | done
  | fails (e : StreamError)
  | notReady
  deriving DecidableEq, Repr

/-- A call on a writer. -/
inductive WriterCall where
  /-- A write to which these octets were offered. -/
  | write (offered : Bytes)
  | flush
  deriving DecidableEq, Repr

/-- The course of writing all octets. -/
structure WriteRun where
  result : Except RelayError Unit
  /-- The octets that the writer took. -/
  received : Bytes
  /-- Every call, in order. -/
  calls : List WriterCall
  /-- The number of pauses. -/
  pauses : Nat

namespace WriteRun

/-- Nothing more happens. -/
def finish (result : Except RelayError Unit) : WriteRun := ⟨result, [], [], 0⟩

/-- A call comes before. -/
def after (c : WriterCall) (r : WriteRun) : WriteRun := { r with calls := c :: r.calls }

/-- Octets were taken before. -/
def taking (b : Bytes) (r : WriteRun) : WriteRun := { r with received := b ++ r.received }

/-- A pause was made before. -/
def pausing (r : WriteRun) : WriteRun := { r with pauses := r.pauses + 1 }

/-- The time slept, with pauses of `interval`. -/
def slept (r : WriteRun) (interval : Nat) : Nat := r.pauses * interval

end WriteRun

/-- Flushes a writer, after `failures` failed calls. -/
def flushAll (limit : UInt32) : List FlushAnswer → UInt32 → WriteRun
  | [], _ | .done :: _, _ => .after .flush (.finish (.ok ()))
  | .notReady :: script, failures => .after .flush (flushAll limit script failures)
  | .fails e :: script, failures =>
    .after .flush <|
      match Verdict.of limit failures e with
      | .stop e => .finish (.error e)
      | .again failures => .pausing (flushAll limit script failures)

/-- Writes the rest of the data and flushes, after `failures` failed calls. -/
def writeRest (limit : UInt32) (flushes : List FlushAnswer) :
    List WriteAnswer → Bytes → UInt32 → WriteRun
  | _, [], failures => flushAll limit flushes failures
  | [], b :: data, failures =>
    .after (.write (b :: data)) (.taking (b :: data) (flushAll limit flushes failures))
  | answer :: script, b :: data, failures =>
    .after (.write (b :: data)) <|
      match answer with
      | .notReady => writeRest limit flushes script (b :: data) failures
      | .takes 0 => .finish (.error (.channelClosed "write returned zero bytes"))
      | .takes (n + 1) =>
        .taking ((b :: data).take (n + 1))
          (writeRest limit flushes script ((b :: data).drop (n + 1)) failures)
      | .fails e =>
        if e.kind = .interrupted then writeRest limit flushes script (b :: data) failures
        else
          match Verdict.of limit failures e with
          | .stop e => .finish (.error e)
          | .again failures => .pausing (writeRest limit flushes script (b :: data) failures)

/-- Writes all data to a writer that answers as the two scripts say. -/
def writeAll (limit : UInt32) (writes : List WriteAnswer) (flushes : List FlushAnswer)
    (data : Bytes) : WriteRun :=
  writeRest limit flushes writes data 0

end TunnelRelay
