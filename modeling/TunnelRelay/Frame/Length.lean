import TunnelRelay.Bytes
import TunnelRelay.Error

/-!
# Length-delimited frames

A frame is its length in four octets and then its contents. A reader sees the stream in pieces of
any size, so it remembers a length that it has taken off the front until the contents are there. A
length above the limit is left where it is: every later read finds it again and fails again.
-/

namespace TunnelRelay.Frame

/-- The largest length that four octets can say. -/
def maxLength : Nat := UInt32.size - 1

/-- What is known of a stream of frames: octets not yet read, and the length of the frame whose
length has been read already. -/
structure Inbound where
  buffer : Bytes
  awaited : Option Nat
  deriving DecidableEq, Repr

namespace Inbound

/-- A stream of which nothing has come. -/
def empty : Inbound := ⟨[], none⟩

/-- More octets come. -/
def push (s : Inbound) (b : Bytes) : Inbound := { s with buffer := s.buffer ++ b }

end Inbound

/-- A frame is longer than it may be. -/
def tooBig (kind : StreamError.Kind) : StreamError := ⟨kind, "frame size too big"⟩

/-- Takes the contents of a frame of `n` octets off the front, or waits for them. -/
def takeContents (n : Nat) (buffer : Bytes) : Option Bytes × Inbound :=
  match Bytes.split? n buffer with
  | some (contents, r) => (some contents, ⟨r, none⟩)
  | none => (none, ⟨buffer, some n⟩)

/-- The contents of the next frame, or nothing while they are not complete. -/
def next (limit : Nat) (s : Inbound) : Except StreamError (Option Bytes) × Inbound :=
  match s.awaited with
  | some n =>
    let (contents, s) := takeContents n s.buffer
    (.ok contents, s)
  | none =>
    match Bytes.split? 4 s.buffer with
    | none => (.ok none, s)
    | some (length, r) =>
      let n := Bytes.ofBigEndian length
      if limit < n then (.error (tooBig .invalidData), s)
      else
        let (contents, s) := takeContents n r
        (.ok contents, s)

/-- A frame around the contents, appended to what waits to be sent. -/
def put (limit : Nat) (contents out : Bytes) : Except StreamError Bytes :=
  if limit < contents.length then .error (tooBig .invalidInput)
  else .ok (out ++ Bytes.bigEndian32 contents.length ++ contents)

/-! ## Onto what waits

A sender works on the octets that wait to be sent. What it has put behind them by the time it fails
stays there.
-/

/-- Work on the octets that wait to be sent. A failure takes nothing back. -/
abbrev Appending (ε : Type) := ExceptT ε (StateM Bytes)

/-- What some work comes to, and the octets that wait after it. -/
def Appending.on {ε α : Type} (work : Appending ε α) (out : Bytes) : Except ε α × Bytes :=
  StateT.run (ExceptT.run work) out

/-- Octets go behind those that wait. -/
def emit {ε : Type} (b : Bytes) : Appending ε Unit := modify (· ++ b)

/-- A frame around the contents goes behind what waits: its length, and then the contents. -/
def putOnto (limit : Nat) (contents : Bytes) : Appending StreamError Unit := do
  if limit < contents.length then throw (tooBig .invalidInput)
  emit (Bytes.bigEndian32 contents.length)
  emit contents

end TunnelRelay.Frame
