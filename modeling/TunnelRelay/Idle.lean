/-!
# Idle channels

A channel is idle for reading as long as nothing has been read, for writing as long as nothing has
been written, and altogether idle while both hold. Each kind has a threshold in milliseconds or is
not watched. A watcher looks at the channel once per tick, a quarter of the least threshold.
-/

namespace TunnelRelay

/-- In which way a channel has been idle for too long. -/
inductive IdleEvent where
  | readerIdle | writerIdle | allIdle
  deriving DecidableEq, Repr

/-- The event's name. -/
def IdleEvent.name : IdleEvent → String
  | readerIdle => "ReaderIdle" | writerIdle => "WriterIdle" | allIdle => "AllIdle"

/-- For how long a channel may be idle, in milliseconds; nothing means without end. -/
structure IdleThresholds where
  read : Option Nat
  write : Option Nat
  all : Option Nat
  deriving DecidableEq, Repr

namespace IdleThresholds

/-- Thresholds in seconds, where 0 stands for no threshold. -/
def ofSeconds (read write all : Nat) : IdleThresholds :=
  let ms (s : Nat) := if s = 0 then none else some (1000 * s)
  ⟨ms read, ms write, ms all⟩

/-- A quarter of the least threshold, but at least ten milliseconds. -/
def tick (t : IdleThresholds) : Option Nat :=
  ([t.read, t.write, t.all].filterMap id).min?.map fun least => max (least / 4) 10

/-- A threshold that is set and has been reached. -/
def reached (threshold : Option Nat) (idle : Nat) : Bool :=
  match threshold with
  | none => false
  | some t => t ≤ idle

/-- The event of a channel that has not been read and not been written for the given times. The
threshold for both comes first, then reading, then writing. -/
def event (t : IdleThresholds) (read write : Nat) : Option IdleEvent :=
  if reached t.all read && reached t.all write then some .allIdle
  else if reached t.read read then some .readerIdle
  else if reached t.write write then some .writerIdle
  else none

/-- The first event among the next `ticks` looks at the channel, with the time waited for it; `idle`
gives the idle times after each wait. -/
def nextEvent (t : IdleThresholds) (idle : Nat → Nat × Nat) (ticks : Nat) :
    Option (IdleEvent × Nat) :=
  t.tick.bind fun tick =>
    (List.range ticks).findSome? fun k =>
      let waited := (k + 1) * tick
      let (read, write) := idle waited
      (t.event read write).map (·, waited)

end IdleThresholds

/-- When a channel was last read and last written, in milliseconds of its own clock. -/
structure IdleTracker where
  lastRead : Nat
  lastWrite : Nat
  deriving DecidableEq, Repr

namespace IdleTracker

/-- A channel whose clock starts now. -/
def fresh : IdleTracker := ⟨0, 0⟩

/-- The channel has been read. -/
def markRead (c : IdleTracker) (now : Nat) : IdleTracker := { c with lastRead := now }

/-- The channel has been written. -/
def markWrite (c : IdleTracker) (now : Nat) : IdleTracker := { c with lastWrite := now }

/-- For how long the channel has not been read and not been written. -/
def idle (c : IdleTracker) (now : Nat) : Nat × Nat := (now - c.lastRead, now - c.lastWrite)

/-- The event of the channel at a time. -/
def event (c : IdleTracker) (t : IdleThresholds) (now : Nat) : Option IdleEvent :=
  t.event (c.idle now).1 (c.idle now).2

end IdleTracker

end TunnelRelay
