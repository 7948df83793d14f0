/-!
# Failures of the operating system's streams

A read, a write, a connect or a file access that fails does so with a kind and a text. The kind
decides what the relay does next; the text is only ever shown.
-/

namespace TunnelRelay

namespace StreamError

/-- The kinds of failure the operating system reports. -/
inductive Kind where
  | notFound | permissionDenied | connectionRefused | connectionReset | hostUnreachable
  | networkUnreachable | connectionAborted | notConnected | addrInUse | addrNotAvailable
  | networkDown | brokenPipe | alreadyExists | wouldBlock | notADirectory | isADirectory
  | directoryNotEmpty | readOnlyFilesystem | staleNetworkFileHandle | invalidInput | invalidData
  | timedOut | writeZero | storageFull | notSeekable | quotaExceeded | fileTooLarge | resourceBusy
  | executableFileBusy | deadlock | crossesDevices | tooManyLinks | invalidFilename
  | argumentListTooLong | interrupted | unsupported | unexpectedEof | outOfMemory | other
  deriving DecidableEq, Repr

namespace Kind

/-- The kind's name as it is reported. -/
def name : Kind → String
  | notFound => "NotFound" | permissionDenied => "PermissionDenied"
  | connectionRefused => "ConnectionRefused" | connectionReset => "ConnectionReset"
  | hostUnreachable => "HostUnreachable" | networkUnreachable => "NetworkUnreachable"
  | connectionAborted => "ConnectionAborted" | notConnected => "NotConnected"
  | addrInUse => "AddrInUse" | addrNotAvailable => "AddrNotAvailable"
  | networkDown => "NetworkDown" | brokenPipe => "BrokenPipe" | alreadyExists => "AlreadyExists"
  | wouldBlock => "WouldBlock" | notADirectory => "NotADirectory" | isADirectory => "IsADirectory"
  | directoryNotEmpty => "DirectoryNotEmpty" | readOnlyFilesystem => "ReadOnlyFilesystem"
  | staleNetworkFileHandle => "StaleNetworkFileHandle" | invalidInput => "InvalidInput"
  | invalidData => "InvalidData" | timedOut => "TimedOut" | writeZero => "WriteZero"
  | storageFull => "StorageFull" | notSeekable => "NotSeekable" | quotaExceeded => "QuotaExceeded"
  | fileTooLarge => "FileTooLarge" | resourceBusy => "ResourceBusy"
  | executableFileBusy => "ExecutableFileBusy" | deadlock => "Deadlock"
  | crossesDevices => "CrossesDevices" | tooManyLinks => "TooManyLinks"
  | invalidFilename => "InvalidFilename" | argumentListTooLong => "ArgumentListTooLong"
  | interrupted => "Interrupted" | unsupported => "Unsupported" | unexpectedEof => "UnexpectedEof"
  | outOfMemory => "OutOfMemory" | other => "Other"

/-- Every kind, once. -/
def all : List Kind :=
  [notFound, permissionDenied, connectionRefused, connectionReset, hostUnreachable,
   networkUnreachable, connectionAborted, notConnected, addrInUse, addrNotAvailable, networkDown,
   brokenPipe, alreadyExists, wouldBlock, notADirectory, isADirectory, directoryNotEmpty,
   readOnlyFilesystem, staleNetworkFileHandle, invalidInput, invalidData, timedOut, writeZero,
   storageFull, notSeekable, quotaExceeded, fileTooLarge, resourceBusy, executableFileBusy,
   deadlock, crossesDevices, tooManyLinks, invalidFilename, argumentListTooLong, interrupted,
   unsupported, unexpectedEof, outOfMemory, other]

theorem mem_all (k : Kind) : k ∈ all := by cases k <;> decide

/-- The kind of that name. -/
def ofName? (s : String) : Option Kind := all.find? (·.name == s)

/-- The kinds after which nothing more can pass: the other side is gone. -/
def closesChannel : Kind → Bool
  | brokenPipe | connectionReset | connectionAborted | notConnected | unexpectedEof
  | writeZero => true
  | _ => false

end Kind

end StreamError

/-- A failed operation on a stream, a socket or a file. -/
structure StreamError where
  /-- What went wrong. -/
  kind : StreamError.Kind
  /-- How the failure is described. -/
  text : String
  deriving DecidableEq, Repr

end TunnelRelay
