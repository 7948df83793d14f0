import TunnelRelay.Frame.Codec
import TunnelRelay.Text.Quote
import TunnelRelay.Toml.Document

/-!
# Settings

A configuration file is a document whose keys are the settings. Every setting may be absent; keys
that name no setting are ignored, and a value of the wrong kind or out of range makes the whole file
unusable. The groups here are the settings that an agent and a proxy have in common.
-/

namespace TunnelRelay

/-- The two programs at the ends of a tunnel. -/
inductive Role where
  | agent | proxy
  deriving DecidableEq, Repr

namespace Role

/-- The program's name. -/
def name : Role → String
  | agent => "agent"
  | proxy => "proxy"

/-- The program at the other end. -/
def peer : Role → Role
  | agent => proxy
  | proxy => agent

/-- The file that the program is configured with. -/
def settingsFile (r : Role) : String := s!"ppaass-{r.name}.toml"

end Role

namespace Toml

/-- A whole number below a bound. -/
def Value.below? (bound : Nat) : Value → Option Nat
  | integer n => if 0 ≤ n ∧ n < bound then some n.toNat else none
  | _ => none

/-- A size or a time, which is at least zero. -/
def Value.size? (v : Value) : Option Nat := v.below? 0x8000000000000000

/-- A bound on repetitions. -/
def Value.count? (v : Value) : Option UInt32 := (v.below? UInt32.size).map UInt32.ofNat

/-- A port. -/
def Value.port? (v : Value) : Option UInt16 := (v.below? UInt16.size).map UInt16.ofNat

/-- A text. -/
def Value.text? : Value → Option String
  | text s => some s
  | _ => none

/-- A truth value. -/
def Value.boolean? : Value → Option Bool
  | boolean b => some b
  | _ => none

/-- Texts. -/
def Value.texts? : Value → Option (List String)
  | array items => items.mapM text?
  | _ => none

/-- A setting: absent, or a value of its kind. Any other value is a failure. -/
def Entries.setting? {α : Type} (es : Entries) (key : String) (read : Value → Option α) :
    Option (Option α) :=
  match es.lookup key with
  | none => some none
  | some v => (read v).map some

end Toml

namespace Settings

open Toml (Entries Value)

/-- How much is read and sent at once. -/
structure Frames where
  bufferSize : Option Nat
  maxFrameSize : Option Nat
  compress : Option Bool
  deriving DecidableEq, Repr

/-- How many threads do the work; times are in seconds. -/
structure Threads where
  master : Option Nat
  worker : Option Nat
  maxBlocking : Option Nat
  timeout : Option Nat
  deriving DecidableEq, Repr

/-- Where the log is written and how much of it. -/
structure Log where
  dir : Option String
  file : Option String
  level : Option String
  deriving DecidableEq, Repr

/-- The files with the program's own private key and the other end's public key. -/
structure KeyFiles where
  own : Option String
  remote : Option String
  deriving DecidableEq, Repr

namespace Frames

/-- The settings of frames in a document. -/
def ofEntries? (es : Entries) : Option Frames := do
  return ⟨← es.setting? "buffer_size" Value.size?, ← es.setting? "max_frame_size" Value.size?,
    ← es.setting? "compress" Value.boolean?⟩

/-- What the codec of a tunnel is configured with. -/
def limits (s : Frames) : Frame.Limits :=
  ⟨s.compress.getD false, s.maxFrameSize.getD Frame.defaultMaxFrameSize⟩

/-- The most that is read at once: at least one octet, and otherwise no more than has room in one
frame. -/
def pieceSize (s : Frames) : Nat :=
  max 1 (min (s.bufferSize.getD (64 * 1024)) (Frame.maxPayloadSize s.limits.maxFrameSize))

end Frames

namespace Threads

/-- The settings of threads in a document. -/
def ofEntries? (es : Entries) : Option Threads := do
  return ⟨← es.setting? "master_thread_number" Value.size?,
    ← es.setting? "worker_thread_number" Value.size?,
    ← es.setting? "max_blocking_threads" Value.size?, ← es.setting? "thread_timeout" Value.size?⟩

end Threads

namespace Log

/-- The settings of the log in a document. -/
def ofEntries? (es : Entries) : Option Log := do
  return ⟨← es.setting? "log_dir" Value.text?, ← es.setting? "log_file" Value.text?,
    ← es.setting? "log_level" Value.text?⟩

end Log

namespace KeyFiles

/-- The key files in a document. -/
def ofEntries? (role : Role) (es : Entries) : Option KeyFiles := do
  return ⟨← es.setting? s!"{role.name}_private_key_file" Value.text?,
    ← es.setting? s!"{role.peer.name}_public_key_file" Value.text?⟩

end KeyFiles

end Settings

/-- Why there are no settings. -/
inductive SettingsError where
  /-- The file cannot be read, or it is no text. -/
  | unreadable (role : Role) (path : String)
  /-- The text is no document, or a setting has a wrong value. -/
  | unusable (role : Role)
  deriving DecidableEq, Repr

/-- How the error is reported. -/
def SettingsError.message : SettingsError → String
  | unreadable role path => s!"Fail to read {role.name} configuration file: {Text.quote path}"
  | unusable role => s!"Fail to parse {role.name} configuration file."

namespace Settings

/-- The settings in the file at a path, of which the contents are given if it can be read. -/
def load {α : Type} (role : Role) (ofEntries? : Toml.Entries → Option α) (path : String)
    (contents : Option Bytes) : Except SettingsError α :=
  match contents.bind Bytes.toText? with
  | none => .error (.unreadable role path)
  | some text =>
    match (Toml.ofText? text).bind ofEntries? with
    | none => .error (.unusable role)
    | some settings => .ok settings

end Settings

end TunnelRelay
