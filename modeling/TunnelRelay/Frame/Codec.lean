import TunnelRelay.Frame.Length
import TunnelRelay.Frame.Seal

/-!
# The tunnel codec

A codec turns messages into frames and a stream of octets back into messages. With compression the
contents of every frame are compressed, and a reader refuses a declared size above its limit before
it expands anything. A frame that does not read is consumed whole, so the frames around it are not
affected.
-/

namespace TunnelRelay.Frame

/-- What both ends of a tunnel are configured with. -/
structure Limits where
  /-- Whether frames are compressed. -/
  compress : Bool
  /-- The largest contents of a frame, before and after compression. -/
  maxFrameSize : Nat
  deriving DecidableEq, Repr

/-- The largest frame unless configured. -/
def defaultMaxFrameSize : Nat := 256 * 1024

/-- The limit on a frame's length: no length needs more than four octets. -/
def Limits.length (l : Limits) : Nat := min l.maxFrameSize maxLength

/-- Room for the marker, the sealed token, the padding and the fields beside the payload. -/
def messageOverhead : Nat := 8 * 1024

/-- The largest payload whose message still fits in one frame, compressed or not: compression may
add a four-octet size and one octet in 255 and sixteen more. -/
def maxPayloadSize (maxFrameSize : Nat) : Nat :=
  (maxFrameSize - 20) / 256 * 255 - messageOverhead

/-- Refuses a declared size that is negative or above the limit. -/
def checkDeclaredSize (limit : Nat) (contents : Bytes) : Except ProtocolError Unit :=
  match Bytes.split? 4 contents with
  | none => .error (.truncated "decompressed size")
  | some (size, _) =>
    let n := Bytes.ofLittleEndian size
    let declared : Int := if 0x80000000 ≤ n then Int.ofNat n - 0x100000000 else n
    if declared < 0 ∨ (limit : Int) < declared then .error (.decompressedSizeTooLarge declared)
    else .ok ()

/-- The contents of a frame without compression. -/
def inflate (w : Means) (l : Limits) (contents : Bytes) : Except ProtocolError Bytes :=
  if l.compress then do
    checkDeclaredSize l.maxFrameSize contents
    (w.decompress contents).mapError .decompress
  else .ok contents

/-- The message in one frame. -/
def open? {κ : Type} [Family κ] (w : Means) (l : Limits) (contents : Bytes) :
    Except RelayError (Message κ) := do
  let plain ← (inflate w l contents).mapError .protocol
  read w plain

/-- The next message of a stream, or nothing while its frame is not complete. -/
def decode {κ : Type} [Family κ] (w : Means) (l : Limits) (s : Inbound) :
    Except RelayError (Option (Message κ)) × Inbound :=
  match next l.length s with
  | (.error e, s) => (.error (.stream e), s)
  | (.ok none, s) => (.ok none, s)
  | (.ok (some contents), s) => ((open? w l contents).map some, s)

/-- The frame of a message, appended to what waits to be sent. -/
def encode {κ : Type} [Family κ] (w : Means) (l : Limits) (m : Message κ) (out : Bytes) :
    Except RelayError Bytes := do
  let plain ← write w m
  let contents ← if l.compress then (w.compress plain).mapError .stream else .ok plain
  (put l.length contents out).mapError .stream

/-- The frame of a message goes behind what waits. -/
def encodeOnto {κ : Type} [Family κ] (w : Means) (l : Limits) (m : Message κ) :
    Appending RelayError Unit := do
  let plain ← MonadExcept.ofExcept (write w m)
  let contents ← MonadExcept.ofExcept
    (if l.compress then (w.compress plain).mapError .stream else .ok plain)
  (putOnto l.length contents).adapt .stream

end TunnelRelay.Frame
