import TunnelRelay.Bytes
import TunnelRelay.Message.Family

/-!
# Message bodies on the wire

A body is a type octet and five fields: id, user token and target host as UTF-8 texts behind a
four-octet length, the port in two octets, and the payload behind a four-octet length. Nothing may
follow the payload. `Body.encode` writes this form and `Body.decode` reads it, naming the field in
which a damaged body stops making sense.
-/

namespace TunnelRelay

/-- What a message says: its type, whom it is for and its payload. -/
structure Body (κ : Type) where
  /-- The message's own id. -/
  id : String
  kind : κ
  /-- The token of the user on whose behalf the tunnel is open. -/
  user : String
  /-- The target's host. -/
  host : String
  /-- The target's port. -/
  port : UInt16
  payload : Bytes
  deriving DecidableEq, Repr

namespace Body

/-- The parts of a body in the order in which they are written. -/
inductive Field where
  | bodyType | id | userToken | targetHost | targetPort | payload
  deriving DecidableEq, Repr

/-- How an error names the field. -/
def Field.name : Field → String
  | bodyType => "body type" | id => "id" | userToken => "user token"
  | targetHost => "target host" | targetPort => "target port" | payload => "payload"

/-! ## Writing -/

/-- Octets behind their count. -/
def counted (b : Bytes) : Bytes := Bytes.bigEndian32 b.length ++ b

/-- The octets of a body. -/
def encode {κ : Type} [Family κ] (m : Body κ) : Bytes :=
  Family.code m.kind :: counted (Bytes.ofText m.id) ++ counted (Bytes.ofText m.user)
    ++ counted (Bytes.ofText m.host) ++ Bytes.bigEndian16 m.port ++ counted m.payload

/-! ## Reading -/

/-- Reads octets behind their count and returns them with the rest. -/
def takeCounted (f : Field) (b : Bytes) : Except ProtocolError (Bytes × Bytes) :=
  match Bytes.split? 4 b with
  | none => .error (.truncated f.name)
  | some (count, r) =>
    match Bytes.split? (Bytes.ofBigEndian count) r with
    | none => .error (.truncated f.name)
    | some found => .ok found

/-- Reads a text behind its length and returns it with the rest. -/
def takeText (f : Field) (b : Bytes) : Except ProtocolError (String × Bytes) := do
  let (text, r) ← takeCounted f b
  match Bytes.toText? text with
  | none => .error (.invalidUtf8 f.name)
  | some s => .ok (s, r)

/-- Reads a port and returns it with the rest. -/
def takePort (b : Bytes) : Except ProtocolError (UInt16 × Bytes) :=
  match Bytes.split? 2 b with
  | none => .error (.truncated Field.targetPort.name)
  | some (port, r) => .ok (UInt16.ofNat (Bytes.ofBigEndian port), r)

/-- The body these octets spell. -/
def decode {κ : Type} [Family κ] : Bytes → Except ProtocolError (Body κ)
  | [] => .error (.truncated Field.bodyType.name)
  | code :: b => do
    let kind ← Family.read code
    let (id, b) ← takeText .id b
    let (user, b) ← takeText .userToken b
    let (host, b) ← takeText .targetHost b
    let (port, b) ← takePort b
    let (payload, b) ← takeCounted .payload b
    if b.isEmpty then .ok ⟨id, kind, user, host, port, payload⟩
    else .error (.trailingBytes b.length)

end Body

end TunnelRelay
