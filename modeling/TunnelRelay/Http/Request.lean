import TunnelRelay.Http.Head
import TunnelRelay.Text.Blank
import TunnelRelay.Text.Case
import TunnelRelay.Url

/-!
# Requests

A request is a head together with what it says about the octets after it: how long the body is, or
that nobody but the target can tell. A client that talks to a relay names the target in the request
line; `targetAddress` reads it from there or from the host header, and `toBytes` writes the head as
the target expects it, without the headers that are meant for the relay.
-/

namespace TunnelRelay.Http

/-- Why a client's octets are no request that can be relayed. -/
inductive Error where
  /-- The head does not parse. -/
  | malformed (cause : HeadError)
  /-- The head does not end within the limit. -/
  | headTooLarge
  /-- The length of the body is not a number. -/
  | invalidContentLength
  /-- A body came where a head was due. -/
  | bodyBeforeHead
  /-- Neither the target nor a host header names a host. -/
  | noHostHeader (target : String)
  /-- The authority does not parse. -/
  | badAuthority (target : String) (cause : Url.Error)
  /-- The authority has no host. -/
  | noHost (target : String)
  /-- The authority has no port and its scheme has none either. -/
  | noPort (target : String)
  deriving DecidableEq, Repr

/-- What is wrong with a request. -/
def Error.detail : Error → String
  | malformed e => e.message
  | headTooLarge => "request head is too large"
  | invalidContentLength => "invalid content length"
  | bodyBeforeHead => "body before request head"
  | noHostHeader target => s!"no host header for target: {target}"
  | badAuthority target e => s!"{target}: {e.message}"
  | noHost target => s!"no host in target: {target}"
  | noPort target => s!"no port in target: {target}"

/-- How an error is reported. -/
def Error.message (e : Error) : String :=
  match e with
  | malformed _ => "Fail to parse http request: " ++ e.detail
  | _ => "Invalid http request: " ++ e.detail

/-- The error's name as it is reported. -/
def Error.name : Error → String
  | malformed e => "HttpParse::" ++ e.name
  | _ => "InvalidHttpRequest"

/-- A head and what it says about the octets after it. -/
structure Request where
  head : Head
  /-- How many octets of body follow. -/
  contentLength : Nat
  /-- The body is in pieces that only the target reads. -/
  chunked : Bool
  deriving DecidableEq, Repr

namespace Head

/-! ## Headers -/

/-- The values of the headers of that name. -/
def values (h : Head) (name : String) : List Bytes :=
  (h.headers.filter fun x => Text.sameWord x.name (Bytes.ofText name)).map (·.value)

/-- Whether a header of that name lists the word. -/
def lists (h : Head) (name word : String) : Bool :=
  (h.values name).any fun v =>
    match Bytes.toText? v with
    | none => false
    | some s =>
      (Text.fields ',' s.toList).any fun f =>
        Text.sameWord (Bytes.ofText (String.ofList (Text.strip f))) (Bytes.ofText word)

/-- The client asks for an opaque stream to the target. -/
def isConnect (h : Head) : Bool := Text.sameWord h.method (Bytes.ofText "CONNECT")

/-- Whether the connection to the target is to be kept. -/
def isKeepAlive (h : Head) : Bool :=
  let asks (word : String) := h.lists "Connection" word || h.lists "Proxy-Connection" word
  !asks "close" && (asks "keep-alive" || 1 ≤ h.minorVersion)

/-- Whether the body comes in pieces. -/
def isChunked (h : Head) : Bool :=
  (h.values "Transfer-Encoding").any fun v =>
    (Bytes.toText? v).isSome && Text.occurs (Bytes.ofText "chunked") (Text.lower v)

/-- The largest length of a body. -/
def maxContentLength : Nat := UInt64.size - 1

/-- The length of a body that the first header about it declares. -/
def declaredLength (h : Head) : Except Error Nat :=
  match h.values "Content-Length" with
  | [] => .ok 0
  | v :: _ =>
    match (Bytes.toText? v).bind fun s => Text.unsigned? maxContentLength (Text.strip s.toList) with
    | some n => .ok n
    | none => .error .invalidContentLength

/-- The request that begins with this head. -/
def request (h : Head) : Except Error Request :=
  if h.isChunked || h.isConnect then .ok ⟨h, 0, h.isChunked⟩
  else h.declaredLength.map (⟨h, ·, false⟩)

/-! ## Targets -/

/-- The start of a target that names its host. -/
def httpStart : List Char := "http://".toList

/-- Whether the target names its host. -/
def namesHost (h : Head) : Bool :=
  (h.target.toList.take httpStart.length).map Char.toLower == httpStart

/-- The URL that names the target's host. -/
def authority (h : Head) : Except Error (List Char) :=
  if h.isConnect then .ok ("https://".toList ++ h.target.toList)
  else if h.namesHost then .ok h.target.toList
  else
    match (h.values "Host").head?.bind Bytes.toText? with
    | some s => .ok (httpStart ++ Text.strip s.toList)
    | none => .error (.noHostHeader h.target)

/-- The host and the port that the request is for. -/
def targetAddress (h : Head) : Except Error (String × UInt16) := do
  let url ← (Url.ofText (← h.authority)).mapError (.badAuthority h.target)
  match url.host, url.portOrDefault with
  | some host, some port => .ok (host.toText, UInt16.ofNat port)
  | none, _ => .error (.noHost h.target)
  | some _, none => .error (.noPort h.target)

/-- The target as its own host expects it: a path and a query. -/
def originTarget (h : Head) : String :=
  match Url.ofText h.target.toList with
  | .ok url =>
    if h.isConnect || url.host.isNone then h.target
    else
      match url.query with
      | some q => String.ofList (url.path ++ '?' :: q)
      | none => String.ofList url.path
  | .error _ => h.target

/-! ## Writing -/

/-- Headers that are meant for the relay. -/
def isForRelay (x : Header) : Bool :=
  Text.sameWord x.name (Bytes.ofText "Proxy-Connection")
    || Text.sameWord x.name (Bytes.ofText "Proxy-Authorization")

/-- The end of every line that is written. -/
def newLine : Bytes := [13, 10]

/-- A header line. -/
def headerLine (x : Header) : Bytes := x.name ++ Bytes.ofText ": " ++ x.value ++ newLine

/-- The head as the target expects it. -/
def toBytes (h : Head) : Bytes :=
  h.method ++ Bytes.ofText s!" {h.originTarget} HTTP/1.{h.minorVersion}" ++ newLine
    ++ (h.headers.filter (!isForRelay ·)).flatMap headerLine ++ newLine

end Head

end TunnelRelay.Http
