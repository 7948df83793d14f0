import TunnelRelay.Text.Decimal
import TunnelRelay.Url.Host
import TunnelRelay.Url.Path

/-!
# URLs

`Url.ofText` reads an absolute URL: a scheme, and then for the schemes of the web a host, an
optional port, a path, a query and a fragment, of which nothing is kept. Other schemes need two
slashes before a host. White space at the ends and line breaks and tabs anywhere are no part of a
URL.
-/

namespace TunnelRelay

/-- What a URL says about where to connect and what to ask for. -/
structure Url where
  scheme : List Char
  host : Option Url.Host
  /-- The port, unless it is absent or the scheme's own. -/
  port : Option Nat
  path : List Char
  query : Option (List Char)
  deriving DecidableEq, Repr

namespace Url

/-! ## Schemes -/

/-- How a scheme treats what follows it. -/
inductive Scheme where
  /-- A scheme of the web: it has a host and a port of its own. -/
  | web
  /-- Files have a host and no port. -/
  | file
  /-- Any other scheme. -/
  | other
  deriving DecidableEq, Repr

/-- The port of a scheme of the web. -/
def defaultPort (scheme : List Char) : Option Nat :=
  match String.ofList scheme with
  | "http" | "ws" => some 80
  | "https" | "wss" => some 443
  | "ftp" => some 21
  | _ => none

/-- The class of a scheme. -/
def Scheme.of (scheme : List Char) : Scheme :=
  if (defaultPort scheme).isSome then .web
  else if scheme = ['f', 'i', 'l', 'e'] then .file
  else .other

/-- Whether the character divides segments of a path. -/
def Scheme.divides (s : Scheme) (c : Char) : Bool := c == '/' || (c == '\\' && s != .other)

/-- Whether the character ends a host and its port. -/
def Scheme.endsAuthority (s : Scheme) (c : Char) : Bool := s.divides c || c == '?' || c == '#'

/-- The characters of a scheme after its first. -/
def isSchemeCharacter (c : Char) : Bool := c.isAlphanum || c == '+' || c == '-' || c == '.'

/-- The scheme in lower case and what follows its colon. -/
def cutScheme? (cs : List Char) : Option (List Char × List Char) :=
  match Text.cut? ':' cs with
  | some (c :: s, r) =>
    if c.isAlpha && s.all isSchemeCharacter then some ((c :: s).map Char.toLower, r) else none
  | _ => none

/-! ## Parts -/

/-- What stands before the first character that satisfies `p`, and the rest. -/
def before (p : Char → Bool) (cs : List Char) : List Char × List Char :=
  (cs.takeWhile (!p ·), cs.dropWhile (!p ·))

/-- What stands before the port's colon and the rest; a colon between brackets is no port's. -/
def cutPort (inside : Bool) : List Char → List Char × List Char
  | [] => ([], [])
  | ':' :: cs => if inside then consFst ':' (cutPort inside cs) else ([], ':' :: cs)
  | '[' :: cs => consFst '[' (cutPort true cs)
  | ']' :: cs => consFst ']' (cutPort false cs)
  | c :: cs => consFst c (cutPort inside cs)
where
  /-- The pair with one more character in front of its first part. -/
  consFst (c : Char) (p : List Char × List Char) : List Char × List Char := (c :: p.1, p.2)

/-- The number of a port, and what a backslash cuts off; no digits are no port. -/
def readPort (cs : List Char) : Except Error (Option Nat × List Char) :=
  let (digits, rest) := before (· == '\\') cs
  if digits = [] then .ok (none, rest)
  else
    match (Text.numeral? 10 0 digits).filter (· < 65536) with
    | some n => .ok (some n, rest)
    | none => .error .invalidPort

/-- What an authority says: a host, a port that is not the scheme's own, and what of it belongs to
the path. -/
structure Authority where
  host : Option Host
  port : Option Nat
  rest : List Char

/-- The host and the port of an authority without its user. -/
def hostAndPort (s : Scheme) (scheme cs : List Char) : Except Error Authority := do
  let (h, p) := cutPort false cs
  if h = [] ∧ (p ≠ [] ∨ s = .web) then .error .emptyHost
  else
    let host ← if s = .web then (webHost h).map some else otherHost h
    let (port, rest) ← readPort (p.drop 1)
    return ⟨host, port.filter (some · ≠ defaultPort scheme), rest⟩

/-- An authority that `rest` follows. A user before the last at sign needs a host. -/
def readAuthority (s : Scheme) (scheme cs rest : List Char) : Except Error Authority :=
  match Text.cutLast? '@' cs with
  | none => hostAndPort s scheme cs
  | some (user, cs) =>
    if user = [] ∧ cs = [] ∧ rest ≠ [] then .error .emptyHost
    else do
      let a ← hostAndPort s scheme cs
      if a.host = none ∧ user ≠ [] ∧ user ≠ [':'] then .error .emptyHost else return a

/-- The path, which may start with a slash, and what follows it. -/
def cutPath (s : Scheme) (cs : List Char) : List (List Char) × List Char :=
  let (p, r) := before (fun c => c == '?' || c == '#') cs
  let p := match p with
    | c :: t => if s.divides c then t else p
    | [] => p
  (segments s.divides (percentEncode .path p), r)

/-- The query of what follows the path. -/
def readQuery (s : Scheme) : List Char → Option (List Char)
  | '?' :: cs =>
    let set := if s = .other then EncodeSet.query else .specialQuery
    some (percentEncode set (before (· == '#') cs).1)
  | _ => none

/-- The text of a path under a scheme. Only other schemes than those of the web leave an empty path
empty, and the paths of files start with one slash. -/
def pathText (s : Scheme) (cs : List Char) (segments : List (List Char)) : List Char :=
  let text := joinPath (normalize [] segments).reverse
  match s with
  | .web => text
  | .file => '/' :: text.dropWhile (· == '/')
  | .other =>
    match cs with
    | [] | '?' :: _ | '#' :: _ => []
    | _ => text

/-- A URL with an authority. -/
def withAuthority (s : Scheme) (scheme cs : List Char) : Except Error Url := do
  let (cs, rest) := before s.endsAuthority cs
  let a ← readAuthority s scheme cs rest
  let rest := a.rest ++ rest
  let (segments, r) := cutPath s rest
  return ⟨scheme, a.host, a.port, pathText s rest segments, readQuery s r⟩

/-- A URL without an authority. -/
def withoutAuthority (s : Scheme) (scheme cs : List Char) : Url :=
  let (segments, r) := cutPath s cs
  ⟨scheme, none, none, pathText s cs segments, readQuery s r⟩

/-- A URL of a file with a host, which a drive letter in the place of the host or anywhere in the
path makes a file of this machine. -/
def fileWithHost (scheme cs : List Char) : Except Error Url := do
  let (h, rest) := before (Scheme.endsAuthority .file) cs
  if h = [] ∨ isDriveLetter h then return withoutAuthority .file scheme cs
  else
    let host ← webHost h
    let (segments, r) := cutPath .file rest
    let isHere := host = .name "localhost".toList ∨ segments.any isDriveLetter
    return ⟨scheme, if isHere then none else some host, none, pathText .file rest segments,
      readQuery .file r⟩

/-- The characters that are no part of a URL at its ends. -/
def isOutside (c : Char) : Bool := c.toNat ≤ 0x20

/-- The characters that are no part of a URL anywhere. -/
def isIgnored (c : Char) : Bool := c == '\t' || c == '\n' || c == '\r'

/-- The text of the URL itself. -/
def trim (cs : List Char) : List Char :=
  let inner := ((cs.dropWhile isOutside).reverse.dropWhile isOutside).reverse
  inner.filter (!isIgnored ·)

/-- The URL that a text spells. -/
def ofText (cs : List Char) : Except Error Url :=
  match cutScheme? (trim cs) with
  | none => .error .noScheme
  | some (scheme, cs) =>
    match Scheme.of scheme with
    | .web => withAuthority .web scheme (cs.dropWhile (Scheme.divides .web))
    | .file =>
      match cs with
      | c :: d :: r =>
        if Scheme.divides .file c && Scheme.divides .file d then fileWithHost scheme r
        else .ok (withoutAuthority .file scheme cs)
      | _ => .ok (withoutAuthority .file scheme cs)
    | .other =>
      match cs with
      | '/' :: '/' :: r => withAuthority .other scheme r
      | _ => .ok (withoutAuthority .other scheme cs)

/-- The port to connect to: the URL's own, or else its scheme's. -/
def portOrDefault (u : Url) : Option Nat := u.port.or (defaultPort u.scheme)

end Url

end TunnelRelay
