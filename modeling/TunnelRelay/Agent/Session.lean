import TunnelRelay.Agent.HttpSession
import TunnelRelay.Agent.SocksSession

/-!
# A client's connection

The first octet tells which protocol a client speaks: that of SOCKS in its present version or in the
one before, which is refused, and otherwise HTTP.
-/

namespace TunnelRelay

/-- How far a client is. -/
inductive AgentSession where
  /-- Nothing has come. -/
  | fresh
  | socks (s : SocksSession)
  | http (s : HttpSession)
  /-- The client is being told that it speaks the old version of SOCKS. -/
  | refusing
  | closed
  deriving DecidableEq, Repr

namespace AgentSession

/-- What a client's connection waits for. -/
inductive Event where
  /-- The first octet, which stays in the stream, or none if the stream ends or fails before it. -/
  | first (octet : Option UInt8)
  /-- Whether the refusal could be written. -/
  | wrote (success : Bool)
  | socks (e : SocksSession.Event)
  | http (e : HttpSession.Event)
  deriving DecidableEq, Repr

/-- The session of a client by its first octet. -/
def ofFirst : Option UInt8 → AgentSession
  | none => closed
  | some octet =>
    if octet = Socks.version then socks SocksSession.start
    else if octet = Socks.oldVersion then refusing
    else http HttpSession.start

/-- What an event leads to; nothing when the connection does not wait for it. -/
def step (c : AgentContext) (link : ClientLink) (rs : AgentRegistries) (s : AgentSession)
    (e : Event) : Option (AgentRegistries × AgentSession × List AgentEffect) :=
  match s, e with
  | fresh, .first octet => some (rs, ofFirst octet, [])
  | refusing, .wrote success =>
    some (rs, closed, if success then [.toClient Socks.oldVersionRefusal] else [])
  | socks s, .socks e => do
    let (rs, s, effects) ← s.step c link rs e
    return (rs, socks s, effects)
  | http s, .http e => do
    let (streams, s, effects) ← s.step c link rs.streams e
    return ({ rs with streams }, http s, effects)
  | _, _ => none

/-- What a sequence of events leads to. -/
def run (c : AgentContext) (link : ClientLink) :
    AgentRegistries → AgentSession → List Event →
      Option (AgentRegistries × AgentSession × List AgentEffect)
  | rs, s, [] => some (rs, s, [])
  | rs, s, e :: es => do
    let (rs, s, effects) ← step c link rs s e
    let (rs, s, more) ← run c link rs s es
    return (rs, s, effects ++ more)

variable {c : AgentContext} {link : ClientLink} {rs rs' : AgentRegistries} {s s' : AgentSession}
  {e : Event} {es : List Event} {effects : List AgentEffect}

theorem run_cons (h : s.step c link rs e = some (rs', s', effects)) :
    run c link rs s (e :: es) =
      (run c link rs' s' es).map fun (rs, s, more) => (rs, s, effects ++ more) := by
  simp only [run, h, Option.bind_eq_bind, Option.bind_some]
  cases run c link rs' s' es <;> rfl

/-- A run is its first step and the run from there. -/
theorem exists_of_run_cons (h : run c link rs s (e :: es) = some (rs', s', effects)) :
    ∃ rs₁ s₁ first more, s.step c link rs e = some (rs₁, s₁, first) ∧
      run c link rs₁ s₁ es = some (rs', s', more) ∧ effects = first ++ more := by
  obtain ⟨⟨rs₁, s₁, first⟩, hstep, hrest⟩ := Option.bind_eq_some_iff.mp h
  obtain ⟨⟨rs₂, s₂, more⟩, hrun, heq⟩ := Option.bind_eq_some_iff.mp hrest
  cases heq
  exact ⟨rs₁, s₁, first, more, hstep, hrun, rfl⟩

end AgentSession

end TunnelRelay
