import TunnelRelay.Agent.Session
import TunnelRelay.Proofs.Scan

/-!
# What a client says before its stream is opaque

A client that wants an opaque stream greets and commands, or sends one head. The octets that say
this end somewhere in the client's stream, and the agent has to find that place however the stream
is cut, since all that follows is the target's.
-/

namespace TunnelRelay

/-- A greeting begins with the version. -/
theorem Socks.head?_of_greeting {b rest : Bytes} {ms : List Socks.AuthMethod}
    (h : Socks.greeting b = .complete ms rest) : b.head? = some Socks.version := by
  obtain ⟨_, behind, hneed, h⟩ := Scan.andThen_eq_complete h
  obtain rfl : b = behind := by
    simp only [Scan.need] at hneed
    split at hneed
    · cases hneed
      rfl
    · cases hneed
  obtain ⟨_, _, hversion, _⟩ := Scan.andThen_eq_complete h
  obtain ⟨x, _, hoctet, hx⟩ := Scan.andThen_eq_complete hversion
  cases b with
  | nil => cases hoctet
  | cons y b =>
    cases hoctet
    by_cases hy : x = Socks.version
    · rw [hy]
      rfl
    · rw [if_neg hy] at hx
      cases hx

/-- No head begins with an octet that is neither part of a token nor of a line's end. -/
theorem Http.head_eq_invalid {x : UInt8} (b : Bytes) (htoken : Http.isToken x = false)
    (hfeed : x ≠ 10) (hreturn : x ≠ 13) : Http.head (x :: b) = .invalid .token := by
  have hskip := Http.skipLineEnds_cons hfeed hreturn b
  have hword : Http.word Http.isToken (x :: b) = .invalid .token := by
    simp [Http.word, Scan.andThen, Scan.run, htoken, Scan.fail]
  simp only [Http.head, Scan.andThen, hskip, hword]

/-- What a client says before its stream is opaque. -/
inductive Handshake where
  /-- A greeting and a command. -/
  | socks (greeting command : Bytes)
  /-- A head. -/
  | http (head : Bytes)
  deriving DecidableEq, Repr

namespace Handshake

/-- The octets that the client sends. -/
def octets : Handshake → Bytes
  | socks greeting command => greeting ++ command
  | http head => head

/-- Nothing is missing or too much, and it asks for an opaque stream. -/
def IsComplete : Handshake → Prop
  | socks greeting command =>
    (∃ ms, Socks.greeting greeting = .complete ms []) ∧
      ∃ q, Socks.request command = .complete q [] ∧ q.command = .connect
  | http head => ∃ h, Http.head head = .complete h [] ∧ h.isConnect

theorem IsComplete.octets_ne_nil {h : Handshake} (hcomplete : h.IsComplete) : h.octets ≠ [] := by
  cases h with
  | socks greeting command =>
    obtain ⟨⟨ms, hgreeting⟩, -⟩ := hcomplete
    have hversion := Socks.head?_of_greeting hgreeting
    intro hnil
    rw [(List.append_eq_nil_iff.mp hnil).1] at hversion
    cases hversion
  | http head =>
    obtain ⟨h, hhead, -⟩ := hcomplete
    rintro rfl
    cases hhead

/-- What has been sent so far and the handshake are the same as far as both go. -/
def Agrees (h : Handshake) (sent : Bytes) : Prop := sent <+: h.octets ∨ h.octets <+: sent

/-- What was sent before agrees too. -/
theorem Agrees.mono {h : Handshake} {b b' : Bytes} (hb : b <+: b') (h' : h.Agrees b') :
    h.Agrees b := by
  rcases h' with hwithin | hbehind
  · exact Or.inl (hb.trans hwithin)
  · exact List.prefix_or_prefix_of_prefix hb hbehind

/-- The first octet that was sent is that of the handshake. -/
theorem Agrees.head? {h : Handshake} {rest : Bytes} {octet : UInt8} (hcomplete : h.IsComplete)
    (hagrees : h.Agrees (octet :: rest)) : h.octets.head? = some octet := by
  rcases hagrees with hwithin | hbehind
  · obtain ⟨more, hmore⟩ := hwithin
    rw [← hmore]
    rfl
  · cases hoctets : h.octets with
    | nil => exact absurd hoctets hcomplete.octets_ne_nil
    | cons x front =>
      rw [hoctets] at hbehind
      rw [(List.cons_prefix_cons.mp hbehind).1, List.head?_cons]

/-- What the client is told until its stream is opaque. -/
def reply (link : ClientLink) : Handshake → Bytes
  | socks _ _ => Socks.choice .noAuthentication ++ SocksSession.grant link.own
  | http _ => Http.Response.connectionEstablished.toBytes

end Handshake

end TunnelRelay
