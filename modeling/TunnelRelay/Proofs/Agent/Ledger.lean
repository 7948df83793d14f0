import TunnelRelay.Proofs.Agent.Session

/-!
# What an agent holds

Each state of a session holds a definite part of what it has read and of what has come for the
client, has taken a definite part of the handshake off the client's stream, and has told the client
a definite part of the replies. The octets outside can be counted by them.
-/

namespace TunnelRelay

/-- The octets of a session by what it holds: of those it has read, all that are not part of the
handshake are passed on or held, and of those it has taken out of the tunnel, all are written behind
the replies or held, unless the direction has ended. -/
structure Ledger (front reply taken told : Bytes) (unsent undelivered : Option Bytes)
    (read passed consumed written : Bytes) : Prop where
  up : Passes unsent read (taken ++ passed)
  behind : passed <+: read.drop front.length
  afterReply : ∀ x, written = reply ++ x → x <+: consumed
  down : ∀ v, undelivered = some v → ∃ x, written = told ++ x ∧ x ++ v = consumed

namespace Ledger

variable {front reply taken told read passed consumed written held : Bytes}

/-- Before the relay starts, all octets but those of the handshake are held. -/
theorem waiting (hreply : ¬reply <+: told) (hread : taken ++ held = read) :
    Ledger front reply taken told (some held) (some []) read [] [] told where
  up := by rw [List.append_nil]; exact hread
  behind := List.nil_prefix
  afterReply x hx := absurd ⟨x, hx.symm⟩ hreply
  down v hv := by
    cases hv
    exact ⟨[], (List.append_nil told).symm, rfl⟩

/-- After an ending that was none of a relay, nothing is held. -/
theorem ending (hreply : ¬reply <+: written) :
    Ledger front reply [] told none none read [] consumed written where
  up := List.nil_prefix
  behind := List.nil_prefix
  afterReply x hx := absurd ⟨x, hx.symm⟩ hreply
  down v hv := by cases hv

/-- A relay holds what its legs hold. -/
theorem relaying {p : Relay.Phase} {delivered : Bytes}
    (hp : p.Carries read passed consumed delivered) :
    Ledger front reply front reply p.unsent p.undelivered (front ++ read) passed consumed
      (reply ++ delivered) where
  up := hp.up.behind front
  behind := by
    rw [List.drop_left]
    exact hp.up.isPrefix
  afterReply x hx := by
    rw [← List.append_cancel_left hx]
    exact hp.down.isPrefix
  down v hv := by
    refine ⟨delivered, rfl, ?_⟩
    have hdown := hp.down
    rw [hv] at hdown
    exact hdown

end Ledger

namespace SocksSession

/-- How much of the handshake the session has taken off the client's stream. -/
def taken (hello command : Bytes) : SocksSession → Bytes
  | choosing _ | .command _ => hello
  | opening _ _ | confirming _ _ | relaying _ => hello ++ command
  | _ => []

/-- What has come from the client and is not sent, as long as any of it can be. -/
def unsent : SocksSession → Option Bytes
  | greeting buffer | choosing buffer | command buffer => some buffer
  | opening _ rest | confirming _ rest => some rest
  | relaying r => r.phase.unsent
  | _ => none

/-- What the client has been told before the octets of its target. -/
def told (link : ClientLink) : SocksSession → Bytes
  | command _ | opening _ _ | confirming _ _ => chosen
  | relaying _ => chosen ++ grant link.own
  | _ => []

/-- What has come for the client and is not written, as long as any of it can be. -/
def undelivered : SocksSession → Option Bytes
  | greeting _ | choosing _ | command _ | opening _ _ | confirming _ _ => some []
  | relaying r => r.phase.undelivered
  | _ => none

theorem Carries.ledger {hello command read passed consumed written : Bytes} {link : ClientLink}
    {s : SocksSession} (h : Carries hello command link s read passed consumed written) :
    Ledger (hello ++ command) (chosen ++ grant link.own) (s.taken hello command) (s.told link)
      s.unsent s.undelivered read passed consumed written := by
  cases h with
  | greeting buffer => exact .waiting not_grant_prefix_nil rfl
  | choosing buffer => exact .waiting not_grant_prefix_nil rfl
  | command buffer => exact .waiting not_grant_prefix_chosen rfl
  | opening o rest => exact .waiting not_grant_prefix_chosen rfl
  | confirming o rest => exact .waiting not_grant_prefix_chosen rfl
  | refusing read consumed hstatus => exact .ending not_grant_prefix_chosen
  | relaying hr => exact .relaying hr
  | closed read consumed hreply => exact .ending hreply

end SocksSession

namespace HttpSession

/-- How much of the head the session has taken off the client's stream. -/
def taken (head : Bytes) : HttpSession → Bytes
  | naming _ _ _ | opening _ _ _ | establishing _ _ | relaying _ => head
  | _ => []

/-- What has come from the client and is not sent, as long as any of it can be. -/
def unsent : HttpSession → Option Bytes
  | first s | naming _ _ s | opening _ _ s | establishing _ s => some s.buffer
  | relaying r => r.phase.unsent
  | _ => none

/-- What the client has been told before the octets of its target. -/
def told : HttpSession → Bytes
  | relaying _ => established
  | _ => []

/-- What has come for the client and is not written, as long as any of it can be. -/
def undelivered : HttpSession → Option Bytes
  | first _ | naming _ _ _ | opening _ _ _ | establishing _ _ => some []
  | relaying r => r.phase.undelivered
  | _ => none

theorem Carries.ledger {head read passed consumed written : Bytes} {s : HttpSession}
    (h : Carries head s read passed consumed written) :
    Ledger head established (s.taken head) s.told s.unsent s.undelivered read passed consumed
      written := by
  cases h with
  | first hbody => exact .waiting not_established_prefix_nil rfl
  | naming target s hq => exact .waiting not_established_prefix_nil rfl
  | opening o s hq => exact .waiting not_established_prefix_nil rfl
  | establishing o s => exact .waiting not_established_prefix_nil rfl
  | relaying hr => exact .relaying hr
  | rejecting read consumed hresponse => exact .ending not_established_prefix_nil
  | closed read consumed hreply => exact .ending hreply

end HttpSession

namespace AgentSession

/-- How much of its handshake has been taken off a client's stream. -/
def taken : Handshake → AgentSession → Bytes
  | .socks hello command, socks s => s.taken hello command
  | .http head, http s => s.taken head
  | _, _ => []

/-- What has come from the client and is not sent, as long as any of it can be. -/
def unsent : AgentSession → Option Bytes
  | fresh => some []
  | socks s => s.unsent
  | http s => s.unsent
  | _ => none

/-- What the client has been told before the octets of its target. -/
def told (link : ClientLink) : AgentSession → Bytes
  | socks s => s.told link
  | http s => s.told
  | _ => []

/-- What has come for the client and is not written, as long as any of it can be. -/
def undelivered : AgentSession → Option Bytes
  | fresh => some []
  | socks s => s.undelivered
  | http s => s.undelivered
  | _ => none

theorem not_reply_prefix_nil (link : ClientLink) (h : Handshake) : ¬h.reply link <+: [] := by
  cases h with
  | socks hello command => exact SocksSession.not_grant_prefix_nil
  | http head => exact HttpSession.not_established_prefix_nil

/-- **The octets outside are counted by what a session holds.** -/
theorem Carries.ledger {link : ClientLink} {h : Handshake} {s : AgentSession}
    {read passed consumed written : Bytes} (hs : Carries link h s read passed consumed written) :
    Ledger h.octets (h.reply link) (s.taken h) (s.told link) s.unsent s.undelivered read passed
      consumed written := by
  cases hs with
  | fresh h =>
    have hnone : taken h AgentSession.fresh = [] := by cases h <;> rfl
    rw [hnone]
    exact .waiting (not_reply_prefix_nil link h) rfl
  | socks hs => exact hs.ledger
  | http hs => exact hs.ledger
  | closed h =>
    have hnone : taken h AgentSession.closed = [] := by cases h <;> rfl
    rw [hnone]
    exact .ending (not_reply_prefix_nil link h)

end AgentSession

end TunnelRelay
