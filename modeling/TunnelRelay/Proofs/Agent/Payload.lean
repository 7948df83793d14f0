import TunnelRelay.Proofs.Forward.Service
import TunnelRelay.Proofs.Frame.Payload

/-!
# What an agent reads at once fits in a frame

An agent that accepts its settings reads at least one octet at once, and no more than the largest
payload of its frames. So whatever it reads at once travels in one message, with compression or
without it, under either cipher.
-/

open TunnelRelay.Frame

namespace TunnelRelay

/-- **The largest payload is within the limits, and what is read at once is within the largest
payload.** A message of either side with a payload of at most `maxPayloadSize` octets travels, and
so does every message that an agent makes of what it reads at once, if there is room beside the
payload. -/
theorem maxPayloadSize_sound :
    (∀ (κ : Type) [Family κ] (w w' : Means) (l : Limits) (m : Message κ),
      w.Standard → w.Matches w' → l.maxFrameSize ≤ Lz4.maxInput →
      0 < maxPayloadSize l.maxFrameSize → w.LeavesRoom m →
      m.body.payload.length ≤ maxPayloadSize l.maxFrameSize → Travels w w' l m) ∧
    ∀ (settings : AgentSettings) (c : AgentContext), AgentContext.ofSettings settings = .ok c →
      (1 ≤ c.pieceSize ∧ c.pieceSize ≤ maxPayloadSize c.limits.maxFrameSize) ∧
      ∀ (w w' : Means) (m : Message AgentKind),
        w.Standard → w.Matches w' → c.limits.maxFrameSize ≤ Lz4.maxInput → w.LeavesRoom m →
        m.body.payload.length ≤ c.pieceSize → Travels w w' c.limits m := by
  refine ⟨?_, ?_⟩
  · intro κ _ w w' l m hw hm hlimit husable hroom hpayload
    exact hroom.travels hw hm hlimit husable hpayload
  · intro settings c hc
    obtain ⟨-, hpositive, hpiece, -⟩ := AgentContext.ofSettings_spec hc
    refine ⟨⟨hpositive, hpiece⟩, ?_⟩
    intro w w' m hw hm hlimit hroom hpayload
    have husable : 0 < maxPayloadSize c.limits.maxFrameSize := Nat.lt_of_lt_of_le hpositive hpiece
    exact hroom.travels hw hm hlimit husable (Nat.le_trans hpayload hpiece)

/-- A message with a payload of so many octets. -/
def longMessage (n : Nat) : Message AgentKind :=
  ⟨digits, .aes, Body.tcpData "1" "user" "example.org" 80 (List.replicate n 0)⟩

/-- What `longMessage` is sent with. -/
def primeMeans : Means := (KeyPair.ofKey mersenneKey).means 0

theorem longMessage_leavesRoom (n : Nat) : primeMeans.LeavesRoom (longMessage n) := by
  have hsize : (KeyPair.ofKey mersenneKey).remote.size = 81 := by decide +kernel
  have hdigits : digits.length = 32 := by decide +kernel
  have htexts : (Bytes.ofText "1").length + (Bytes.ofText "user").length
      + (Bytes.ofText "example.org").length = 16 := by decide +kernel
  refine KeyPair.leavesRoom ?_ (Cipher.keyed_of_length .aes hdigits) ?_ 0
  · simp only [longMessage]
    omega
  · simp only [longMessage, Body.tcpData]
    omega

/-- The largest payload of the default limit travels without compression and with it, and so does a
piece of the greatest length that an agent with one proxy reads at once. -/
theorem largest_payload_travels :
    Travels primeMeans primeMeans ⟨false, defaultMaxFrameSize⟩ (longMessage 252673) ∧
    Travels primeMeans primeMeans ⟨true, defaultMaxFrameSize⟩ (longMessage 252673) ∧
    ∃ c, AgentContext.ofSettings AgentSession.oneProxy = .ok c ∧
      Travels primeMeans primeMeans c.limits (longMessage c.pieceSize) := by
  obtain ⟨hpayload, hagent⟩ := maxPayloadSize_sound
  have hstandard : primeMeans.Standard := KeyPair.means_standard _ 0
  have hmatches : primeMeans.Matches primeMeans := KeyPair.ofKey_matches mersenneKey_sound 0 0
  have hlength (n : Nat) : (longMessage n).body.payload.length = n := List.length_replicate
  have hlargest : maxPayloadSize defaultMaxFrameSize = 252673 := by decide
  have htravels (compress : Bool) :
      Travels primeMeans primeMeans ⟨compress, defaultMaxFrameSize⟩ (longMessage 252673) := by
    refine hpayload AgentKind _ _ _ _ hstandard hmatches ?_ ?_ (longMessage_leavesRoom _) ?_
    · show defaultMaxFrameSize ≤ Lz4.maxInput
      decide
    · show 0 < maxPayloadSize defaultMaxFrameSize
      rw [hlargest]
      decide
    · exact Nat.le_of_eq ((hlength _).trans hlargest.symm)
  refine ⟨htravels false, htravels true, ?_⟩
  have hlimit : ((AgentContext.ofSettings AgentSession.oneProxy).toOption.map
      (·.limits.maxFrameSize)) = some defaultMaxFrameSize := by decide +kernel
  cases hc : AgentContext.ofSettings AgentSession.oneProxy with
  | error e =>
    rw [hc] at hlimit
    cases hlimit
  | ok c =>
    rw [hc] at hlimit
    have hdefault : c.limits.maxFrameSize = defaultMaxFrameSize := Option.some.inj hlimit
    have hpackable : c.limits.maxFrameSize ≤ Lz4.maxInput := by
      rw [hdefault]
      decide
    exact ⟨c, rfl, (hagent _ c hc).2 _ _ _ hstandard hmatches hpackable
      (longMessage_leavesRoom _) (Nat.le_of_eq (hlength _))⟩

end TunnelRelay
