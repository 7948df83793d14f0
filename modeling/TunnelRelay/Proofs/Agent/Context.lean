import TunnelRelay.Agent.Context

/-!
# What an agent can rely on

An agent starts only with settings that it can run with, so its sessions need not check them again.
-/

namespace TunnelRelay.AgentContext

variable {s : AgentSettings} {c : AgentContext}

/-- An agent has a proxy to try and reads at least one octet at once, which has room in a frame. Its
watch of a tunnel fires after a minute and a half unless configured. -/
theorem ofSettings_spec (h : ofSettings s = .ok c) :
    c.proxies ≠ [] ∧ 0 < c.pieceSize ∧ c.pieceSize ≤ Frame.maxPayloadSize c.limits.maxFrameSize ∧
      c.idle = .ofSeconds (s.readIdleTimeout.getD 90) 0 0 := by
  simp only [ofSettings, bind, Except.bind] at h
  split at h
  · cases h
  split at h
  · cases h
  split at h
  · cases h
  split at h
  · cases h
  rename_i hproxies
  split at h
  · cases h
  rename_i husable
  cases h
  refine ⟨hproxies, Nat.le_max_left 1 _, Nat.max_le.mpr ⟨?_, Nat.min_le_right _ _⟩, rfl⟩
  exact Nat.one_le_iff_ne_zero.mpr husable

end TunnelRelay.AgentContext
