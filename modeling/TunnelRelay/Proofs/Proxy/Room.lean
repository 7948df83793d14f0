import TunnelRelay.Proofs.Frame.Capacity
import TunnelRelay.Proofs.Proxy.Passage

/-!
# Pieces that have room in a frame

A proxy reads from a target at most as much at once as has room in a frame. But it reads something
even if nothing has, and unlike an agent it runs with any settings. So what it reads has room just
if one octet has (`pieces_carried_iff`), and with smaller frames a session can be confirmed to the
agent and end with the first octet that the target says (`first_octet_refused`).
-/

open TunnelRelay.Frame

namespace TunnelRelay

/-! ## What is sent at once -/

/-- No more is being sent than is read at once. -/
theorem FromTarget.length_of_step {size : Nat} {user : String} {target : Target}
    {leg leg' : FromTarget} {e : Event} {es : List ProxyEffect}
    (h : step size user target leg e = some (leg', es)) {data : Bytes}
    (hdata : leg'.unsent = some data) : data.length ≤ size := by
  unfold step at h
  split at h
  · cases h
    cases hdata
  · cases h
    cases hdata
  · obtain ⟨hpiece, heq⟩ := Option.ite_none_right_eq_some.mp h
    cases heq
    cases hdata
    exact hpiece.2
  · cases h
    split at hdata
    · cases hdata
      exact Nat.zero_le _
    · cases hdata
  · cases h

namespace ProxyRelay

/-- The data message with this id that the relay is sending. -/
def offer (r : ProxyRelay) (id : String) : Option (Body ProxyKind) :=
  match r.phase with
  | .running _ (.sending data) _ => some (Body.okTcp id r.user r.target.host r.target.port data)
  | _ => none

theorem unsent_of_offer {r : ProxyRelay} {id : String} {m : Body ProxyKind}
    (h : r.offer id = some m) : m.kind = .okTcp ∧ r.phase.unsent = some m.payload := by
  unfold offer at h
  split at h
  · rename_i hphase
    cases h
    rw [hphase]
    exact ⟨rfl, rfl⟩
  · cases h

theorem length_of_step {c : ProxyContext} {streams streams' : ProxyStreams} {r r' : ProxyRelay}
    {e : Event} {es : List ProxyEffect} (h : r.step c streams e = some (streams', r', es))
    (hfits : ∀ data, r.phase.unsent = some data → data.length ≤ c.pieceSize) {data : Bytes}
    (hdata : r'.phase.unsent = some data) : data.length ≤ c.pieceSize := by
  obtain ⟨id, target, user, lifecycle, phase⟩ := r
  unfold step at h
  split at h
  · cases h
  simp only at h
  split at h
  · -- the agent is being told that the target is connected
    split at h
    · cases h
      cases hdata
      exact Nat.zero_le _
    · cases h
      cases hdata
  · obtain ⟨_, -, heq⟩ := Option.bind_eq_some_iff.mp h
    cases heq
    exact hfits data hdata
  · obtain ⟨_, hstep, heq⟩ := Option.bind_eq_some_iff.mp h
    cases heq
    exact FromTarget.length_of_step hstep hdata
  · obtain ⟨_, -, heq⟩ := Option.bind_eq_some_iff.mp h
    cases heq
    exact hfits data hdata
  · cases h
    cases hdata
  · cases h

end ProxyRelay

namespace ProxySession

/-- The data message with this id that the session is sending. -/
def offer (id : String) : ProxySession → Option (Body ProxyKind)
  | relaying r => r.offer id
  | _ => none

theorem unsent_of_offer {s : ProxySession} {id : String} {m : Body ProxyKind}
    (h : s.offer id = some m) : m.kind = .okTcp ∧ s.unsent = some m.payload := by
  cases s with
  | relaying r => exact ProxyRelay.unsent_of_offer h
  | _ => cases h

variable {c : ProxyContext} {id : String} {rs rs' : ProxyRegistries} {s s' : ProxySession}
  {data : Bytes}

theorem eq_nil_of_first (id : String) (r : Received AgentKind)
    (hdata : (first id r).1.unsent = some data) : data = [] := by
  cases r with
  | ended => cases hdata
  | failed e => cases hdata
  | body m =>
    cases hkind : m.kind with
    | connectWithKeepAlive | connectWithoutKeepAlive =>
      simp only [first, hkind, Lifecycle.transit, Lifecycle.fresh] at hdata
      cases hdata
      rfl
    | udpData | tcpData =>
      simp only [first, hkind] at hdata
      cases hdata

theorem eq_nil_of_afterConnecting (c : ProxyContext) (id : String) (rs : ProxyRegistries)
    (m : Body AgentKind) (l : Lifecycle) (script : List (Option StreamError))
    (address : Option Endpoint)
    (hdata : (afterConnecting c id rs m l script address).2.1.unsent = some data) : data = [] := by
  unfold afterConnecting at hdata
  split at hdata
  · cases hdata
  · cases hdata
  · split at hdata
    · cases hdata
    · rename_i streams r hstart
      unfold ProxyRelay.start at hstart
      simp only at hstart
      split at hstart
      · cases hstart
        cases hdata
        rfl
      · cases hstart

/-- **Nothing that has come from the target and waits to be sent is longer than a piece.** -/
theorem length_of_step {e : Event} {es : List ProxyEffect}
    (h : step c id rs s e = some (rs', s', es))
    (hfits : ∀ data, s.unsent = some data → data.length ≤ c.pieceSize)
    (hdata : s'.unsent = some data) : data.length ≤ c.pieceSize := by
  unfold step at h
  split at h
  · cases h
    rw [eq_nil_of_first id _ hdata]
    exact Nat.zero_le _
  · cases h
    cases hdata
  · simp only [Option.some.injEq] at h
    rename_i m l script address
    have hnil : (afterConnecting c id rs m l script address).2.1.unsent = some data → data = [] :=
      eq_nil_of_afterConnecting c id rs m l script address
    rw [h] at hnil
    rw [hnil hdata]
    exact Nat.zero_le _
  · cases h
    cases hdata
  · obtain ⟨_, hstep, heq⟩ := Option.bind_eq_some_iff.mp h
    cases heq
    exact ProxyRelay.length_of_step hstep hfits hdata
  · cases h
    cases hdata
  · split at h
    all_goals
      cases h
      cases hdata
  · obtain ⟨_, -, heq⟩ := Option.bind_eq_some_iff.mp h
    cases heq
    cases hdata
  · cases h

theorem length_of_run {events : List Event} {effects : List ProxyEffect}
    (h : run c id rs s events = some (rs', s', effects))
    (hfits : ∀ data, s.unsent = some data → data.length ≤ c.pieceSize) :
    ∀ data, s'.unsent = some data → data.length ≤ c.pieceSize := by
  induction events generalizing rs s effects with
  | nil =>
    cases h
    exact hfits
  | cons e events ih =>
    obtain ⟨⟨rs₁, s₁, es⟩, hstep, h⟩ := Option.bind_eq_some_iff.mp h
    obtain ⟨⟨rs₂, s₂, more⟩, hrun, heq⟩ := Option.bind_eq_some_iff.mp h
    cases heq
    exact ih hrun fun data hdata => length_of_step hstep hfits hdata

end ProxySession

/-! ## What has room -/

/-- What is read at once is one octet, or it is within the largest payload and there is one. -/
theorem Settings.Frames.pieceSize_spec (s : Settings.Frames) :
    1 ≤ s.pieceSize ∧ (s.pieceSize = 1 ∨ 0 < maxPayloadSize s.limits.maxFrameSize ∧
      s.pieceSize ≤ maxPayloadSize s.limits.maxFrameSize) := by
  unfold pieceSize
  omega

/-- There is room for what is read at once just if there is room for one octet. -/
theorem Settings.Frames.grown_pieceSize_le_iff (s : Settings.Frames) :
    s.limits.grown (messageOverhead + s.pieceSize) ≤ s.limits.maxFrameSize ↔
      (if s.limits.compress then 8245 else 8193) ≤ s.limits.maxFrameSize := by
  have hone : s.limits.grown (messageOverhead + 1) = if s.limits.compress then 8245 else 8193 :=
    rfl
  obtain ⟨hpositive, hone' | ⟨husable, hpiece⟩⟩ := s.pieceSize_spec
  · rw [hone', hone]
  · have hroom := s.limits.grown_le_of_payload husable hpiece
    have hle : s.limits.grown (messageOverhead + 1) ≤
        s.limits.grown (messageOverhead + s.pieceSize) := s.limits.grown_mono (by omega)
    rw [← hone]
    exact ⟨fun _ => Nat.le_trans hle hroom, fun _ => hroom⟩

namespace ProxyContext

/-- **What a proxy reads at once has room in a frame just if one octet has.** Let it be configured in
any way. Every data message with a payload of at most what is read at once is encoded, with any
sender and compressed or not, just if the limit is not below 8193 octets, or 8245 with compression.
And a session offers no longer payload, whatever has happened to it. -/
theorem pieces_carried_iff (settings : ProxySettings)
    (hlimit : (ofSettings settings).limits.maxFrameSize ≤ Lz4.maxInput) :
    ((ofSettings settings).limits.Carries (ofSettings settings).pieceSize ↔
      (if (ofSettings settings).limits.compress then 8245 else 8193) ≤
        (ofSettings settings).limits.maxFrameSize) ∧
    ∀ id rs rs' s events effects,
      ProxySession.run (ofSettings settings) id rs .waiting events = some (rs', s, effects) →
      ∀ messageId m, s.offer messageId = some m →
        m.kind = .okTcp ∧ m.payload.length ≤ (ofSettings settings).pieceSize := by
  constructor
  · rw [carries_iff hlimit]
    exact settings.frames.grown_pieceSize_le_iff
  · intro id rs rs' s events effects hrun messageId m hoffer
    obtain ⟨hkind, hunsent⟩ := ProxySession.unsent_of_offer hoffer
    refine ⟨hkind, ProxySession.length_of_run hrun ?_ _ hunsent⟩
    -- a tunnel that has just been accepted has nothing to send
    intro data hdata
    cases hdata
    exact Nat.zero_le _

/-- Settings of a proxy that configure its frames and nothing else. -/
def framedBy (frames : Settings.Frames) : ProxySettings :=
  ⟨none, frames, none, none, none, none, none, none, none, none, none, ⟨none, none, none, none⟩,
    ⟨none, none, none⟩, ⟨none, none⟩⟩

/-- The longest data message that a proxy makes by default. -/
def defaultPiece : Message ProxyKind :=
  ⟨digits, .aes, Body.okTcp "1" "user" "example.org" 80 (List.replicate 65536 0)⟩

/-- By default a proxy reads 64 KiB at once, and they are encoded. -/
theorem default_piece_carried :
    (ofSettings (framedBy ⟨none, none, none⟩)).limits.maxFrameSize ≤ Lz4.maxInput ∧
      (ofSettings (framedBy ⟨none, none, none⟩)).pieceSize = 65536 ∧
      ∀ out, ∃ out', encode ((KeyPair.ofKey mersenneKey).means 0)
        (ofSettings (framedBy ⟨none, none, none⟩)).limits defaultPiece out = .ok out' := by
  have hlimit : (ofSettings (framedBy ⟨none, none, none⟩)).limits.maxFrameSize ≤ Lz4.maxInput := by
    decide
  have hpiece : (ofSettings (framedBy ⟨none, none, none⟩)).pieceSize = 65536 := by decide
  have hroom : ((KeyPair.ofKey mersenneKey).means 0).LeavesRoom defaultPiece :=
    leavesRoom_of_fields (by decide +kernel) 0
  have hcarries := (pieces_carried_iff (framedBy ⟨none, none, none⟩) hlimit).1.mpr (by decide)
  refine ⟨hlimit, hpiece, hcarries _ _ (KeyPair.means_standard _ 0) hroom rfl ?_⟩
  rw [hpiece]
  exact Nat.le_of_eq List.length_replicate

/-- Frames of at most 180 octets. -/
def tinyFrames : ProxySettings := framedBy ⟨none, some 180, none⟩

/-- A session up to the first octet that the target says. -/
def overture : List ProxySession.Event :=
  [.received (.body (Body.connect "1" "a-user-of-this-name" "127.0.0.1" 80 false)),
    .connected [] (some ⟨.v4 ⟨127, 0, 0, 1⟩, 80⟩),
    .relay (.sent "00000000000040008000000000000000" .done), .relay (.down (.read [97]))]

/-- **A piece that is refused**: with frames of 180 octets a proxy reads one octet at once. It tells
the agent that the target is connected, and then the first octet that the target says has no frame. -/
theorem first_octet_refused :
    (ofSettings tinyFrames).pieceSize = 1 ∧ ¬(ofSettings tinyFrames).limits.Carries 1 ∧
    ∃ rs s effects answer m,
      ProxySession.run (ofSettings tinyFrames) "t" ⟨.empty, .empty⟩ .waiting overture =
        some (rs, s, effects) ∧
      ProxyEffect.messages effects = [answer] ∧ answer.kind = .connectSuccess ∧
      s.offer "00000000000040008000000000000000" = some m ∧ m.payload = [97] ∧
      ∀ (noise : Nat → UInt8) (out : Bytes),
        ((KeyPair.ofKey mersenneKey).means noise).LeavesRoom (⟨digits, .aes, m⟩ : Message _) ∧
        (∃ out', encode ((KeyPair.ofKey mersenneKey).means noise) (ofSettings tinyFrames).limits
          ⟨digits, .aes, answer⟩ out = .ok out') ∧
        encode ((KeyPair.ofKey mersenneKey).means noise) (ofSettings tinyFrames).limits
          ⟨digits, .aes, m⟩ out = .error (.stream (tooBig .invalidInput)) := by
  have hcarries : ¬(ofSettings tinyFrames).limits.Carries 1 := by
    rw [carries_iff (by decide)]
    decide
  have houtcome : (ProxySession.run (ofSettings tinyFrames) "t" ⟨.empty, .empty⟩ .waiting
      overture).map (fun x => (x.2.1.offer "00000000000040008000000000000000",
        ProxyEffect.messages x.2.2)) =
      some (some (Body.okTcp "00000000000040008000000000000000" "a-user-of-this-name" "127.0.0.1"
          80 [97]),
        [Body.connectSuccess "00000000000040008000000000000000" "a-user-of-this-name" "127.0.0.1"
          80]) := by
    decide +kernel
  obtain ⟨⟨rs, s, effects⟩, hrun, heq⟩ := Option.map_eq_some_iff.mp houtcome
  simp only [Prod.mk.injEq] at heq
  obtain ⟨hoffer, hmessages⟩ := heq
  refine ⟨by decide, hcarries, rs, s, effects, _, _, hrun, hmessages, rfl, hoffer, rfl, ?_⟩
  intro noise out
  have hlimit : (ofSettings tinyFrames).limits.length = 180 := by decide
  have hplain : ∀ plain, Packs ((KeyPair.ofKey mersenneKey).means noise)
      (ofSettings tinyFrames).limits plain plain := fun _ => rfl
  refine ⟨?_, ?_, ?_⟩
  · exact leavesRoom_of_fields (by decide +kernel) noise
  · -- the answer comes to 176 octets
    obtain ⟨plain, hwrite, hlength⟩ := exists_plain_of_digits sealable_mersenneKey noise
      (Body.connectSuccess "00000000000040008000000000000000" "a-user-of-this-name" "127.0.0.1" 80)
    have hbody : (Body.connectSuccess "00000000000040008000000000000000" "a-user-of-this-name"
        "127.0.0.1" 80).encode.length = 79 := by decide +kernel
    rw [hbody, size_mersenneKey] at hlength
    refine ⟨_, encode_eq_ok_iff.mpr ⟨plain, plain, hwrite, hplain plain, ?_, rfl⟩⟩
    rw [hlimit, hlength]
    decide
  · -- one octet more fills the last block, and the padding makes it 192
    obtain ⟨plain, hwrite, hlength⟩ := exists_plain_of_digits sealable_mersenneKey noise
      (Body.okTcp "00000000000040008000000000000000" "a-user-of-this-name" "127.0.0.1" 80 [97])
    have hbody : (Body.okTcp "00000000000040008000000000000000" "a-user-of-this-name" "127.0.0.1"
        80 [97]).encode.length = 80 := by decide +kernel
    rw [hbody, size_mersenneKey] at hlength
    refine encode_of_long hwrite (hplain plain) ?_ out
    rw [hlimit, hlength]
    decide

end ProxyContext

end TunnelRelay
