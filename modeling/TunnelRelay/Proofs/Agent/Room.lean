import TunnelRelay.Proofs.Agent.Offer
import TunnelRelay.Proofs.Forward.Service
import TunnelRelay.Proofs.Frame.Room

/-!
# Data messages that have room in a frame

An agent limits what it reads at once so that pieces have room in a frame. What it has read ahead of
a tunnel, a request's head, and what stands behind a head whose body only the target reads go into
one message however long they are, and a message also carries the user's token and the target's
host. `data_encoded` says what has to be small for every data message of a run to be encoded, and
`long_head_refused` that it has to.
-/

open TunnelRelay.Frame

namespace TunnelRelay

/-! ## A client that speaks SOCKS -/

namespace SocksSession

/-- No payload that the session is sending or is about to send is longer than `n`. -/
def Fits (n : Nat) : SocksSession → Prop
  | relaying r => r.Fits n
  | _ => True

/-- How many octets may go into one message next that are not cut. -/
def uncut (size : Nat) : SocksSession → Nat
  | confirming _ rest => rest.length
  | relaying r => r.uncut size
  | _ => 0

/-- The data message with this id that the session is sending. -/
def offer (user id : String) : SocksSession → Option (Body AgentKind)
  | relaying r => r.offer user id
  | _ => none

theorem greeted_fits (n : Nat) (buffer : Bytes) : (greeted buffer).Fits n := by
  unfold greeted
  split <;> trivial

theorem ofOpening_fits (n : Nat) (o : Opening) (rest : Bytes) : (ofOpening o rest).Fits n := by
  unfold ofOpening
  split <;> trivial

theorem commanded_fits (n : Nat) (link : ClientLink) (proxies : List ProxyAddress)
    (buffer : Bytes) : (commanded link proxies buffer).Fits n := by
  unfold commanded
  split
  · trivial
  · trivial
  · unfold obey
    split
    · split
      · trivial
      · exact ofOpening_fits n _ _
    · trivial
    · trivial
    · trivial

theorem associate_fits (n : Nat) (user : String) (link : ClientLink) (rs : AgentRegistries)
    (bound : Endpoint) : (associate user link rs bound).2.Fits n := by
  unfold associate
  split <;> trivial

variable {n : Nat} {c : AgentContext} {link : ClientLink} {rs rs' : AgentRegistries}
  {s s' : SocksSession} {e : Event} {es : List AgentEffect}

theorem step_fits (h : step c link rs s e = some (rs', s', es)) (hpos : 0 < c.pieceSize)
    (hsize : c.pieceSize ≤ n) (hfits : s.Fits n) (hu : s.uncut c.pieceSize ≤ n) : s'.Fits n := by
  unfold step at h
  split at h
  · split at h
    · cases h
    · cases h
      exact greeted_fits n _
  · split at h
    · cases h
    · cases h
      exact commanded_fits n _ _ _
  · cases h
    trivial
  · cases h
    trivial
  · cases h
    exact commanded_fits n _ _ _
  · cases h
    trivial
  · obtain ⟨⟨o, es'⟩, -, heq⟩ := Option.bind_eq_some_iff.mp h
    cases heq
    exact ofOpening_fits n _ _
  · -- what the client has sent behind its command goes ahead
    cases h
    exact Relay.start_fits _ _ _ _ hu
  · cases h
    trivial
  · cases h
    trivial
  · cases h
    trivial
  · obtain ⟨⟨streams, r', es'⟩, hstep, heq⟩ := Option.bind_eq_some_iff.mp h
    cases heq
    exact Relay.step_fits hstep hpos hsize hfits hu
  · cases h
    trivial
  · cases h
    exact associate_fits n _ _ _ _
  · cases h
    trivial
  · cases h
    trivial
  · obtain ⟨⟨associations, a, es'⟩, -, heq⟩ := Option.bind_eq_some_iff.mp h
    cases heq
    trivial
  · cases h

/-- The session puts only the data that it is sending into its tunnels. -/
theorem offer_of_step (h : step c link rs s e = some (rs', s', es)) {m : Body AgentKind}
    (hm : m ∈ AgentEffect.messages es) (hkind : m.kind = .tcpData) :
    ∃ id, s.offer c.userToken id = some m := by
  unfold step at h
  split at h
  case h_7 =>
    obtain ⟨⟨o, es'⟩, hstep, heq⟩ := Option.bind_eq_some_iff.mp h
    cases heq
    exact absurd hkind (Opening.kind_of_step hstep hm)
  case h_8 o rest =>
    simp only [Option.some.injEq, Prod.mk.injEq] at h
    obtain ⟨-, -, rfl⟩ := h
    rw [AgentEffect.messages_cons_toClient, Relay.messages_of_start] at hm
    cases hm
  case h_12 =>
    obtain ⟨⟨streams, r', es'⟩, hstep, heq⟩ := Option.bind_eq_some_iff.mp h
    cases heq
    exact Relay.offer_of_step hstep hm
  case h_17 =>
    obtain ⟨⟨associations, a, es'⟩, hstep, heq⟩ := Option.bind_eq_some_iff.mp h
    cases heq
    rw [Association.kind_of_step hstep hm] at hkind
    cases hkind
  case h_1 | h_2 =>
    split at h
    · cases h
    · cases h
      cases hm
  -- nothing else puts a message out
  all_goals
    cases h
    try cases hm

end SocksSession

/-! ## A client that speaks HTTP -/

namespace HttpSession

/-- No payload that the session is sending or is about to send is longer than `n`. -/
def Fits (n : Nat) : HttpSession → Prop
  | relaying r => r.Fits n
  | _ => True

/-- How many octets may go into one message next that are not cut. -/
def uncut (size : Nat) : HttpSession → Nat
  | opening _ q s => if q.head.isConnect then 0 else (ahead q s).1.length
  | establishing _ s => s.buffer.length
  | relaying r => r.uncut size
  | _ => 0

/-- The data message with this id that the session is sending. -/
def offer (user id : String) : HttpSession → Option (Body AgentKind)
  | relaying r => r.offer user id
  | _ => none

theorem handle_fits (n : Nat) (q : Http.Request) (s : Http.Inbound) : (handle q s).Fits n := by
  unfold handle
  split <;> trivial

theorem firstHead_fits (n size : Nat) (s : Http.Inbound) : (firstHead size s).Fits n := by
  unfold firstHead
  split
  · trivial
  · trivial
  · trivial
  · exact handle_fits n _ _

variable {n : Nat} {c : AgentContext} {link : ClientLink} {streams streams' : Streams}
  {s s' : HttpSession} {e : Event} {es : List AgentEffect}

/-- What goes ahead of a relay is short if it is short whenever the tunnel is open. -/
theorem ofOpening_fits (user : String) (streams : Streams) (o : Opening) (q : Http.Request)
    (s : Http.Inbound)
    (h : o.phase = .opened → ¬q.head.isConnect → (ahead q s).1.length ≤ n) :
    (ofOpening user streams o q s).2.1.Fits n := by
  unfold ofOpening
  split
  · trivial
  · rename_i hopened
    split
    · trivial
    · rename_i hconnect
      exact Relay.start_fits _ _ _ _ (h hopened hconnect)
  · trivial

theorem ofRelay_fits {r : Relay} (h : r.Fits n) : (ofRelay r).Fits n := by
  unfold ofRelay
  split
  · exact handle_fits n _ _
  · exact h

theorem step_fits (h : step c link streams s e = some (streams', s', es)) (hpos : 0 < c.pieceSize)
    (hsize : c.pieceSize ≤ n) (hfits : s.Fits n) (hu : s.uncut c.pieceSize ≤ n) : s'.Fits n := by
  unfold step at h
  split at h
  · split at h
    · cases h
    · cases h
      exact firstHead_fits n _ _
  · cases h
    split <;> trivial
  · cases h
    trivial
  · simp only [Option.some.injEq] at h
    rename_i target q s suffix
    have hfits := ofOpening_fits (n := n) c.userToken streams (Opening.start
      s!"{link.id}-{suffix}" target (keepsAlive q) c.proxies) q s
      fun hopened => absurd hopened (Opening.start_ne_opened _ _ _ _)
    rw [h] at hfits
    exact hfits
  · obtain ⟨⟨o, es'⟩, -, heq⟩ := Option.bind_eq_some_iff.mp h
    rename_i q s _
    simp only [Option.pure_def, Option.some.injEq, Prod.mk.injEq] at heq
    obtain ⟨-, rfl, -⟩ := heq
    refine ofOpening_fits _ _ _ _ _ fun _ hconnect => ?_
    rw [uncut, if_neg hconnect] at hu
    exact hu
  · simp only [Option.some.injEq, Prod.mk.injEq] at h
    obtain ⟨-, rfl, -⟩ := h
    exact Relay.start_fits _ _ _ _ hu
  · cases h
    trivial
  · obtain ⟨⟨streams, r', es'⟩, hstep, heq⟩ := Option.bind_eq_some_iff.mp h
    cases heq
    exact ofRelay_fits (Relay.step_fits hstep hpos hsize hfits hu)
  · cases h
    trivial
  · cases h
    trivial
  · cases h

/-- The session puts only the data that it is sending into its tunnels. -/
theorem offer_of_step (h : step c link streams s e = some (streams', s', es)) {m : Body AgentKind}
    (hm : m ∈ AgentEffect.messages es) (hkind : m.kind = .tcpData) :
    ∃ id, s.offer c.userToken id = some m := by
  unfold step at h
  split at h
  · split at h
    · cases h
    · cases h
      cases hm
  · cases h
    cases hm
  · cases h
    cases hm
  · simp only [Option.some.injEq] at h
    rename_i target q s suffix
    have hquiet := messages_of_ofOpening c.userToken streams (Opening.start
      s!"{link.id}-{suffix}" target (keepsAlive q) c.proxies) q s
    rw [h] at hquiet
    rw [hquiet] at hm
    cases hm
  · obtain ⟨⟨o, es'⟩, hstep, heq⟩ := Option.bind_eq_some_iff.mp h
    simp only [Option.pure_def, Option.some.injEq, Prod.mk.injEq] at heq
    obtain ⟨-, -, rfl⟩ := heq
    rw [AgentEffect.messages_append, messages_of_ofOpening, List.append_nil] at hm
    exact absurd hkind (Opening.kind_of_step hstep hm)
  · simp only [Option.some.injEq, Prod.mk.injEq] at h
    obtain ⟨-, -, rfl⟩ := h
    rw [AgentEffect.messages_cons_toClient, Relay.messages_of_start] at hm
    cases hm
  · cases h
    cases hm
  · obtain ⟨⟨streams, r', es'⟩, hstep, heq⟩ := Option.bind_eq_some_iff.mp h
    cases heq
    exact Relay.offer_of_step hstep hm
  · cases h
    cases hm
  · cases h
    cases hm
  · cases h

end HttpSession

/-! ## A connection -/

namespace AgentSession

/-- No payload that the session is sending or is about to send is longer than `n`. -/
def Fits (n : Nat) : AgentSession → Prop
  | socks s => s.Fits n
  | http s => s.Fits n
  | _ => True

/-- How many octets may go into one message next that are not cut. -/
def uncut (size : Nat) : AgentSession → Nat
  | socks s => s.uncut size
  | http s => s.uncut size
  | _ => 0

/-- The data message with this id that the session is sending. -/
def offer (user id : String) : AgentSession → Option (Body AgentKind)
  | socks s => s.offer user id
  | http s => s.offer user id
  | _ => none

/-- The most octets that may go into one message uncut on the way of a run. -/
def peak (c : AgentContext) (link : ClientLink) : AgentRegistries → AgentSession → List Event → Nat
  | _, s, [] => s.uncut c.pieceSize
  | rs, s, e :: es =>
    match step c link rs s e with
    | none => s.uncut c.pieceSize
    | some (rs', s', _) => max (s.uncut c.pieceSize) (peak c link rs' s' es)

variable {n : Nat} {c : AgentContext} {link : ClientLink} {rs rs' : AgentRegistries}
  {s s' : AgentSession} {e : Event} {es : List Event} {effects : List AgentEffect}
  {m : Body AgentKind}

theorem step_fits (h : step c link rs s e = some (rs', s', effects)) (hpos : 0 < c.pieceSize)
    (hsize : c.pieceSize ≤ n) (hfits : s.Fits n) (hu : s.uncut c.pieceSize ≤ n) : s'.Fits n := by
  unfold step at h
  split at h
  · cases h
    unfold ofFirst
    split
    · trivial
    · split
      · trivial
      · split <;> trivial
  · cases h
    trivial
  · obtain ⟨⟨rs, s, es'⟩, hstep, heq⟩ := Option.bind_eq_some_iff.mp h
    cases heq
    exact SocksSession.step_fits hstep hpos hsize hfits hu
  · obtain ⟨⟨streams, s, es'⟩, hstep, heq⟩ := Option.bind_eq_some_iff.mp h
    cases heq
    exact HttpSession.step_fits hstep hpos hsize hfits hu
  · cases h

/-- The session puts only the data that it is sending into its tunnels. -/
theorem offer_of_step (h : step c link rs s e = some (rs', s', effects))
    (hm : m ∈ AgentEffect.messages effects) (hkind : m.kind = .tcpData) :
    ∃ id, s.offer c.userToken id = some m := by
  unfold step at h
  split at h
  · cases h
    cases hm
  · cases h
    split at hm <;> cases hm
  · obtain ⟨⟨rs, s, es'⟩, hstep, heq⟩ := Option.bind_eq_some_iff.mp h
    cases heq
    exact SocksSession.offer_of_step hstep hm hkind
  · obtain ⟨⟨streams, s, es'⟩, hstep, heq⟩ := Option.bind_eq_some_iff.mp h
    cases heq
    exact HttpSession.offer_of_step hstep hm hkind
  · cases h

theorem Fits.length_le (hfits : s.Fits n) {user id : String} (h : s.offer user id = some m) :
    m.payload.length ≤ n := by
  have hrelay : ∀ r : Relay, r.Fits n → r.offer user id = some m → m.payload.length ≤ n := by
    rintro ⟨id', target, lifecycle, phase⟩ hfits hoffer
    unfold Relay.offer at hoffer
    split at hoffer
    · rename_i data source hphase
      cases hoffer
      obtain rfl : phase = .starting data source := hphase
      exact hfits
    · rename_i data rest source down watching hphase
      cases hoffer
      obtain rfl : phase = .running (.sending data rest source) down watching := hphase
      exact hfits.1
    · cases hoffer
  cases s with
  | socks s =>
    cases s with
    | relaying r => exact hrelay r hfits h
    | _ => cases h
  | http s =>
    cases s with
    | relaying r => exact hrelay r hfits h
    | _ => cases h
  | _ => cases h

/-- **No payload of a run is longer** than pieces are and than what is not cut. -/
theorem run_fits (h : run c link rs s es = some (rs', s', effects)) (hpos : 0 < c.pieceSize)
    (hsize : c.pieceSize ≤ n) (hfits : s.Fits n) (hpeak : peak c link rs s es ≤ n) :
    s'.Fits n ∧
      ∀ m ∈ AgentEffect.messages effects, m.kind = .tcpData → m.payload.length ≤ n := by
  induction es generalizing rs s effects with
  | nil =>
    cases h
    exact ⟨hfits, fun m hm => by cases hm⟩
  | cons e es ih =>
    obtain ⟨rs₁, s₁, first, more, hstep, hrun, rfl⟩ := exists_of_run_cons h
    simp only [peak, hstep] at hpeak
    have hfits₁ := step_fits hstep hpos hsize hfits (by omega)
    obtain ⟨hfits₂, hmore⟩ := ih hrun hfits₁ (by omega)
    refine ⟨hfits₂, fun m hm hkind => ?_⟩
    rw [AgentEffect.messages_append, List.mem_append] at hm
    rcases hm with hm | hm
    · obtain ⟨id, hoffer⟩ := offer_of_step hstep hm hkind
      exact hfits.length_le hoffer
    · exact hmore m hm hkind

end AgentSession

namespace AgentSession

/-- **Data messages are encoded.** Let an agent be configured in any way that it accepts, and let a
client send anything in any pieces. Every data message that has entered a tunnel or is being sent is
accepted by the encoder, provided that the octets which are not cut stay within the largest payload,
and that the key and the other fields stay within what a frame has room for. -/
theorem data_encoded {settings : AgentSettings} {c : AgentContext}
    (hc : AgentContext.ofSettings settings = .ok c) {link : ClientLink}
    {rs rs' : AgentRegistries} {es : List Event} {s : AgentSession} {effects : List AgentEffect}
    (hrun : run c link rs .fresh es = some (rs', s, effects))
    (hpeak : peak c link rs .fresh es ≤ maxPayloadSize c.limits.maxFrameSize)
    {m : Body AgentKind}
    (hm : m ∈ AgentEffect.messages effects ∧ m.kind = .tcpData ∨
      ∃ id, s.offer c.userToken id = some m)
    {k : KeyPair} (hkey : tokenLength + 11 ≤ k.remote.size)
    (hfields : k.remote.size + (Bytes.ofText m.id).length + (Bytes.ofText m.user).length
      + (Bytes.ofText m.host).length + 50 ≤ messageOverhead)
    (hpackable : c.limits.maxFrameSize ≤ Lz4.maxInput) {token : Bytes}
    (htoken : token.length = tokenLength) (cipher : Cipher) (noise : Nat → UInt8) (out : Bytes) :
    ∃ out', encode (k.means noise) c.limits ⟨token, cipher, m⟩ out = .ok out' := by
  obtain ⟨-, hpos, hsize, -⟩ := AgentContext.ofSettings_spec hc
  obtain ⟨hfits, hsent⟩ := run_fits hrun hpos hsize trivial hpeak
  have hpayload : m.payload.length ≤ maxPayloadSize c.limits.maxFrameSize := by
    rcases hm with ⟨hm, hkind⟩ | ⟨id, hoffer⟩
    · exact hsent m hm hkind
    · exact hfits.length_le hoffer
  have hroom : k.HasRoom c.limits (⟨token, cipher, m⟩ : Message AgentKind) := {
    sealable := by rw [htoken]; exact hkey
    keyed := cipher.keyed_of_length htoken
    fields := hfields
    payload := hpayload
    usable := by omega
    packable := hpackable }
  exact hroom.encode_isOk noise out

/-- What happens to a client whose first octets are a head, up to the proxy's answer. -/
def browse (head : Bytes) : List Event :=
  [.first head.head?, .http (.read head), .http (.named "1"), .http (.opening (.tried true)),
    .http (.opening (.sent "a" .done)),
    .http (.opening (.received (.body (Body.connectSuccess "b" "user" "127.0.0.1" 80))))]

/-- The limits of an agent, and the message that it is sending after a client has browsed. -/
def browsed (settings : AgentSettings) (head : Bytes) : Option (Limits × Nat × Body AgentKind) := do
  let c ← (AgentContext.ofSettings settings).toOption
  let (_, s, _) ← run c localLink ⟨.empty, .empty⟩ .fresh (browse head)
  return (c.limits, peak c localLink ⟨.empty, .empty⟩ .fresh (browse head),
    ← s.offer c.userToken "c")

theorem exists_of_browsed {settings : AgentSettings} {head : Bytes} {l : Limits} {n : Nat}
    {m : Body AgentKind} (h : browsed settings head = some (l, n, m)) :
    ∃ c rs s effects, AgentContext.ofSettings settings = .ok c ∧ c.limits = l ∧
      run c localLink ⟨.empty, .empty⟩ .fresh (browse head) = some (rs, s, effects) ∧
      peak c localLink ⟨.empty, .empty⟩ .fresh (browse head) = n ∧
      s.offer c.userToken "c" = some m := by
  obtain ⟨c, hc, h⟩ := Option.bind_eq_some_iff.mp h
  obtain ⟨⟨rs, s, effects⟩, hrun, h⟩ := Option.bind_eq_some_iff.mp h
  obtain ⟨m', hoffer, h⟩ := Option.bind_eq_some_iff.mp h
  simp only [Option.pure_def, Option.some.injEq, Prod.mk.injEq] at h
  obtain ⟨hlimits, hpeak, rfl⟩ := h
  refine ⟨c, rs, s, effects, ?_, hlimits, hrun, hpeak, hoffer⟩
  cases hsettings : AgentContext.ofSettings settings with
  | error e =>
    rw [hsettings] at hc
    cases hc
  | ok c' =>
    rw [hsettings] at hc
    cases hc
    rfl

/-- A short head goes through. -/
theorem short_head_encoded : ∃ c rs s effects m, AgentContext.ofSettings oneProxy = .ok c ∧
    run c localLink ⟨.empty, .empty⟩ .fresh (browse getItem.front) = some (rs, s, effects) ∧
    s.offer c.userToken "c" = some m ∧
    ∃ out', encode ((KeyPair.ofKey mersenneKey).means 0) c.limits ⟨digits, .aes, m⟩ [] =
      .ok out' := by
  have houtcome : browsed oneProxy getItem.front = some (⟨false, defaultMaxFrameSize⟩, 18,
      Body.tcpData "c" "user" "127.0.0.1" 80 getItem.data) := by
    decide +kernel
  obtain ⟨c, rs, s, effects, hc, hlimits, hrun, hpeak, hoffer⟩ := exists_of_browsed houtcome
  have hsize : (KeyPair.ofKey mersenneKey).remote.size = 81 := by decide +kernel
  refine ⟨c, rs, s, effects, _, hc, hrun, hoffer, ?_⟩
  refine data_encoded hc hrun ?_ (Or.inr ⟨"c", hoffer⟩) ?_ ?_ ?_ ?_ .aes 0 []
  · rw [hpeak, hlimits]
    decide
  · rw [hsize]
    decide
  · rw [hsize]
    decide +kernel
  · rw [hlimits]
    decide
  · decide +kernel

/-- Frames that have room for a payload of 733 octets. -/
def smallFrames : AgentSettings := { oneProxy with frames := ⟨none, some 9000, none⟩ }

/-- A head with a long cookie, within the limit on heads. -/
def longHead : Bytes :=
  Bytes.ofText "GET http://127.0.0.1/ HTTP/1.1\r\nCookie: " ++ List.replicate 9000 97
    ++ Bytes.ofText "\r\n\r\n"

/-- **A data message that is refused**: heads are not cut, so with small frames a client's cookies
do not fit. -/
theorem long_head_refused : longHead.length ≤ Http.maxHeadSize ∧
    ∃ c rs s effects m, AgentContext.ofSettings smallFrames = .ok c ∧
      run c localLink ⟨.empty, .empty⟩ .fresh (browse longHead) = some (rs, s, effects) ∧
      s.offer c.userToken "c" = some m ∧ m.kind = .tcpData ∧
      ∀ (cipher : Cipher) (noise : Nat → UInt8) (out : Bytes),
        encode ((KeyPair.ofKey mersenneKey).means noise) c.limits ⟨digits, cipher, m⟩ out =
          .error (.stream (tooBig .invalidInput)) := by
  have houtcome : (browsed smallFrames longHead).map
      (fun x => (x.1, x.2.2.kind, x.2.2.payload.length)) =
      some (⟨false, 9000⟩, .tcpData, 9028) := by
    decide +kernel
  obtain ⟨⟨l, n, m⟩, hbrowsed, heq⟩ := Option.map_eq_some_iff.mp houtcome
  simp only [Prod.mk.injEq] at heq
  obtain ⟨rfl, hkind, hpayload⟩ := heq
  obtain ⟨c, rs, s, effects, hc, hlimits, hrun, -, hoffer⟩ := exists_of_browsed hbrowsed
  refine ⟨by decide +kernel, c, rs, s, effects, m, hc, hrun, hoffer, hkind, ?_⟩
  intro cipher noise out
  have hdigits : digits.length = tokenLength := by decide +kernel
  have hsize : (KeyPair.ofKey mersenneKey).remote.size = 81 := by decide +kernel
  rw [hlimits]
  refine KeyPair.encode_of_long ?_ (cipher.keyed_of_length hdigits) rfl ?_ noise out
  · change digits.length + 11 ≤ _
    rw [hdigits, hsize]
    decide
  · have hlimit : (⟨false, 9000⟩ : Limits).length = 9000 := by decide
    rw [hlimit, Body.length_encode, hpayload]
    omega

end AgentSession

end TunnelRelay
