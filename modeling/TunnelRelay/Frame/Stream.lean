import TunnelRelay.Frame.Codec

/-!
# Streams of messages

A sender puts one frame behind the other. The receiver sees the octets in pieces: each piece is
appended to what it holds, and then it decodes until it needs more octets or a frame does not read.
A caller that goes on after failures may push and ask in any order (`replies`).
-/

namespace TunnelRelay.Frame

variable {κ : Type} [Family κ]

/-- The frames of messages, appended to what waits to be sent. Each is encoded with the means of its
time, so that a token that comes again is not sealed as it was before. -/
def encodeAll (l : Limits) : List (Message κ × Means) → Bytes → Except RelayError Bytes
  | [], out => .ok out
  | (m, w) :: ms, out => do encodeAll l ms (← encode w l m out)

/-- Messages go behind what waits, one after the other, each with the means of its time. Where one
is refused the next goes on. The answer is what became of each. -/
def encodeEach (l : Limits) (ms : List (Message κ × Means)) :
    StateM Bytes (List (Except RelayError Unit)) :=
  ms.mapM fun (m, w) => (encodeOnto w l m).run

/-- How much a reader has left to look at. A remembered length counts too, so that handing out an
empty frame makes it less. -/
def Inbound.weight (s : Inbound) : Nat := 2 * s.buffer.length + s.awaited.toList.length

theorem weight_of_takeContents {n : Nat} {buffer contents : Bytes} {t : Inbound}
    (h : takeContents n buffer = (some contents, t)) : t.weight ≤ 2 * buffer.length := by
  unfold takeContents at h
  split at h
  · rename_i r hr
    cases h
    have := congrArg List.length (Bytes.append_of_split? hr).1
    simp only [List.length_append] at this
    simp [Inbound.weight]
    omega
  · cases h

/-- A frame that is handed out leaves less to look at. -/
theorem weight_of_next {limit : Nat} {s t : Inbound} {contents : Bytes}
    (h : next limit s = (.ok (some contents), t)) : t.weight < s.weight := by
  obtain ⟨buffer, _ | n⟩ := s
  · simp only [next] at h
    split at h
    · cases h
    · rename_i length r hr
      split at h
      · cases h
      · obtain ⟨hcut, hlength⟩ := Bytes.append_of_split? hr
        have htake : takeContents (Bytes.ofBigEndian length) r = (some contents, t) := by
          simpa [Prod.ext_iff] using h
        have hle := weight_of_takeContents htake
        have := congrArg List.length hcut
        simp only [List.length_append] at this
        simp only [Inbound.weight, Option.toList_none, List.length_nil] at hle ⊢
        omega
  · have htake : takeContents n buffer = (some contents, t) := by
      simpa [next, Prod.ext_iff] using h
    have hle := weight_of_takeContents htake
    simp only [Inbound.weight, Option.toList_some, List.length_singleton] at hle ⊢
    omega

theorem weight_of_decode {w : Means} {l : Limits} {s t : Inbound} {m : Message κ}
    (h : decode w l s = (.ok (some m), t)) : t.weight < s.weight := by
  unfold decode at h
  split at h
  · cases h
  · cases h
  · rename_i contents u hnext
    have htu : u = t := congrArg Prod.snd h
    exact htu ▸ weight_of_next hnext

/-- What a reader makes of the octets that it holds: messages, and at most one failure after
them. -/
def drain (w : Means) (l : Limits) (s : Inbound) :
    List (Except RelayError (Message κ)) × Inbound :=
  match h : decode w l s with
  | (.ok none, t) => ([], t)
  | (.error e, t) => ([.error e], t)
  | (.ok (some m), t) =>
    have := weight_of_decode h
    let (found, t) := drain w l t
    (.ok m :: found, t)
termination_by s.weight

theorem drain_of_none {w : Means} {l : Limits} {s t : Inbound}
    (h : decode (κ := κ) w l s = (.ok none, t)) : drain (κ := κ) w l s = ([], t) := by
  unfold drain
  split <;> simp_all

theorem drain_of_error {w : Means} {l : Limits} {s t : Inbound} {e : RelayError}
    (h : decode (κ := κ) w l s = (.error e, t)) : drain (κ := κ) w l s = ([.error e], t) := by
  unfold drain
  split <;> simp_all

theorem drain_of_some {w : Means} {l : Limits} {s t : Inbound} {m : Message κ}
    (h : decode w l s = (.ok (some m), t)) :
    drain w l s = (.ok m :: (drain w l t).1, (drain (κ := κ) w l t).2) := by
  rw [drain]
  split <;> simp_all

/-- What a reader makes of octets that come in pieces. -/
def feed (w : Means) (l : Limits) (s : Inbound) :
    List Bytes → List (Except RelayError (Message κ)) × Inbound
  | [] => ([], s)
  | piece :: pieces =>
    let (found, s) := drain w l (s.push piece)
    let (more, s) := feed w l s pieces
    (found ++ more, s)

/-! ## Asking in any order -/

/-- What happens to a reader: octets come, or it is asked for the next message. -/
inductive Turn where
  | push (b : Bytes)
  | ask
  deriving DecidableEq, Repr

/-- What a reader that is asked says, unless it needs more octets. -/
def reply? : Except RelayError (Option (Message κ)) → Option (Except RelayError (Message κ))
  | .ok none => none
  | .ok (some m) => some (.ok m)
  | .error e => some (.error e)

/-- What a reader says turn by turn. After a failure it is asked again like after a message. -/
def replies (w : Means) (l : Limits) (s : Inbound) :
    List Turn → List (Except RelayError (Message κ)) × Inbound
  | [] => ([], s)
  | .push b :: ts => replies w l (s.push b) ts
  | .ask :: ts =>
    let (r, s) := decode w l s
    let (found, s) := replies w l s ts
    ((reply? r).toList ++ found, s)

/-- All octets that came. -/
def pushed (ts : List Turn) : Bytes :=
  ts.flatMap fun
    | .push b => b
    | .ask => []

end TunnelRelay.Frame
