import TunnelRelay.Proofs.Except
import TunnelRelay.Proofs.Frame.Isolation

/-!
# Which failures are fatal

Whatever is wrong with the contents of a frame, from the size that a block declares to the last
field of a body, fails as a matter of the protocol or of the keys. A frame that is announced to be
longer than the limit fails before that: the layer that cuts the stream into frames refuses it with
an error of a stream, and a stream's errors are not fatal.
-/

namespace TunnelRelay.Frame

variable {κ : Type} [Family κ] {w : Means} {l : Limits} {contents plain : Bytes} {e : RelayError}

/-! ## The contents of a frame -/

theorem isFatal_of_mapError_protocol {α : Type} {x : Except ProtocolError α}
    (h : x.mapError RelayError.protocol = .error e) : e.isFatal = true := by
  obtain ⟨cause, -, rfl⟩ := mapError_eq_error_iff.mp h
  rfl

theorem isFatal_of_mapError_crypto {α : Type} {x : Except CryptoError α}
    (h : x.mapError RelayError.crypto = .error e) : e.isFatal = true := by
  obtain ⟨cause, -, rfl⟩ := mapError_eq_error_iff.mp h
  rfl

theorem isFatal_of_read (h : read (κ := κ) w plain = .error e) : e.isFatal = true := by
  -- the marker and the parts, the sealed token, the encrypted body, and the fields in it
  rcases error_or_exists_of_bind_eq_error h with hparts | ⟨p, -, h⟩
  · exact isFatal_of_mapError_protocol hparts
  rcases error_or_exists_of_bind_eq_error h with htoken | ⟨token, -, h⟩
  · exact isFatal_of_mapError_crypto htoken
  rcases error_or_exists_of_bind_eq_error h with htext | ⟨text, -, h⟩
  · exact isFatal_of_mapError_crypto htext
  rcases error_or_exists_of_bind_eq_error h with hbody | ⟨body, -, h⟩
  · exact isFatal_of_mapError_protocol hbody
  · cases h

/-- A frame whose contents cannot be made sense of fails for good, compressed or not. -/
theorem isFatal_of_open (h : open? (κ := κ) w l contents = .error e) : e.isFatal = true := by
  rcases error_or_exists_of_bind_eq_error h with hinflate | ⟨plain, -, hread⟩
  · exact isFatal_of_mapError_protocol hinflate
  · exact isFatal_of_read hread

/-! ## Whatever comes -/

/-- A failure is fatal, or it refuses a length above the limit. -/
theorem isFatal_or_of_answer {b : Bytes} {i : Nat}
    (h : answer (open? (κ := κ) w l) l.length b i = some (.error e)) :
    e.isFatal = true ∧ front l.length (behind l.length i b) ≠ .tooLong ∨
      e = .stream (tooBig .invalidData) ∧ front l.length (behind l.length i b) = .tooLong := by
  rcases answer_cases h with ⟨htooLong, hrefused⟩ | ⟨c, r, hfront, hopen⟩
  · cases hrefused
    exact .inr ⟨rfl, htooLong⟩
  · refine .inl ⟨isFatal_of_open hopen.symm, ?_⟩
    rw [hfront]
    exact nofun

/-- **Every failure is fatal but the refusal of a length above the limit.** Whatever octets come, in
whatever pieces and with whatever questions between them, a failure that a reader reports is fatal
or refuses a length; so all that it reports are fatal if and only if none of the lengths that it has
come to is above the limit. -/
theorem failures_fatal_unless_tooLong (w : Means) (l : Limits) (ts : List Turn) :
    (∀ e, .error e ∈ (replies (κ := κ) w l .empty ts).1 →
      e.isFatal = true ∨ e = .stream (tooBig .invalidData)) ∧
    ((∀ e, .error e ∈ (replies (κ := κ) w l .empty ts).1 → e.isFatal = true) ↔
      ∀ i < (replies (κ := κ) w l .empty ts).1.length,
        front l.length (behind l.length i (pushed ts)) ≠ .tooLong) := by
  have hfollows : Follows (κ := κ) (open? w l) l.length (pushed ts) (replies w l .empty ts).1 _ :=
    replies_spec (s := .empty) ts (Inbound.legal_unread l.length [])
  refine ⟨fun e he => ?_, fun hfatal i hi htooLong => ?_, fun hnone e he => ?_⟩
  · obtain ⟨i, -, hanswer⟩ := hfollows.mem_iff.mp he
    exact (isFatal_or_of_answer hanswer).imp And.left And.left
  · -- the refusal is among what was said, and it is not fatal
    have hrefused : answer (open? (κ := κ) w l) l.length (pushed ts) i = some refusal := by
      rw [answer, htooLong]
      rfl
    cases hfatal _ (hfollows.mem_iff.mpr ⟨i, hi, hrefused⟩)
  · obtain ⟨i, hi, hanswer⟩ := hfollows.mem_iff.mp he
    rcases isFatal_or_of_answer hanswer with ⟨hfatal, -⟩ | ⟨-, htooLong⟩
    · exact hfatal
    · exact absurd htooLong (hnone i hi)

/-- **A length above the limit is not fatal.** The length 1025 is refused at a limit of 1024. -/
theorem tooLong_not_fatal :
    ¬∀ e, .error e ∈ (replies (κ := AgentKind) ((KeyPair.ofKey mersenneKey).means 0) ⟨true, 1024⟩
        .empty [.push [0, 0, 4, 1], .ask]).1 → e.isFatal = true := by
  intro hfatal
  have hreplies : (replies (κ := AgentKind) ((KeyPair.ofKey mersenneKey).means 0) ⟨true, 1024⟩
      .empty [.push [0, 0, 4, 1], .ask]).1 = [refusal] := by rfl
  rw [hreplies] at hfatal
  cases hfatal _ (List.mem_singleton.mpr rfl)

end TunnelRelay.Frame
