import TunnelRelay.Proofs.Frame.Stream

/-!
# Every frame is answered alone

A tunnel may carry anything. The lengths alone say where its frames end, so what a reader makes of a
frame depends on neither the frames around it nor the pieces in which the octets came. `front` and
`behind` find the frames of a whole stream without a state, `answer` is what a reader must say, and
`replies_spec` compares the reader with them turn by turn. The only octets that are never passed are
a length above the limit.
-/

namespace TunnelRelay.Frame

/-! ## The frames of a stream -/

/-- What stands at the front of a stream. -/
inductive Front where
  /-- A length, or the contents behind it, of which octets are missing. -/
  | incomplete
  /-- A length above the limit. -/
  | tooLong
  /-- A frame, and what follows it. -/
  | frame (contents rest : Bytes)
  deriving DecidableEq, Repr

/-- The front of a stream. -/
def front (limit : Nat) (b : Bytes) : Front :=
  match Bytes.split? 4 b with
  | none => .incomplete
  | some (length, r) =>
    if limit < Bytes.ofBigEndian length then .tooLong
    else
      match Bytes.split? (Bytes.ofBigEndian length) r with
      | none => .incomplete
      | some (contents, r) => .frame contents r

/-- What stands behind the first `i` frames. Nothing gets past a frame that is not complete or too
long. -/
def behind (limit : Nat) : Nat → Bytes → Bytes
  | 0, b => b
  | i + 1, b =>
    match front limit b with
    | .frame _ r => behind limit i r
    | _ => b

variable {limit : Nat} {b c r : Bytes}

theorem front_eq_frame_iff (hlimit : limit < UInt32.size) :
    front limit b = .frame c r ↔ c.length ≤ limit ∧ b = delimit c ++ r := by
  constructor
  · intro h
    unfold front at h
    split at h
    · cases h
    · rename_i length rest hlength
      obtain ⟨rfl, hfour⟩ := Bytes.append_of_split? hlength
      split at h
      · cases h
      · rename_i hle
        split at h
        · cases h
        · rename_i contents rest' hcontents
          cases h
          obtain ⟨rfl, hcount⟩ := Bytes.append_of_split? hcontents
          refine ⟨by omega, ?_⟩
          rw [delimit, hcount, Bytes.bigEndian32_ofBigEndian hfour, List.append_assoc]
  · rintro ⟨hle, rfl⟩
    have hvalue := Bytes.ofBigEndian_bigEndian32 (n := c.length) (by omega)
    have hnot : ¬limit < c.length := by omega
    simp only [front, delimit, List.append_assoc, Bytes.split?_bigEndian32, hvalue, hnot, if_false,
      Bytes.split?_append]

theorem front_eq_tooLong_iff :
    front limit b = .tooLong ↔
      ∃ length rest, b = length ++ rest ∧ length.length = 4 ∧ limit < Bytes.ofBigEndian length := by
  constructor
  · intro h
    unfold front at h
    split at h
    · cases h
    · rename_i length rest hlength
      obtain ⟨rfl, hfour⟩ := Bytes.append_of_split? hlength
      split at h
      · rename_i hlt
        exact ⟨length, rest, rfl, hfour, hlt⟩
      · split at h <;> cases h
  · rintro ⟨length, rest, rfl, hfour, hlt⟩
    simp only [front, Bytes.split?_of_length hfour, hlt, if_true]

/-- Octets that come later do not move a frame. -/
theorem front_append_of_frame (hlimit : limit < UInt32.size) (h : front limit b = .frame c r)
    (more : Bytes) : front limit (b ++ more) = .frame c (r ++ more) := by
  obtain ⟨hle, rfl⟩ := (front_eq_frame_iff hlimit).mp h
  exact (front_eq_frame_iff hlimit).mpr ⟨hle, List.append_assoc _ _ _⟩

theorem front_append_of_tooLong (h : front limit b = .tooLong) (more : Bytes) :
    front limit (b ++ more) = .tooLong := by
  obtain ⟨length, rest, rfl, hfour, hlt⟩ := front_eq_tooLong_iff.mp h
  exact front_eq_tooLong_iff.mpr ⟨length, rest ++ more, List.append_assoc _ _ _, hfour, hlt⟩

theorem behind_of_tooLong (h : front limit b = .tooLong) (i : Nat) : behind limit i b = b := by
  cases i with
  | zero => rfl
  | succ i => rw [behind, h]

theorem behind_succ_of_frame (h : front limit b = .frame c r) (i : Nat) :
    behind limit (i + 1) b = behind limit i r := by
  rw [behind, h]

/-! ## What a reader must say -/

/-- How a reader refuses a length above the limit. -/
def refusal {κ : Type} : Except RelayError (Message κ) := .error (.stream (tooBig .invalidData))

/-- What a reader that makes `f` of a frame's contents says of the front of a stream. -/
def Front.answer {κ : Type} (f : Bytes → Except RelayError (Message κ)) :
    Front → Option (Except RelayError (Message κ))
  | incomplete => none
  | tooLong => some refusal
  | frame contents _ => some (f contents)

/-- The `i`-th answer to a stream, once enough of it has come. -/
def answer {κ : Type} (f : Bytes → Except RelayError (Message κ)) (limit : Nat) (b : Bytes)
    (i : Nat) : Option (Except RelayError (Message κ)) :=
  (front limit (behind limit i b)).answer f

variable {κ : Type} {f : Bytes → Except RelayError (Message κ)}

theorem answer_of_tooLong (h : front limit b = .tooLong) (i : Nat) :
    answer f limit b i = some refusal := by
  rw [answer, behind_of_tooLong h, h]
  rfl

theorem answer_succ_of_frame (h : front limit b = .frame c r) (i : Nat) :
    answer f limit b (i + 1) = answer f limit r i := by
  rw [answer, behind_succ_of_frame h]
  rfl

/-- An answer refuses a length, or is what is made of a frame. -/
theorem answer_cases {i : Nat} {a : Except RelayError (Message κ)}
    (h : answer f limit b i = some a) :
    front limit (behind limit i b) = .tooLong ∧ a = refusal ∨
      ∃ c r, front limit (behind limit i b) = .frame c r ∧ a = f c := by
  unfold answer at h
  cases hfront : front limit (behind limit i b) with
  | incomplete =>
    rw [hfront] at h
    cases h
  | tooLong =>
    rw [hfront] at h
    exact .inl ⟨rfl, (Option.some.inj h).symm⟩
  | frame c r =>
    rw [hfront] at h
    exact .inr ⟨c, r, rfl, (Option.some.inj h).symm⟩

/-- An answer stays the same whatever comes later. -/
theorem answer_append (hlimit : limit < UInt32.size) {i : Nat}
    {a : Except RelayError (Message κ)} (h : answer f limit b i = some a) (more : Bytes) :
    answer f limit (b ++ more) i = some a := by
  -- one frame is taken off the front for each answer before this one
  induction i generalizing b with
  | zero =>
    change (front limit b).answer f = some a at h
    change (front limit (b ++ more)).answer f = some a
    cases hfront : front limit b with
    | incomplete =>
      rw [hfront] at h
      cases h
    | tooLong => rwa [front_append_of_tooLong hfront, ← hfront]
    | frame c r =>
      rw [hfront] at h
      rwa [front_append_of_frame hlimit hfront]
  | succ i ih =>
    cases hfront : front limit b with
    | incomplete =>
      rw [answer, behind, hfront] at h
      simp only [hfront, Front.answer, reduceCtorEq] at h
    | tooLong =>
      rw [answer_of_tooLong hfront] at h
      rwa [answer_of_tooLong (front_append_of_tooLong hfront more)]
    | frame c r =>
      rw [answer_succ_of_frame hfront] at h
      rw [answer_succ_of_frame (front_append_of_frame hlimit hfront more)]
      exact ih h

/-- What holds of a reader that has been sent `b`, has said `found` and has come to `s`: its answers
are those to the stream `b`, and it has passed one frame for each. -/
structure Follows (f : Bytes → Except RelayError (Message κ)) (limit : Nat) (b : Bytes)
    (found : List (Except RelayError (Message κ))) (s : Inbound) : Prop where
  each : ∀ i < found.length, found[i]? = answer f limit b i
  legal : s.Legal limit
  octets : s.octets = behind limit found.length b

namespace Follows

variable {found : List (Except RelayError (Message κ))} {s : Inbound}

/-- What has been said are the first answers to the stream. -/
theorem mem_iff (h : Follows f limit b found s) {a : Except RelayError (Message κ)} :
    a ∈ found ↔ ∃ i < found.length, answer f limit b i = some a := by
  rw [List.mem_iff_getElem?]
  constructor
  · rintro ⟨i, hi⟩
    obtain ⟨hlt, -⟩ := List.getElem?_eq_some_iff.mp hi
    exact ⟨i, hlt, by rw [← h.each i hlt, hi]⟩
  · rintro ⟨i, hlt, hi⟩
    exact ⟨i, by rw [h.each i hlt, hi]⟩

theorem cons_refusal (h : Follows f limit b found s) (hfront : front limit b = .tooLong) :
    Follows f limit b (refusal :: found) s where
  each i hi := by
    rw [answer_of_tooLong hfront]
    cases i with
    | zero => rfl
    | succ i =>
      rw [List.getElem?_cons_succ, h.each i (Nat.lt_of_succ_lt_succ hi), answer_of_tooLong hfront]
  legal := h.legal
  octets := by rw [h.octets, behind_of_tooLong hfront, behind_of_tooLong hfront]

theorem cons_frame (h : Follows f limit r found s) (hfront : front limit b = .frame c r) :
    Follows f limit b (f c :: found) s where
  each i hi := by
    cases i with
    | zero =>
      change some (f c) = (front limit b).answer f
      rw [hfront]
      rfl
    | succ i =>
      rw [List.getElem?_cons_succ, h.each i (Nat.lt_of_succ_lt_succ hi),
        answer_succ_of_frame hfront]
  legal := h.legal
  octets := by rw [h.octets, List.length_cons, behind_succ_of_frame hfront]

/-- Readers that follow two streams of which one begins with the other have said the same so far. -/
theorem comparable (hlimit : limit < UInt32.size) (h : Follows f limit b found s) {b' : Bytes}
    {found' : List (Except RelayError (Message κ))} {s' : Inbound}
    (h' : Follows f limit b' found' s') (hb : b <+: b') : found <+: found' ∨ found' <+: found := by
  obtain ⟨more, rfl⟩ := hb
  have hsame : ∀ i, i < found.length → i < found'.length → found[i]? = found'[i]? := by
    intro i hi hi'
    have hanswer := h.each i hi
    rw [List.getElem?_eq_getElem hi] at hanswer
    rw [h'.each i hi', answer_append hlimit hanswer.symm, List.getElem?_eq_getElem hi]
  rcases Nat.le_total found.length found'.length with hle | hle
  · left
    rw [List.prefix_iff_getElem?]
    intro i hi
    rw [← hsame i hi (by omega), List.getElem?_eq_getElem hi]
  · right
    rw [List.prefix_iff_getElem?]
    intro i hi
    rw [hsame i (by omega) hi, List.getElem?_eq_getElem hi]

end Follows

/-! ## One question -/

/-- While the front is incomplete a reader waits, and no octet is lost. -/
theorem next_of_front_incomplete (h : front limit b = .incomplete) :
    ∃ t, next limit ⟨b, none⟩ = (.ok none, t) ∧ t.octets = b ∧ t.Legal limit := by
  cases hlength : Bytes.split? 4 b with
  | none =>
    refine ⟨⟨b, none⟩, ?_, rfl, Inbound.legal_unread limit b⟩
    simp only [next, hlength]
  | some found =>
    obtain ⟨length, r⟩ := found
    obtain ⟨rfl, hfour⟩ := Bytes.append_of_split? hlength
    simp only [front, hlength] at h
    split at h
    · cases h
    · rename_i hle
      cases hcontents : Bytes.split? (Bytes.ofBigEndian length) r with
      | some found =>
        rw [hcontents] at h
        cases h
      | none =>
        -- the length is there, so it is remembered
        refine ⟨⟨r, some (Bytes.ofBigEndian length)⟩, ?_, ?_, ?_⟩
        · simp only [next, hlength, hle, if_false, takeContents, hcontents]
        · change Bytes.bigEndian32 (Bytes.ofBigEndian length) ++ r = length ++ r
          rw [Bytes.bigEndian32_ofBigEndian hfour]
        · rintro n ⟨⟩
          exact Nat.le_of_not_lt hle

/-- A length above the limit has not been taken off the front. -/
theorem Inbound.Legal.unread_of_tooLong (hlimit : limit < UInt32.size) {s : Inbound}
    (hs : s.Legal limit) (h : front limit s.octets = .tooLong) : s.awaited = none := by
  obtain ⟨buffer, _ | n⟩ := s
  · rfl
  · have hle : n ≤ limit := hs n rfl
    have hvalue := Bytes.ofBigEndian_bigEndian32 (n := n) (by omega)
    obtain ⟨length, rest, hoctets, hfour, hlt⟩ := front_eq_tooLong_iff.mp h
    obtain ⟨rfl, -⟩ := List.append_inj hoctets hfour.symm
    omega

/-- A length above the limit is refused and stays. -/
theorem next_of_front_tooLong (hlimit : limit < UInt32.size) {s : Inbound} (hs : s.Legal limit)
    (h : front limit s.octets = .tooLong) : next limit s = (.error (tooBig .invalidData), s) := by
  have hunread := hs.unread_of_tooLong hlimit h
  obtain ⟨buffer, awaited⟩ := s
  obtain rfl : awaited = none := hunread
  obtain ⟨length, rest, hbuffer, hfour, hlt⟩ := front_eq_tooLong_iff.mp h
  obtain rfl : buffer = length ++ rest := hbuffer
  simp only [next, Bytes.split?_of_length hfour, hlt, if_true]

variable [Family κ] {w : Means} {l : Limits} {s : Inbound}

/-- A reader that is asked says what the octets it holds call for, and passes one frame or
nothing. -/
theorem decode_spec (hs : s.Legal l.length) :
    reply? (decode (κ := κ) w l s).1 = (front l.length s.octets).answer (open? w l) ∧
      (decode (κ := κ) w l s).2.Legal l.length ∧
      (decode (κ := κ) w l s).2.octets =
        match front l.length s.octets with
        | .frame _ r => r
        | _ => s.octets := by
  cases hfront : front l.length s.octets with
  | incomplete =>
    obtain ⟨t, hnext, hoctets, ht⟩ := next_of_front_incomplete hfront
    rw [← next_octets l.length_lt hs] at hnext
    simp only [decode, hnext]
    exact ⟨rfl, ht, hoctets⟩
  | tooLong =>
    simp only [decode, next_of_front_tooLong l.length_lt hs hfront]
    exact ⟨rfl, hs, trivial⟩
  | frame c r =>
    obtain ⟨hle, hoctets⟩ := (front_eq_frame_iff l.length_lt).mp hfront
    rw [decode_delimit hle hs hoctets]
    refine ⟨?_, Inbound.legal_unread _ r, rfl⟩
    cases hopen : open? (κ := κ) w l c with
    | error e => simp only [Front.answer, hopen, Except.map, reply?]
    | ok m => simp only [Front.answer, hopen, Except.map, reply?]

/-! ## Turn by turn -/

/-- Turns keep a reader with the stream that came. -/
theorem replies_spec (ts : List Turn) (hs : s.Legal l.length) :
    Follows (κ := κ) (open? w l) l.length (s.octets ++ pushed ts) (replies w l s ts).1
      (replies (κ := κ) w l s ts).2 := by
  induction ts generalizing s with
  | nil => exact ⟨by simp [replies], hs, by simp [replies, pushed, behind]⟩
  | cons turn ts ih =>
    cases turn with
    | push b =>
      have h := ih (hs.push b)
      rw [Inbound.octets_push, List.append_assoc] at h
      exact h
    | ask =>
      obtain ⟨hreply, hlegal, hoctets⟩ := decode_spec (κ := κ) (w := w) hs
      have h := ih hlegal
      change Follows (open? w l) l.length (s.octets ++ pushed ts) _ _
      cases hfront : front l.length s.octets with
      | incomplete =>
        rw [hfront] at hreply hoctets
        rw [hoctets] at h
        simpa only [replies, hreply, Front.answer, Option.toList_none, Option.toList_some,
          List.nil_append, List.singleton_append] using h
      | tooLong =>
        rw [hfront] at hreply hoctets
        rw [hoctets] at h
        simpa only [replies, hreply, Front.answer, Option.toList_none, Option.toList_some,
          List.nil_append, List.singleton_append] using
          h.cons_refusal (front_append_of_tooLong hfront _)
      | frame c r =>
        rw [hfront] at hreply hoctets
        rw [hoctets] at h
        simpa only [replies, hreply, Front.answer, Option.toList_none, Option.toList_some,
          List.nil_append, List.singleton_append] using
          h.cons_frame (front_append_of_frame l.length_lt hfront _)

/-- From a length above the limit on every question is refused and nothing is consumed. -/
theorem replies_of_tooLong (hs : s.Legal l.length) (h : front l.length s.octets = .tooLong)
    (ts : List Turn) :
    replies (κ := κ) w l s ts = (List.replicate (ts.count .ask) refusal, s.push (pushed ts)) := by
  induction ts generalizing s with
  | nil => simp [replies, pushed, Inbound.push]
  | cons turn ts ih =>
    cases turn with
    | push b =>
      have hpush : front l.length (s.push b).octets = .tooLong := by
        rw [Inbound.octets_push]
        exact front_append_of_tooLong h b
      rw [replies, ih (hs.push b) hpush]
      simp [Inbound.push, pushed]
    | ask =>
      have hdecode : decode (κ := κ) w l s = (.error (.stream (tooBig .invalidData)), s) := by
        simp only [decode, next_of_front_tooLong l.length_lt hs h]
      simp [replies, hdecode, ih hs h, reply?, refusal, List.replicate_succ, pushed]

/-! ## Hostile streams -/

/-- What a tunnel end with the private key `own` makes of the contents of a frame. Of what the end
has nothing else is asked. -/
def opened (own : Rsa.PrivateKey) (l : Limits) (contents : Bytes) :
    Except RelayError (Message κ) :=
  open? ((KeyPair.ofKey own).means 0) l contents

theorem open_means (k : KeyPair) (noise : Nat → UInt8) (l : Limits) :
    open? (κ := κ) (k.means noise) l = opened k.own l := rfl

/-- Frames are isolated for a tunnel end with the keys `k` that has said `found` in the turns `ts`
and has come to `s`. -/
structure Isolated (k : KeyPair) (noise : Nat → UInt8) (l : Limits) (ts : List Turn)
    (found : List (Except RelayError (Message κ))) (s : Inbound) : Prop where
  /-- Each answer is what the private key and the limits make of one frame alone. -/
  each : ∀ i < found.length, found[i]? = answer (opened k.own l) l.length (pushed ts) i
  /-- The next question is answered if and only if the octets that it is about have come. -/
  due : reply? (decode (k.means noise) l s).1 =
    answer (opened (κ := κ) k.own l) l.length (pushed ts) found.length
  /-- A frame is passed whole with its answer, whatever the answer is, and nothing else is. -/
  passed : s.octets = behind l.length found.length (pushed ts)
  /-- An end with the same private key that is sent these octets in other pieces, and maybe more
  octets, says the same. -/
  uncut : ∀ (k' : KeyPair) (noise' : Nat → UInt8) (ts' : List Turn), k'.own = k.own →
    pushed ts <+: pushed ts' →
      found <+: (replies (k'.means noise') l .empty ts').1 ∨
        (replies (k'.means noise') l .empty ts').1 <+: found
  /-- Once a length above the limit stands in front, every question is refused and nothing is
  consumed. -/
  stuck : front l.length (behind l.length found.length (pushed ts)) = .tooLong → ∀ more,
    replies (κ := κ) (k.means noise) l s more =
      (List.replicate (more.count .ask) refusal, s.push (pushed more))

/-- **Every frame is answered alone.** Whatever octets come, in whatever pieces and with whatever
questions between them, each answer is what the private key and the limits make of the frame at that
place in the stream, and a length above the limit is refused for ever. -/
theorem replies_isolated (k : KeyPair) (noise : Nat → UInt8) (l : Limits) (ts : List Turn) :
    Isolated (κ := κ) k noise l ts (replies (k.means noise) l .empty ts).1
      (replies (κ := κ) (k.means noise) l .empty ts).2 := by
  have hfollows (k : KeyPair) (noise : Nat → UInt8) (ts : List Turn) :
      Follows (κ := κ) (opened k.own l) l.length (pushed ts)
        (replies (k.means noise) l .empty ts).1 (replies (κ := κ) (k.means noise) l .empty ts).2 :=
    replies_spec (w := k.means noise) (s := Inbound.empty) ts (Inbound.legal_unread _ _)
  have h := hfollows k noise ts
  refine ⟨h.each, ?_, h.octets, ?_, ?_⟩
  · rw [(decode_spec h.legal).1, h.octets, answer, open_means]
  · intro k' noise' ts' hown hprefix
    have h' := hfollows k' noise' ts'
    rw [hown] at h'
    exact h.comparable l.length_lt h' hprefix
  · intro htooLong more
    rw [← h.octets] at htooLong
    exact replies_of_tooLong h.legal htooLong more

/-- Two frames that do not read and a length that is too large, cut in the middle of the lengths. -/
example : replies (κ := ProxyKind) ((KeyPair.ofKey mersenneKey).means 0) ⟨false, 16⟩ .empty
    [.push [0, 0, 0], .ask, .push [1, 7, 0, 0, 0, 0, 0, 0], .ask, .ask, .ask, .push [0, 17], .ask,
      .ask] =
    ([.error (.protocol (.truncated "magic")), .error (.protocol (.truncated "magic")), refusal,
      refusal], ⟨[0, 0, 0, 17], none⟩) := by rfl

end TunnelRelay.Frame
