import TunnelRelay.Message
import TunnelRelay.Proofs.Message.Body

/-!
# Damaged bodies

A reader of bodies takes one field after the other off the front. If octets are missing at the end,
the first field that is not whole is the one in which the cut falls, and its reader says so before
any other can. `Diagnoses` is what the readers of the remaining fields must say, and each reader
hands it on to the next.
-/

namespace TunnelRelay.Body

variable {κ : Type} [Family κ]

/-! ## The place of each octet -/

/-- The fields of a body with their octets, in the order in which they are written. -/
def layout (m : Body κ) : List (Field × Bytes) :=
  [(.bodyType, [Family.code m.kind]), (.id, counted (Bytes.ofText m.id)),
    (.userToken, counted (Bytes.ofText m.user)), (.targetHost, counted (Bytes.ofText m.host)),
    (.targetPort, Bytes.bigEndian16 m.port), (.payload, counted m.payload)]

/-- The octets of fields, one behind the other. -/
def octets (fs : List (Field × Bytes)) : Bytes := fs.flatMap Prod.snd

/-- For each octet of fields the field that it belongs to. -/
def owners (fs : List (Field × Bytes)) : List Field :=
  fs.flatMap fun (f, x) => List.replicate x.length f

theorem octets_layout (m : Body κ) : octets m.layout = m.encode := by
  simp [octets, layout, encode]

/-! ## Readers of single fields -/

/-- The reader `take` of the field `f` finds `a` in the octets `x`, whatever follows them. With
fewer octets it says that the field is cut off. -/
structure Reads {α : Type} (take : Bytes → Except ProtocolError (α × Bytes)) (f : Field)
    (x : Bytes) (a : α) : Prop where
  whole : ∀ r, take (x ++ r) = .ok (a, r)
  short : ∀ b, b <+: x → b ≠ x → take b = .error (.truncated f.name)

/-- A cut may fall into the count or into what is counted. -/
theorem reads_takeCounted (f : Field) {x : Bytes} (h : x.length < UInt32.size) :
    Reads (takeCounted f) f (counted x) x where
  whole := takeCounted_counted f h
  short b hb hne := by
    have hlt := Bytes.length_lt_of_prefix hb hne
    rw [length_counted] at hlt
    unfold takeCounted
    split
    · rfl
    · rename_i count r hcount
      obtain ⟨rfl, hfour⟩ := Bytes.append_of_split? hcount
      -- the count is whole, so it is the one that was written
      obtain ⟨rest, hrest⟩ := hb
      rw [counted, List.append_assoc] at hrest
      obtain ⟨rfl, -⟩ := List.append_inj hrest (by simpa using hfour)
      have hmissing : Bytes.split? x.length r = none := by
        rw [Bytes.split?_eq_none_iff]
        simp at hlt
        omega
      rw [Bytes.ofBigEndian_bigEndian32 h, hmissing]

/-- That a text is UTF-8 is looked at only once all its octets are there. -/
theorem reads_takeText (f : Field) {s : String} (h : (Bytes.ofText s).length < UInt32.size) :
    Reads (takeText f) f (counted (Bytes.ofText s)) s where
  whole := takeText_counted f h
  short b hb hne := by
    simp only [takeText, (reads_takeCounted f h).short b hb hne, bind, Except.bind]

theorem reads_takePort (port : UInt16) :
    Reads takePort .targetPort (Bytes.bigEndian16 port) port where
  whole := takePort_bigEndian16 port
  short b hb hne := by
    have hlt := Bytes.length_lt_of_prefix hb hne
    rw [Bytes.length_bigEndian16] at hlt
    rw [takePort, Bytes.split?_eq_none_iff.mpr hlt]

/-- Takes the body type off the front. -/
def takeKind : Bytes → Except ProtocolError (κ × Bytes)
  | [] => .error (.truncated Field.bodyType.name)
  | code :: b => do
    let kind ← Family.read code
    .ok (kind, b)

theorem reads_takeKind (kind : κ) : Reads takeKind .bodyType [Family.code kind] kind where
  whole r := by
    simp [takeKind, Family.read, Family.ofCode?_code, bind, Except.bind]
  short b hb hne := by
    have hlt := Bytes.length_lt_of_prefix hb hne
    obtain rfl : b = [] := List.length_eq_zero_iff.mp (by simpa using hlt)
    rfl

/-! ## The fields of a body -/

/-- Whenever octets of the fields `fs` are missing at the end, `k` names the field of the first one
that is missing. -/
def Diagnoses {β : Type} (fs : List (Field × Bytes)) (k : Bytes → Except ProtocolError β) : Prop :=
  ∀ b, b <+: octets fs → b ≠ octets fs →
    ∃ f, (owners fs)[b.length]? = some f ∧ k b = .error (.truncated f.name)

/-- Of no octets none can be missing. -/
theorem diagnoses_nil {β : Type} (k : Bytes → Except ProtocolError β) : Diagnoses [] k :=
  fun _ hb hne => absurd (List.prefix_nil.mp hb) hne

/-- A reader names its own field or leaves it to the readers of the fields behind. -/
theorem Reads.diagnoses {α β : Type} {take : Bytes → Except ProtocolError (α × Bytes)} {f : Field}
    {x : Bytes} {a : α} (h : Reads take f x a) {fs : List (Field × Bytes)}
    {k : α × Bytes → Except ProtocolError β} (hk : Diagnoses fs fun r => k (a, r)) :
    Diagnoses ((f, x) :: fs) fun b => take b >>= k := by
  intro b hb hne
  have hoctets : octets ((f, x) :: fs) = x ++ octets fs := rfl
  have howners : owners ((f, x) :: fs) = List.replicate x.length f ++ owners fs := rfl
  rw [hoctets] at hb hne
  by_cases hx : x <+: b
  · obtain ⟨r, rfl⟩ := hx
    obtain ⟨g, hg, hr⟩ := hk r ((List.prefix_append_right_inj x).mp hb)
      fun heq => hne (heq ▸ rfl)
    refine ⟨g, ?_, ?_⟩
    · rw [howners, List.length_append, List.getElem?_append_right (by simp)]
      simpa using hg
    · simp only [h.whole, bind, Except.bind]
      exact hr
  · -- the field itself is cut off
    have hshort : b <+: x := by
      rcases List.prefix_or_prefix_of_prefix hb (List.prefix_append x _) with h | h
      · exact h
      · exact absurd h hx
    have hneq : b ≠ x := fun heq => hx (heq ▸ List.prefix_rfl)
    have hlt := Bytes.length_lt_of_prefix hshort hneq
    refine ⟨f, ?_, ?_⟩
    · rw [howners, List.getElem?_append_left (by simpa using hlt), List.getElem?_replicate,
        if_pos hlt]
    · simp only [h.short b hshort hneq, bind, Except.bind]

/-- A body is read field by field. -/
theorem decode_eq (b : Bytes) :
    decode (κ := κ) b = takeKind b >>= fun (kind, b) => takeText .id b >>= fun (id, b) =>
      takeText .userToken b >>= fun (user, b) => takeText .targetHost b >>= fun (host, b) =>
        takePort b >>= fun (port, b) => takeCounted .payload b >>= fun (payload, b) =>
          if b.isEmpty then .ok ⟨id, kind, user, host, port, payload⟩
          else .error (.trailingBytes b.length) := by
  cases b with
  | nil => rfl
  | cons code b =>
    cases hkind : Family.read (κ := κ) code with
    | error e => simp only [decode, takeKind, hkind, bind, Except.bind]
    | ok kind => simp only [decode, takeKind, hkind, bind, Except.bind]

/-- The readers of all fields, in their order, name the field in which a body is cut off. -/
theorem diagnoses_decode {m : Body κ} (h : m.Countable) :
    Diagnoses m.layout (decode (κ := κ)) := by
  rw [show decode (κ := κ) = _ from funext decode_eq]
  refine (reads_takeKind m.kind).diagnoses ?_
  refine (reads_takeText .id h.id).diagnoses ?_
  refine (reads_takeText .userToken h.user).diagnoses ?_
  refine (reads_takeText .targetHost h.host).diagnoses ?_
  refine (reads_takePort m.port).diagnoses ?_
  exact (reads_takeCounted .payload h.payload).diagnoses (diagnoses_nil _)

/-- What a reader makes of octets that are not a whole body, or more than one. -/
structure Diagnosed (m : Body κ) : Prop where
  /-- Where octets are missing at the end, the field that the first missing octet belongs to is
  named, and the name is that of no other field. -/
  cut : ∀ b, b <+: m.encode → b ≠ m.encode → ∃ f, (owners m.layout)[b.length]? = some f ∧
    decode b = (.error (.truncated f.name) : Except ProtocolError (Body κ)) ∧
      ∀ g : Field, g.name = f.name → g = f
  /-- Octets behind a body are counted. -/
  extended : ∀ r, r ≠ [] →
    decode (m.encode ++ r) = (.error (.trailingBytes r.length) : Except ProtocolError (Body κ))

/-- **A damaged body is refused with the right diagnosis.** If four octets can say how long each
field of a body is, then wherever its encoding is cut off the reader names the field in which the
cut falls, and octets behind it are counted. -/
theorem diagnosed_of_countable {m : Body κ} (h : m.Countable) : m.Diagnosed where
  cut b hb hne := by
    rw [← octets_layout] at hb hne
    obtain ⟨f, hf, hdecode⟩ := diagnoses_decode h b hb hne
    refine ⟨f, hf, hdecode, ?_⟩
    intro g
    cases f <;> cases g <;> decide
  extended r hr := by
    rw [decode_append h, if_neg (by simpa using hr)]

/-- A body whose user has a name of two octets. -/
def umlaut : Body ProxyKind := okTcp "1" "ü" "h" 80 [7]

/-- The user's name is cut in the middle of its only character. -/
theorem umlaut_diagnosed : umlaut.Countable ∧
    decode (umlaut.encode.take 11) =
      (.error (.truncated "user token") : Except ProtocolError (Body ProxyKind)) ∧
    decode (umlaut.encode ++ [0, 0]) =
      (.error (.trailingBytes 2) : Except ProtocolError (Body ProxyKind)) := by
  have hcountable : umlaut.Countable := ⟨by decide, by decide, by decide, by decide⟩
  have h := diagnosed_of_countable hcountable
  obtain ⟨f, hf, hdecode, -⟩ := h.cut (umlaut.encode.take 11) (List.take_prefix _ _) (by decide)
  have hfield : (owners umlaut.layout)[(umlaut.encode.take 11).length]? = some .userToken := by
    decide
  obtain rfl : Field.userToken = f := Option.some.inj (hfield.symm.trans hf)
  exact ⟨hcountable, hdecode, h.extended [0, 0] (by decide)⟩

end TunnelRelay.Body
