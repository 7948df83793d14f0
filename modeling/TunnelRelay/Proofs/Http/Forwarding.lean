import TunnelRelay.Proofs.Http.Reading
import TunnelRelay.Proofs.Http.Spelling
import TunnelRelay.Proofs.Url

/-!
# Heads that are forwarded

A head is forwarded with the path and the query of its target, if that is a URL with a host, and
without the headers that are meant for the relay. Read again it is the head that was meant, with the
same body behind it, and forwarded again it stays as it is. There is one exception: of a URL that
has neither a path nor a query nothing is left, and a head without a target cannot be read.
-/

namespace TunnelRelay

/-- What is asked for at the host of a URL. -/
def Url.inside (u : Url) : List Char :=
  match u.query with
  | some q => u.path ++ '?' :: q
  | none => u.path

namespace Http

open Head (newLine headerLine isForRelay)

variable {size : Nat} {b r : Bytes} {h : Head} {q : Request} {u : Url}

/-- The head that its target is sent. -/
def Head.forwarded (h : Head) : Head :=
  ⟨h.method, h.originTarget, h.minorVersion, h.headers.filter (!isForRelay ·)⟩

/-- The request that its target is sent. -/
def Request.forwarded (q : Request) : Request := ⟨q.head.forwarded, q.contentLength, q.chunked⟩

/-- The target is a URL that leaves nothing to ask for at its host. -/
def Head.IsBare (h : Head) : Prop :=
  ∃ u, Url.ofText h.target.toList = .ok u ∧ u.host.isSome ∧ Url.Scheme.of u.scheme = .other ∧
    u.path = [] ∧ u.query = none

/-- What a forwarded head is found to be when it is read again: itself, in its own octets and with
the body of the head from which it comes. -/
structure ReadsBack (size : Nat) (q : Request) : Prop where
  found : feed size .empty [q.head.toBytes] =
    ⟨[⟨.head q.forwarded, q.head.toBytes⟩], none, ⟨[], q.contentLength⟩⟩
  /-- It is forwarded as it is. -/
  again : q.forwarded.head.toBytes = q.head.toBytes

theorem Head.toBytes_eq_spell (h : Head) : h.toBytes = h.forwarded.spell := rfl

/-! ## Targets -/

theorem Head.originTarget_of_url (hurl : Url.ofText h.target.toList = .ok u) (hhost : u.host.isSome)
    (hconnect : h.isConnect = false) : h.originTarget = String.ofList u.inside := by
  have hnot : u.host.isNone = false := by
    rw [Option.isNone_eq_false_iff]
    exact hhost
  rw [originTarget, hurl]
  simp only [hconnect, hnot, Bool.false_or, Bool.false_eq_true, if_false, Url.inside]
  cases u.query with
  | none => rfl
  | some q => rfl

/-- A target that is no URL with a host is left as it is. -/
theorem Head.originTarget_eq_target
    (hurl : ∀ u, Url.ofText h.target.toList = .ok u → u.host = none) :
    h.originTarget = h.target := by
  rw [originTarget]
  split
  · rename_i u hu
    rw [hurl u hu]
    simp
  · rfl

/-- What is left of a URL starts with a slash or with a question mark, if anything is left. -/
theorem inside_cases (hu : u.IsSpelled) :
    (u.inside = [] ∧ Url.Scheme.of u.scheme = .other ∧ u.path = [] ∧ u.query = none) ∨
      ∃ cs, u.inside = '/' :: cs ∨ u.inside = '?' :: cs := by
  rw [Url.inside]
  rcases hu.start with ⟨hpath, hother⟩ | ⟨cs, hpath⟩
  · cases hquery : u.query with
    | none => exact Or.inl ⟨hpath, hother, hpath, rfl⟩
    | some q =>
      rw [hpath]
      exact Or.inr ⟨q, Or.inr rfl⟩
  · rw [hpath]
    cases hquery : u.query with
    | none => exact Or.inr ⟨cs, Or.inl rfl⟩
    | some q => exact Or.inr ⟨cs ++ '?' :: q, Or.inl rfl⟩

/-- It is no URL. -/
theorem ofText_inside (hu : u.IsSpelled) : Url.ofText u.inside = .error .noScheme := by
  rcases inside_cases hu with ⟨hempty, -⟩ | ⟨cs, hslash | hquestion⟩
  · rw [hempty]
    rfl
  · rw [hslash, Url.ofText_cons (by decide) (by decide)]
  · rw [hquestion, Url.ofText_cons (by decide) (by decide)]

theorem isVisible_inside (hu : u.IsSpelled) : ∀ c ∈ u.inside, Url.IsVisible c := by
  rw [Url.inside]
  cases hquery : u.query with
  | none => exact hu.path
  | some q =>
    intro c hc
    rcases List.mem_append.mp hc with hc | hc
    · exact hu.path c hc
    · rcases List.mem_cons.mp hc with rfl | hc
      · exact ⟨by decide, by decide⟩
      · exact hu.query q hquery c hc

/-- A visible text can be a target. -/
theorem isTarget_of_isVisible {cs : List Char} (hcs : ∀ c ∈ cs, Url.IsVisible c) :
    ∀ y ∈ Bytes.ofText (String.ofList cs), isTarget y := by
  intro y hy
  rw [Bytes.ofText_ofList] at hy
  obtain ⟨c, hc, hy⟩ := List.mem_flatMap.mp hy
  obtain ⟨hlow, hhigh⟩ := hcs c hc
  have hascii : c.val.toNat ≤ 127 := Nat.le_of_lt hhigh
  simp only [String.utf8EncodeChar, if_pos hascii, List.mem_singleton] at hy
  have hvalue : y.toNat = c.toNat := by
    rw [hy, UInt8.toNat_ofNat']
    exact Nat.mod_eq_of_lt (by omega)
  have hne : y ≠ 0x7F := by
    rintro rfl
    rw [← hvalue] at hhigh
    exact absurd hhigh (by decide)
  have hle : 0x21 ≤ y := by
    rw [UInt8.le_iff_toNat_le, hvalue]
    exact hlow
  simp [isTarget, hle, hne]

/-- Where a target is rewritten, it is rewritten to something that is no URL. -/
theorem Head.originTarget_cases (h : Head) (hconnect : h.isConnect = false) :
    (h.originTarget = h.target ∧ ∀ u, Url.ofText h.target.toList = .ok u → u.host = none) ∨
      ∃ u, Url.ofText h.target.toList = .ok u ∧ u.host.isSome ∧ u.IsSpelled ∧
        h.originTarget = String.ofList u.inside := by
  by_cases hurl : ∃ u, Url.ofText h.target.toList = .ok u ∧ u.host.isSome
  · obtain ⟨u, hu, hhost⟩ := hurl
    obtain ⟨_, _, _, hassembled⟩ := Url.assembled_of_ofText hu
    exact Or.inr ⟨u, hu, hhost, hassembled.isSpelled, originTarget_of_url hu hhost hconnect⟩
  · have hnone : ∀ u, Url.ofText h.target.toList = .ok u → u.host = none := by
      intro u hu
      rw [← Option.not_isSome_iff_eq_none]
      exact fun hhost => hurl ⟨u, hu, hhost⟩
    exact Or.inl ⟨originTarget_eq_target hnone, hnone⟩

/-- Nothing is left of a target just if it is bare. -/
theorem Head.originTarget_eq_empty_iff (hconnect : h.isConnect = false) (hne : h.target ≠ "") :
    h.originTarget = "" ↔ h.IsBare := by
  constructor
  · intro hempty
    rcases h.originTarget_cases hconnect with ⟨hsame, -⟩ | ⟨u, hu, hhost, hspelled, hinside⟩
    · rw [hsame] at hempty
      exact absurd hempty hne
    · rw [hempty, eq_comm, String.ofList_eq_empty_iff] at hinside
      rcases inside_cases hspelled with ⟨-, hother, hpath, hquery⟩ | ⟨cs, hslash | hquestion⟩
      · exact ⟨u, hu, hhost, hother, hpath, hquery⟩
      · rw [hinside] at hslash
        cases hslash
      · rw [hinside] at hquestion
        cases hquestion
  · rintro ⟨u, hu, hhost, -, hpath, hquery⟩
    rw [originTarget_of_url hu hhost hconnect, Url.inside, hquery, hpath]

/-- What a target is rewritten to stays as it is. -/
theorem Head.originTarget_forwarded (hconnect : h.isConnect = false) :
    h.forwarded.originTarget = h.originTarget := by
  refine originTarget_eq_target (h := h.forwarded) ?_
  intro u hu
  change Url.ofText h.originTarget.toList = .ok u at hu
  rcases h.originTarget_cases hconnect with ⟨hsame, hnone⟩ | ⟨_, -, -, hspelled, hinside⟩
  · rw [hsame] at hu
    exact hnone u hu
  · rw [hinside, String.toList_ofList, ofText_inside hspelled] at hu
    cases hu

/-! ## Headers -/

/-- A header that is not meant for the relay is still there. -/
theorem Head.values_forwarded (h : Head) {name : String}
    (hconnection : Text.sameWord (Bytes.ofText name) (Bytes.ofText "Proxy-Connection") = false)
    (hauthorization :
      Text.sameWord (Bytes.ofText name) (Bytes.ofText "Proxy-Authorization") = false) :
    h.forwarded.values name = h.values name := by
  have hkept : ∀ x : Header, Text.sameWord x.name (Bytes.ofText name) → isForRelay x = false := by
    intro x hx
    simp only [Text.sameWord, beq_iff_eq] at hx
    simp only [isForRelay, Text.sameWord, hx]
    simpa [Text.sameWord] using And.intro hconnection hauthorization
  rw [values, values, forwarded, List.filter_filter]
  refine congrArg (List.map _) (List.filter_congr fun x _ => ?_)
  cases hname : Text.sameWord x.name (Bytes.ofText name) with
  | false => rfl
  | true =>
    rw [hkept x hname]
    rfl

/-- The body behind a forwarded head is the body behind the head from which it comes. -/
theorem Head.request_forwarded (hrequest : h.request = .ok q) :
    h.forwarded.request = .ok q.forwarded := by
  have hchunked : h.forwarded.isChunked = h.isChunked := by
    rw [isChunked, isChunked, values_forwarded _ (by decide +kernel) (by decide +kernel)]
  have hlength : h.forwarded.declaredLength = h.declaredLength := by
    rw [declaredLength, declaredLength,
      values_forwarded _ (by decide +kernel) (by decide +kernel)]
  have hconnect : h.forwarded.isConnect = h.isConnect := rfl
  rw [request] at hrequest ⊢
  rw [hchunked, hconnect, hlength]
  split at hrequest
  · rename_i hopaque
    rw [if_pos hopaque]
    cases hrequest
    rfl
  · rename_i hplain
    rw [if_neg hplain]
    cases hdeclared : h.declaredLength with
    | error e =>
      rw [hdeclared] at hrequest
      cases hrequest
    | ok n =>
      rw [hdeclared] at hrequest
      cases hrequest
      rfl

theorem Head.forwarded_forwarded (hconnect : h.isConnect = false) :
    h.forwarded.forwarded = h.forwarded := by
  have htarget := originTarget_forwarded hconnect
  have hheaders : h.forwarded.headers.filter (!isForRelay ·) = h.forwarded.headers := by
    rw [forwarded, List.filter_filter]
    simp only [Bool.and_self]
  rw [forwarded, htarget, hheaders]
  rfl

/-! ## Forwarded heads -/

theorem Head.WellFormed.forwarded (hh : h.WellFormed) (hconnect : h.isConnect = false)
    (hne : h.originTarget ≠ "") : h.forwarded.WellFormed where
  method_ne_nil := hh.method_ne_nil
  method := hh.method
  target_ne_nil := hne
  target := by
    show ∀ y ∈ Bytes.ofText h.originTarget, isTarget y
    rcases h.originTarget_cases hconnect with ⟨hsame, -⟩ | ⟨_, -, -, hspelled, hinside⟩
    · rw [hsame]
      exact hh.target
    · rw [hinside]
      exact isTarget_of_isVisible (isVisible_inside hspelled)
  minorVersion := hh.minorVersion
  count := Nat.le_trans (List.length_filter_le _ _) hh.count
  headers x hx := hh.headers x (List.mem_of_mem_filter hx)

/-- A head without a target is refused at the blank where the target should be. -/
theorem head_of_target_empty {k : Head} (hk : k.method ≠ [] ∧ ∀ y ∈ k.method, isToken y)
    (hempty : k.target = "") : Http.head k.spell = .invalid .token := by
  have hspell : k.spell = k.method ++ 0x20 :: 0x20 :: (Bytes.ofText "HTTP/1." ++
      (Bytes.ofText (toString k.minorVersion) ++
        (newLine ++ (k.headers.flatMap headerLine ++ newLine)))) := by
    rw [Head.spell, hempty, ofText_requestLine, Bytes.ofText_eq_nil_iff.mpr rfl]
    simp only [List.append_assoc, List.cons_append, List.nil_append]
  rw [hspell, head_of_method hk.1 hk.2]
  rfl

/-- A forwarded head of which no target is left is refused. -/
theorem feed_of_target_empty (hmethod : h.method ≠ [] ∧ ∀ y ∈ h.method, isToken y)
    (hempty : h.originTarget = "") : feed size .empty [h.toBytes] =
      ⟨[], some (.malformed .token), ⟨h.toBytes, 0⟩⟩ := by
  have hinvalid : Http.head h.toBytes = .invalid .token :=
    head_of_target_empty (k := h.forwarded) hmethod hempty
  refine feed_of_error h.toBytes_ne_nil ?_
  simp only [nextHead, hinvalid]

/-- **A forwarded head reads back as what was meant**, unless its target is bare. -/
theorem readsBack_iff (hhead : Http.head b = .complete h r) (hrequest : h.request = .ok q)
    (hconnect : h.isConnect = false) : ReadsBack size q ↔ ¬h.IsBare := by
  obtain rfl := Head.head_of_request hrequest
  have hwellFormed := wellFormed_of_head hhead
  rw [← Head.originTarget_eq_empty_iff hconnect hwellFormed.target_ne_nil]
  constructor
  · intro hreads hempty
    have hfound := hreads.found
    rw [feed_of_target_empty ⟨hwellFormed.method_ne_nil, hwellFormed.method⟩ hempty] at hfound
    cases hfound
  · intro hne
    have hspell := head_spell (hwellFormed.forwarded hconnect hne) []
    rw [List.append_nil, ← Head.toBytes_eq_spell] at hspell
    refine ⟨feed_of_head hspell (Head.request_forwarded hrequest), ?_⟩
    show q.head.forwarded.toBytes = q.head.toBytes
    rw [Head.toBytes_eq_spell, Head.toBytes_eq_spell, Head.forwarded_forwarded hconnect]

/-- A head for the relay at a host, with a header that is meant for the relay. -/
def relayedHead : Head :=
  ⟨Bytes.ofText "GET", "http://127.0.0.1/a?b", 1,
    [⟨Bytes.ofText "Host", Bytes.ofText "127.0.0.1"⟩,
      ⟨Bytes.ofText "Proxy-Connection", Bytes.ofText "close"⟩]⟩

theorem relayedHead_readsBack :
    Http.head relayedHead.spell = .complete relayedHead [] ∧
      relayedHead.request = .ok ⟨relayedHead, 0, false⟩ ∧ relayedHead.isConnect = false ∧
        ReadsBack defaultPieceSize ⟨relayedHead, 0, false⟩ := by
  have hhead : Http.head relayedHead.spell = .complete relayedHead [] := by decide +kernel
  have hrequest : relayedHead.request = .ok ⟨relayedHead, 0, false⟩ := by decide +kernel
  have hconnect : relayedHead.isConnect = false := by decide +kernel
  have hnot : ¬relayedHead.IsBare := by
    rintro ⟨u, hu, -, -, hpath, -⟩
    have hread : (Url.ofText relayedHead.target.toList).map (·.path) = .ok "/a".toList := by
      decide +kernel
    rw [hu] at hread
    have hsame : u.path = "/a".toList := Except.ok.inj hread
    rw [hpath] at hsame
    exact absurd hsame (by decide)
  exact ⟨hhead, hrequest, hconnect, (readsBack_iff hhead hrequest hconnect).mpr hnot⟩

/-- A head with a bare target. -/
def bareHead : Head :=
  ⟨Bytes.ofText "GET", "foo://h", 1, [⟨Bytes.ofText "Host", Bytes.ofText "h"⟩]⟩

/-- A head with a bare target is found, and refused when it is read as it is forwarded. -/
theorem bareHead_refused :
    Http.head (Bytes.ofText "GET foo://h HTTP/1.1\r\nHost: h\r\n\r\n") = .complete bareHead [] ∧
      bareHead.request = .ok ⟨bareHead, 0, false⟩ ∧ bareHead.isConnect = false ∧
        feed defaultPieceSize .empty [bareHead.toBytes] =
          ⟨[], some (.malformed .token), ⟨bareHead.toBytes, 0⟩⟩ := by
  have hmethod : bareHead.method ≠ [] ∧ ∀ y ∈ bareHead.method, isToken y := by decide +kernel
  have hempty : bareHead.originTarget = "" := by decide +kernel
  exact ⟨by decide +kernel, by decide +kernel, by decide +kernel,
    feed_of_target_empty hmethod hempty⟩

end Http

end TunnelRelay
