import TunnelRelay.Http.Request
import TunnelRelay.Proofs.Bytes

/-!
# Heads that are written are read

A head is written with one blank between the parts of its request line, one blank behind the colon
of a header, and a carriage return before every line feed. What a reader has found can be written
like this (`wellFormed_of_head`), and what is written like this is found again as it was, whatever
stands behind it (`head_spell`).
-/

namespace TunnelRelay.Http

/-- A header that can be written: blanks at the ends of its value would be lost. -/
structure Header.WellFormed (x : Header) : Prop where
  name_ne_nil : x.name ≠ []
  name : ∀ y ∈ x.name, isToken y
  value : ∀ y ∈ x.value, isValue y
  value_head : ∀ y ∈ x.value.head?, isSpace y = false
  value_last : ∀ y ∈ x.value.getLast?, isSpace y = false

namespace Head

/-- A head that can be written. -/
structure WellFormed (h : Head) : Prop where
  method_ne_nil : h.method ≠ []
  method : ∀ y ∈ h.method, isToken y
  target_ne_nil : h.target ≠ ""
  target : ∀ y ∈ Bytes.ofText h.target, isTarget y
  minorVersion : h.minorVersion ≤ 1
  count : h.headers.length ≤ maxHeaders
  headers : ∀ x ∈ h.headers, x.WellFormed

/-- The head in writing. -/
def spell (h : Head) : Bytes :=
  h.method ++ Bytes.ofText s!" {h.target} HTTP/1.{h.minorVersion}" ++ newLine
    ++ h.headers.flatMap headerLine ++ newLine

/-- A head that is forwarded ends with a line. -/
theorem toBytes_ne_nil (h : Head) : h.toBytes ≠ [] := by
  simp [toBytes, newLine]

end Head

open Head (newLine headerLine)

variable {b t r w : Bytes} {x : Header} {h : Head} {hs : List Header} {n room : Nat}

/-! ## Parts that are written are read -/

theorem word_append {p : UInt8 → Bool} (hne : w ≠ []) (hw : ∀ y ∈ w, p y) (hp : p 0x20 = false)
    (t : Bytes) : word p (w ++ 0x20 :: t) = .complete w t := by
  have hrun := Scan.run_append (ε := HeadError) hw ⟨0x20, t, rfl, hp⟩
  rw [word, Scan.andThen_of_complete hrun, if_neg hne]
  rfl

theorem target_append {s : String} (hne : s ≠ "") (hs : ∀ y ∈ Bytes.ofText s, isTarget y)
    (t : Bytes) : target (Bytes.ofText s ++ 0x20 :: t) = .complete s t := by
  have hword := word_append (mt Bytes.ofText_eq_nil_iff.mp hne) hs rfl t
  rw [target, Scan.andThen_of_complete hword]
  simp only [Bytes.toText?_ofText]
  rfl

theorem expectAll_append {ε : Type} (e : ε) (w t : Bytes) :
    Scan.expectAll e w (w ++ t) = .complete () t := by
  induction w with
  | nil => rfl
  | cons y w ih =>
    have hfirst : Scan.expect y e (y :: (w ++ t)) = .complete () (w ++ t) := by
      simp [Scan.expect, Scan.andThen, Scan.octet, Scan.give]
    rw [Scan.expectAll, List.cons_append, Scan.andThen_of_complete hfirst, ih]

theorem minorVersion_append (hn : n ≤ 1) (t : Bytes) :
    minorVersion (Bytes.ofText "HTTP/1." ++ Bytes.ofText (toString n) ++ t) = .complete n t := by
  rw [List.append_assoc, minorVersion, Scan.andThen_of_complete (expectAll_append _ _ _)]
  obtain rfl | rfl : n = 0 ∨ n = 1 := by omega
  · rfl
  · rfl

theorem lineEnd_newLine (e : HeadError) (t : Bytes) :
    lineEnd e (newLine ++ t) = .complete () t := rfl

/-- Nothing is taken off a value that does not end in a blank. -/
theorem trimValue_eq {v : Bytes} (hv : ∀ y ∈ v.getLast?, isSpace y = false) : trimValue v = v := by
  rw [trimValue]
  cases hreverse : v.reverse with
  | nil => rw [List.reverse_eq_nil_iff.mp hreverse]; rfl
  | cons y r =>
    have hlast : y ∈ v.getLast? := by
      rw [List.getLast?_eq_head?_reverse, hreverse]
      rfl
    rw [List.dropWhile_cons_of_neg (by simp [hv y hlast]), ← hreverse, List.reverse_reverse]

/-- A header line that is written is read. -/
theorem header_append (hx : x.WellFormed) (t : Bytes) :
    header (headerLine x ++ t) = .complete x t := by
  obtain ⟨name, value⟩ := x
  have hline : headerLine ⟨name, value⟩ ++ t =
      name ++ 0x3A :: ([0x20] ++ (value ++ (newLine ++ t))) := by
    have hcolon : Bytes.ofText ": " = [0x3A, 0x20] := by decide +kernel
    simp [headerLine, hcolon]
  have hname := Scan.run_append (ε := HeadError) hx.name
    (t := 0x3A :: ([0x20] ++ (value ++ (newLine ++ t)))) ⟨0x3A, _, rfl, rfl⟩
  have hcolon : Scan.expect 0x3A HeadError.headerName
      (0x3A :: ([0x20] ++ (value ++ (newLine ++ t)))) =
      .complete () ([0x20] ++ (value ++ (newLine ++ t))) := rfl
  -- one blank stands before the value, which does not begin with another one
  have hblank : Scan.run isSpace ([0x20] ++ (value ++ (newLine ++ t))) =
      (.complete [0x20] (value ++ (newLine ++ t)) : Scanned HeadError Bytes) := by
    refine Scan.run_append (by simp [isSpace]) ?_
    cases value with
    | nil => exact ⟨13, 10 :: t, rfl, rfl⟩
    | cons y value => exact ⟨y, value ++ (newLine ++ t), rfl, hx.value_head y rfl⟩
  have hvalue := Scan.run_append (ε := HeadError) hx.value (t := newLine ++ t)
    ⟨13, 10 :: t, rfl, rfl⟩
  rw [hline, header, Scan.andThen_of_complete hname, if_neg hx.name_ne_nil,
    Scan.andThen_of_complete hcolon, Scan.andThen_of_complete hblank,
    Scan.andThen_of_complete hvalue, Scan.andThen_of_complete (lineEnd_newLine _ t),
    trimValue_eq hx.value_last]
  rfl

/-- No header line begins with the end of a line. -/
theorem exists_cons_headerLine (hx : x.WellFormed) (t : Bytes) :
    ∃ y r, headerLine x ++ t = y :: r ∧ ¬(y = 13 ∨ y = 10) := by
  obtain ⟨name, value⟩ := x
  cases name with
  | nil => exact absurd rfl hx.name_ne_nil
  | cons y name =>
    refine ⟨y, _, rfl, ?_⟩
    have hy := hx.name y List.mem_cons_self
    rintro (rfl | rfl)
    · cases hy
    · cases hy

theorem headers_append (hlength : hs.length ≤ room) (hhs : ∀ x ∈ hs, x.WellFormed) (t : Bytes) :
    headers room (hs.flatMap headerLine ++ (newLine ++ t)) = .complete hs t := by
  induction hs generalizing room with
  | nil =>
    cases room with
    | zero => rfl
    | succ room => rfl
  | cons x hs ih =>
    cases room with
    | zero => cases hlength
    | succ room =>
      have hx := hhs x List.mem_cons_self
      have hrest := ih (Nat.le_of_succ_le_succ hlength)
        (fun y hy => hhs y (List.mem_cons_of_mem x hy))
      obtain ⟨y, r, hcons, hy⟩ :=
        exists_cons_headerLine hx (hs.flatMap headerLine ++ (newLine ++ t))
      have hpeek : (Scan.peek : Scan HeadError UInt8) (y :: r) = .complete y (y :: r) := rfl
      rw [List.flatMap_cons, List.append_assoc, headers, hcons, Scan.andThen_of_complete hpeek,
        if_neg hy, ← hcons, Scan.andThen_of_complete (header_append hx _),
        Scan.andThen_of_complete hrest]
      rfl

/-- The octets between the method and the end of the request line. -/
theorem ofText_requestLine (s : String) (n : Nat) :
    Bytes.ofText s!" {s} HTTP/1.{n}" =
      0x20 :: (Bytes.ofText s ++
        0x20 :: (Bytes.ofText "HTTP/1." ++ Bytes.ofText (toString n))) := by
  have hblank : Bytes.ofText " " = [0x20] := by decide +kernel
  have hversion : Bytes.ofText " HTTP/1." = 0x20 :: Bytes.ofText "HTTP/1." := by decide +kernel
  have hparts : Bytes.ofText s!" {s} HTTP/1.{n}" =
      Bytes.ofText " " ++ Bytes.ofText s ++ Bytes.ofText " HTTP/1."
        ++ Bytes.ofText (toString n) := by
    rw [← Bytes.ofText_append, ← Bytes.ofText_append, ← Bytes.ofText_append]
    rfl
  rw [hparts, hblank, hversion]
  simp

/-- Behind a method and a blank stands a target, and what follows it. -/
theorem head_of_method {method : Bytes} (hne : method ≠ []) (hall : ∀ y ∈ method, isToken y)
    (t : Bytes) : head (method ++ 0x20 :: t) =
      (target.andThen fun s => minorVersion.andThen fun minor => (lineEnd .newLine).andThen fun _ =>
        (headers maxHeaders).andThen fun hs =>
          Scan.give (⟨method, s, minor, hs⟩ : Head)) t := by
  have hskip : skipLineEnds (method ++ 0x20 :: t) = .complete () (method ++ 0x20 :: t) := by
    cases method with
    | nil => exact absurd rfl hne
    | cons y method =>
      have hy := hall y List.mem_cons_self
      refine skipLineEnds_cons ?_ ?_ _
      · rintro rfl
        cases hy
      · rintro rfl
        cases hy
  rw [head, Scan.andThen_of_complete hskip, Scan.andThen_of_complete (word_append hne hall rfl t)]

/-- **A head that is written is read**, whatever stands behind it. -/
theorem head_spell (hh : h.WellFormed) (t : Bytes) : head (h.spell ++ t) = .complete h t := by
  obtain ⟨method, s, minor, hs⟩ := h
  -- what stands behind each part of the request line
  let behind := newLine ++ (hs.flatMap headerLine ++ (newLine ++ t))
  let version := Bytes.ofText "HTTP/1." ++ Bytes.ofText (toString minor) ++ behind
  have hspell : Head.spell ⟨method, s, minor, hs⟩ ++ t =
      method ++ 0x20 :: (Bytes.ofText s ++ 0x20 :: version) := by
    rw [Head.spell, ofText_requestLine]
    simp only [version, behind, List.append_assoc, List.cons_append]
  have htarget := target_append hh.target_ne_nil hh.target version
  have hminor := minorVersion_append hh.minorVersion behind
  have hheaders := headers_append hh.count hh.headers t
  rw [hspell, head_of_method hh.method_ne_nil hh.method, Scan.andThen_of_complete htarget,
    Scan.andThen_of_complete hminor, Scan.andThen_of_complete (lineEnd_newLine _ _),
    Scan.andThen_of_complete hheaders]
  rfl

/-! ## What has been read can be written -/

theorem word_eq_complete {p : UInt8 → Bool} (hword : word p b = .complete w r) :
    w ≠ [] ∧ ∀ y ∈ w, p y := by
  obtain ⟨v, behind, hrun, hv⟩ := Scan.andThen_eq_complete hword
  by_cases hne : v = []
  · rw [if_pos hne] at hv
    cases hv
  · rw [if_neg hne] at hv
    obtain ⟨_, _, _, hgive⟩ := Scan.andThen_eq_complete hv
    cases hgive
    exact ⟨hne, (Scan.run_eq_complete hrun).2.1⟩

theorem target_eq_complete {s : String} (htarget : target b = .complete s r) :
    s ≠ "" ∧ ∀ y ∈ Bytes.ofText s, isTarget y := by
  obtain ⟨w, behind, hword, hw⟩ := Scan.andThen_eq_complete htarget
  obtain ⟨hne, hall⟩ := word_eq_complete hword
  cases htext : Bytes.toText? w with
  | none =>
    simp only [htext] at hw
    cases hw
  | some found =>
    simp only [htext] at hw
    cases hw
    rw [← Bytes.ofText_of_toText? htext] at hne hall
    exact ⟨mt Bytes.ofText_eq_nil_iff.mpr hne, hall⟩

theorem minorVersion_eq_complete (hminor : minorVersion b = .complete n r) : n ≤ 1 := by
  obtain ⟨_, _, _, hrest⟩ := Scan.andThen_eq_complete hminor
  obtain ⟨y, _, _, hy⟩ := Scan.andThen_eq_complete hrest
  split at hy
  · cases hy
    exact Nat.zero_le 1
  · split at hy
    · cases hy
      exact Nat.le_refl 1
    · cases hy

/-- A value without the blanks at its end is a part of it and does not end in a blank. -/
theorem trimValue_spec (v : Bytes) :
    trimValue v <+: v ∧ ∀ y ∈ (trimValue v).getLast?, isSpace y = false := by
  constructor
  · rw [← List.reverse_suffix, trimValue, List.reverse_reverse]
    exact List.dropWhile_suffix isSpace
  · intro y hy
    rw [trimValue, List.getLast?_reverse] at hy
    have hfirst := List.head?_dropWhile_not isSpace v.reverse
    rw [Option.mem_def.mp hy] at hfirst
    exact hfirst

theorem header_eq_complete (hheader : header b = .complete x r) : x.WellFormed := by
  obtain ⟨name, _, hname, hrest⟩ := Scan.andThen_eq_complete hheader
  by_cases hne : name = []
  · rw [if_pos hne] at hrest
    cases hrest
  · rw [if_neg hne] at hrest
    obtain ⟨_, _, _, hrest⟩ := Scan.andThen_eq_complete hrest
    obtain ⟨blanks, behind, hblanks, hrest⟩ := Scan.andThen_eq_complete hrest
    obtain ⟨v, behind', hvalue, hrest⟩ := Scan.andThen_eq_complete hrest
    obtain ⟨_, _, _, hgive⟩ := Scan.andThen_eq_complete hrest
    cases hgive
    obtain ⟨-, -, y, r', rfl, hy⟩ := Scan.run_eq_complete hblanks
    obtain ⟨hcut, hv, -⟩ := Scan.run_eq_complete hvalue
    obtain ⟨hpart, hlast⟩ := trimValue_spec v
    refine ⟨hne, (Scan.run_eq_complete hname).2.1, fun z hz => hv z (hpart.subset hz), ?_, hlast⟩
    -- the octet that ended the blanks is the first one of the value, if there is any
    intro z hz
    obtain ⟨tail, htail⟩ := hpart
    cases htrim : trimValue v with
    | nil =>
      rw [htrim] at hz
      cases hz
    | cons z' v' =>
      rw [htrim] at hz htail
      cases hz
      rw [← htail] at hcut
      cases hcut
      exact hy

theorem headers_eq_complete (hheaders : headers room b = .complete hs r) :
    hs.length ≤ room ∧ ∀ x ∈ hs, x.WellFormed := by
  induction room generalizing b hs with
  | zero =>
    obtain ⟨y, _, _, hrest⟩ := Scan.andThen_eq_complete hheaders
    split at hrest
    · obtain ⟨_, _, _, hgive⟩ := Scan.andThen_eq_complete hrest
      cases hgive
      exact ⟨Nat.le_refl 0, fun x hx => absurd hx List.not_mem_nil⟩
    · obtain ⟨_, _, _, hfail⟩ := Scan.andThen_eq_complete hrest
      cases hfail
  | succ room ih =>
    obtain ⟨y, _, _, hrest⟩ := Scan.andThen_eq_complete hheaders
    split at hrest
    · obtain ⟨_, _, _, hgive⟩ := Scan.andThen_eq_complete hrest
      cases hgive
      exact ⟨Nat.zero_le _, fun x hx => absurd hx List.not_mem_nil⟩
    · obtain ⟨x, _, hheader, hrest⟩ := Scan.andThen_eq_complete hrest
      obtain ⟨hs', _, hmore, hgive⟩ := Scan.andThen_eq_complete hrest
      cases hgive
      obtain ⟨hlength, hall⟩ := ih hmore
      refine ⟨Nat.succ_le_succ hlength, ?_⟩
      intro x' hx'
      rcases List.mem_cons.mp hx' with rfl | hx'
      · exact header_eq_complete hheader
      · exact hall x' hx'

/-- What has been read can be written. -/
theorem wellFormed_of_head (hhead : head b = .complete h r) : h.WellFormed := by
  obtain ⟨_, _, _, hrest⟩ := Scan.andThen_eq_complete hhead
  obtain ⟨method, _, hmethod, hrest⟩ := Scan.andThen_eq_complete hrest
  obtain ⟨s, _, htarget, hrest⟩ := Scan.andThen_eq_complete hrest
  obtain ⟨minor, _, hminor, hrest⟩ := Scan.andThen_eq_complete hrest
  obtain ⟨_, _, _, hrest⟩ := Scan.andThen_eq_complete hrest
  obtain ⟨hs, _, hheaders, hgive⟩ := Scan.andThen_eq_complete hrest
  cases hgive
  obtain ⟨hmethod_ne, hmethod_all⟩ := word_eq_complete hmethod
  obtain ⟨htarget_ne, htarget_all⟩ := target_eq_complete htarget
  obtain ⟨hcount, hall⟩ := headers_eq_complete hheaders
  exact ⟨hmethod_ne, hmethod_all, htarget_ne, htarget_all, minorVersion_eq_complete hminor, hcount,
    hall⟩

end TunnelRelay.Http
