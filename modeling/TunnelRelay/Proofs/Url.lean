import TunnelRelay.Proofs.Except
import TunnelRelay.Url
import Mathlib.Data.List.Infix
import Mathlib.Data.List.TakeWhile
import Mathlib.Tactic.Common

/-!
# What is read from a URL

Whatever characters a URL is written with, its path and its query hold visible ASCII characters
only. A path starts with a slash, unless it is the empty path of a scheme that is not one of the
web. A port fits in two octets, and the scheme stands in front of the first colon: a text that does
not start with a letter is no URL at all.
-/

namespace TunnelRelay.Url

/-- An ASCII character that is neither a blank nor a control character. -/
def IsVisible (c : Char) : Prop := 0x21 ≤ c.toNat ∧ c.toNat < 0x7F

variable {cs r : List Char} {c : Char} {P : Char → Prop}

/-! ## Characters -/

theorem isVisible_upperHexDigit {n : Nat} (hn : n < 16) : IsVisible (upperHexDigit n) := by
  have hall : ∀ m : Fin 16, 0x21 ≤ (upperHexDigit m).toNat ∧ (upperHexDigit m).toNat < 0x7F := by
    decide
  exact hall ⟨n, hn⟩

theorem isVisible_percent (x : UInt8) : ∀ c ∈ percent x, IsVisible c := by
  have hx := x.toNat_lt
  intro c hc
  simp only [percent, List.mem_cons, List.not_mem_nil, or_false] at hc
  rcases hc with rfl | rfl | rfl
  · exact ⟨by decide, by decide⟩
  · exact isVisible_upperHexDigit (by omega)
  · exact isVisible_upperHexDigit (by omega)

/-- Where blanks are encoded, every character becomes visible. -/
theorem isVisible_percentEncode {s : EncodeSet} (hs : ' ' ∈ s.extra) (cs : List Char) :
    ∀ c ∈ percentEncode s cs, IsVisible c := by
  intro c hc
  obtain ⟨d, -, hd⟩ := List.mem_flatMap.mp hc
  by_cases hkeeps : s.keeps d
  · rw [if_pos hkeeps, List.mem_singleton] at hd
    subst hd
    simp only [EncodeSet.keeps, Bool.and_eq_true, decide_eq_true_eq, Bool.not_eq_true',
      List.contains_eq_mem, decide_eq_false_iff_not] at hkeeps
    obtain ⟨⟨hlow, hhigh⟩, hextra⟩ := hkeeps
    refine ⟨?_, hhigh⟩
    -- the blank is the one character that would be left between the bounds
    have hne : c.toNat ≠ 0x20 := by
      intro hblank
      have hc : c = ' ' := Char.toNat_inj.mp hblank
      exact hextra (hc ▸ hs)
    omega
  · rw [if_neg hkeeps] at hd
    obtain ⟨x, -, hx⟩ := List.mem_flatMap.mp hd
    exact isVisible_percent x c hx

/-! ## Segments -/

theorem segments_ne_nil (divides : Char → Bool) (cs : List Char) : segments divides cs ≠ [] := by
  cases cs with
  | nil => exact List.cons_ne_nil _ _
  | cons c cs =>
    rw [segments]
    split
    · exact List.cons_ne_nil _ _
    · split
      · exact List.cons_ne_nil _ _
      · exact List.cons_ne_nil _ _

/-- Segments hold characters of the text that they are cut from. -/
theorem forall_segments {divides : Char → Bool} (h : ∀ c ∈ cs, P c) :
    ∀ s ∈ segments divides cs, ∀ c ∈ s, P c := by
  induction cs with
  | nil => simp [segments]
  | cons c cs ih =>
    have hrest := ih fun d hd => h d (List.mem_cons_of_mem c hd)
    rw [segments]
    split
    · exact List.forall_mem_cons.mpr ⟨fun c hc => absurd hc List.not_mem_nil, hrest⟩
    · split
      · simpa using h c List.mem_cons_self
      · rename_i s r heq
        rw [heq, List.forall_mem_cons] at hrest
        refine List.forall_mem_cons.mpr ⟨?_, hrest.2⟩
        exact List.forall_mem_cons.mpr ⟨h c List.mem_cons_self, hrest.1⟩

theorem mem_takeBack {before : List (List Char)} {s : List Char} (hs : s ∈ takeBack before) :
    s ∈ before := by
  rw [takeBack] at hs
  split at hs
  · exact hs
  · exact List.mem_of_mem_tail hs

/-- What is there when a segment has been added was there before or is that segment, unless it is
empty. -/
theorem mem_addSegment {before : List (List Char)} {segment s : List Char} {last : Bool}
    (hs : s ∈ addSegment before segment last) : s = [] ∨ s = segment ∨ s ∈ before := by
  rw [addSegment] at hs
  split at hs
  · split at hs
    · rcases List.mem_cons.mp hs with rfl | hs
      · exact Or.inl rfl
      · exact Or.inr (Or.inr hs)
    · exact Or.inr (Or.inr hs)
  · split at hs
    · rcases List.mem_cons.mp hs with rfl | hs
      · exact Or.inl rfl
      · exact Or.inr (Or.inr (mem_takeBack hs))
    · exact Or.inr (Or.inr (mem_takeBack hs))
  · exact Or.inr (List.mem_cons.mp hs)

theorem mem_normalize {before segments : List (List Char)} {s : List Char}
    (hs : s ∈ normalize before segments) : s = [] ∨ s ∈ segments ∨ s ∈ before := by
  induction segments generalizing before with
  | nil => exact Or.inr (Or.inr hs)
  | cons segment segments ih =>
    cases segments with
    | nil =>
      rcases mem_addSegment hs with rfl | rfl | hs
      · exact Or.inl rfl
      · exact Or.inr (Or.inl List.mem_cons_self)
      · exact Or.inr (Or.inr hs)
    | cons next segments =>
      rcases ih hs with rfl | hs | hs
      · exact Or.inl rfl
      · exact Or.inr (Or.inl (List.mem_cons_of_mem _ hs))
      · rcases mem_addSegment hs with rfl | rfl | hs
        · exact Or.inl rfl
        · exact Or.inr (Or.inl List.mem_cons_self)
        · exact Or.inr (Or.inr hs)

/-- The last segment always leaves one. -/
theorem normalize_ne_nil {before segments : List (List Char)} (h : segments ≠ []) :
    normalize before segments ≠ [] := by
  induction segments generalizing before with
  | nil => exact absurd rfl h
  | cons segment segments ih =>
    cases segments with
    | nil =>
      rw [normalize, addSegment]
      split <;> exact List.cons_ne_nil _ _
    | cons next segments => exact ih (List.cons_ne_nil next segments)

/-! ## Paths -/

theorem forall_joinPath {segments : List (List Char)} (hslash : P '/')
    (h : ∀ s ∈ segments, ∀ c ∈ s, P c) : ∀ c ∈ joinPath segments, P c := by
  intro c hc
  obtain ⟨s, hs, hc⟩ := List.mem_flatMap.mp hc
  rcases List.mem_cons.mp hc with rfl | hc
  · exact hslash
  · exact h s hs c hc

theorem exists_cons_joinPath {segments : List (List Char)} (h : segments ≠ []) :
    ∃ r, joinPath segments = '/' :: r := by
  cases segments with
  | nil => exact absurd rfl h
  | cons s segments => exact ⟨s ++ joinPath segments, rfl⟩

/-- Other schemes than those of the web may have an empty path. -/
theorem pathText_other (cs : List Char) (segments : List (List Char)) :
    pathText .other cs segments = [] ∨
      pathText .other cs segments = joinPath (normalize [] segments).reverse := by
  simp only [pathText]
  split
  · exact Or.inl rfl
  · exact Or.inl rfl
  · exact Or.inl rfl
  · exact Or.inr rfl

/-- The text of a path holds slashes and characters of its segments. -/
theorem forall_pathText {segments : List (List Char)} (s : Scheme) (cs : List Char)
    (hslash : P '/') (h : ∀ s ∈ segments, ∀ c ∈ s, P c) : ∀ c ∈ pathText s cs segments, P c := by
  have htext : ∀ c ∈ joinPath (normalize [] segments).reverse, P c := by
    refine forall_joinPath hslash ?_
    intro t ht
    rcases mem_normalize (List.mem_reverse.mp ht) with rfl | ht | ht
    · exact fun c hc => absurd hc List.not_mem_nil
    · exact h t ht
    · cases ht
  cases s with
  | web => exact htext
  | file =>
    refine List.forall_mem_cons.mpr ⟨hslash, ?_⟩
    exact fun c hc => htext c ((List.dropWhile_suffix _).subset hc)
  | other =>
    rcases pathText_other cs segments with hempty | hpath
    · rw [hempty]
      exact fun c hc => absurd hc List.not_mem_nil
    · rw [hpath]
      exact htext

/-- The text of a path starts with a slash. -/
theorem pathText_start {segments : List (List Char)} (s : Scheme) (cs : List Char)
    (h : segments ≠ []) :
    pathText s cs segments = [] ∧ s = .other ∨ ∃ r, pathText s cs segments = '/' :: r := by
  have hsegments : normalize [] segments ≠ [] := normalize_ne_nil h
  have htext := exists_cons_joinPath (List.reverse_ne_nil_iff.mpr hsegments)
  cases s with
  | web => exact Or.inr htext
  | file => exact Or.inr ⟨_, rfl⟩
  | other =>
    rcases pathText_other cs segments with hempty | hpath
    · exact Or.inl ⟨hempty, rfl⟩
    · rw [hpath]
      exact Or.inr htext

/-! ## URLs -/

/-- How every URL of a scheme is put together. -/
inductive Assembled (scheme : List Char) : Url → Prop
  | mk (host : Option Host) (port : Option Nat) (cs rest : List Char) :
    (∀ n ∈ port, n < 65536) →
    Assembled scheme ⟨scheme, host, port,
      pathText (Scheme.of scheme) cs (cutPath (Scheme.of scheme) rest).1,
      readQuery (Scheme.of scheme) (cutPath (Scheme.of scheme) rest).2⟩

variable {scheme : List Char} {s : Scheme} {u : Url}

/-- A port is a number of two octets. -/
theorem lt_of_readPort {port : Option Nat} (h : readPort cs = .ok (port, r)) :
    ∀ n ∈ port, n < 65536 := by
  intro n hn
  unfold readPort at h
  generalize before (· == '\\') cs = p at h
  obtain ⟨digits, rest⟩ := p
  dsimp only at h
  split at h
  · cases h
    cases hn
  · split at h
    · rename_i hfilter
      cases h
      cases hn
      exact of_decide_eq_true (Option.filter_eq_some_iff.mp hfilter).2
    · cases h

theorem lt_of_hostAndPort {a : Authority} (h : hostAndPort s scheme cs = .ok a) :
    ∀ n ∈ a.port, n < 65536 := by
  unfold hostAndPort at h
  generalize cutPort false cs = p at h
  obtain ⟨host, port⟩ := p
  dsimp only at h
  split at h
  · cases h
  · -- how the host is read does not matter for the port
    have hport : ∃ numbers, readPort (port.drop 1) = .ok numbers ∧
        a.port = numbers.1.filter (some · ≠ defaultPort scheme) := by
      split at h
      · obtain ⟨found, -, h⟩ := exists_of_bind_eq_ok h
        obtain ⟨numbers, hnumbers, h⟩ := exists_of_bind_eq_ok h
        cases h
        exact ⟨numbers, hnumbers, rfl⟩
      · obtain ⟨found, -, h⟩ := exists_of_bind_eq_ok h
        obtain ⟨numbers, hnumbers, h⟩ := exists_of_bind_eq_ok h
        cases h
        exact ⟨numbers, hnumbers, rfl⟩
    obtain ⟨numbers, hnumbers, heq⟩ := hport
    intro n hn
    rw [heq] at hn
    exact lt_of_readPort hnumbers n (Option.mem_filter_iff.mp hn).1

theorem lt_of_readAuthority {a : Authority} (h : readAuthority s scheme cs r = .ok a) :
    ∀ n ∈ a.port, n < 65536 := by
  unfold readAuthority at h
  split at h
  · exact lt_of_hostAndPort h
  · split at h
    · cases h
    · obtain ⟨found, hfound, h⟩ := exists_of_bind_eq_ok h
      split at h
      · cases h
      · cases h
        exact lt_of_hostAndPort hfound

theorem assembled_withAuthority (hs : Scheme.of scheme = s)
    (h : withAuthority s scheme cs = .ok u) : Assembled scheme u := by
  subst hs
  unfold withAuthority at h
  generalize before (Scheme.of scheme).endsAuthority cs = p at h
  obtain ⟨authority, rest⟩ := p
  obtain ⟨a, hauthority, h⟩ := exists_of_bind_eq_ok h
  cases h
  exact .mk a.host a.port (a.rest ++ rest) (a.rest ++ rest) (lt_of_readAuthority hauthority)

theorem assembled_withoutAuthority (hs : Scheme.of scheme = s) (cs : List Char) :
    Assembled scheme (withoutAuthority s scheme cs) := by
  subst hs
  exact .mk none none cs cs fun n hn => by cases hn

theorem assembled_fileWithHost (hs : Scheme.of scheme = .file)
    (h : fileWithHost scheme cs = .ok u) : Assembled scheme u := by
  unfold fileWithHost at h
  generalize before (Scheme.endsAuthority .file) cs = p at h
  obtain ⟨name, rest⟩ := p
  dsimp only at h
  split at h
  · cases h
    exact assembled_withoutAuthority hs cs
  · obtain ⟨host, -, h⟩ := exists_of_bind_eq_ok h
    cases h
    rw [← hs]
    exact .mk _ none rest rest fun n hn => by cases hn

theorem assembled_of_ofText (h : ofText cs = .ok u) :
    ∃ scheme rest, cutScheme? (trim cs) = some (scheme, rest) ∧ Assembled scheme u := by
  unfold ofText at h
  split at h
  · cases h
  · rename_i scheme rest hcut
    refine ⟨scheme, rest, hcut, ?_⟩
    cases hs : Scheme.of scheme with
    | web =>
      rw [hs] at h
      exact assembled_withAuthority hs h
    | file =>
      rw [hs] at h
      dsimp only at h
      split at h
      · split at h
        · exact assembled_fileWithHost hs h
        · cases h
          exact assembled_withoutAuthority hs _
      · cases h
        exact assembled_withoutAuthority hs _
    | other =>
      rw [hs] at h
      dsimp only at h
      split at h
      · exact assembled_withAuthority hs h
      · cases h
        exact assembled_withoutAuthority hs _

/-- What the path and the query of a URL are written with, and how the path starts. -/
structure IsSpelled (u : Url) : Prop where
  path : ∀ c ∈ u.path, IsVisible c
  query : ∀ q ∈ u.query, ∀ c ∈ q, IsVisible c
  start : u.path = [] ∧ Scheme.of u.scheme = .other ∨ ∃ r, u.path = '/' :: r

theorem Assembled.isSpelled (h : Assembled scheme u) : u.IsSpelled := by
  obtain ⟨host, port, cs, rest, -⟩ := h
  refine ⟨?_, ?_, pathText_start _ cs (segments_ne_nil _ _)⟩
  · refine forall_pathText _ cs ⟨by decide, by decide⟩ ?_
    exact forall_segments (isVisible_percentEncode (by decide) _)
  · intro q hq
    dsimp only at hq
    unfold readQuery at hq
    split at hq
    · cases hq
      refine isVisible_percentEncode ?_ _
      split
      · decide
      · decide
    · cases hq

/-! ## Schemes -/

theorem isOutside_of_isIgnored (h : isIgnored c) : isOutside c := by
  simp only [isIgnored, Bool.or_eq_true, beq_iff_eq] at h
  rcases h with (rfl | rfl) | rfl
  · rfl
  · rfl
  · rfl

/-- Characters that belong to a URL hold those before them. -/
theorem dropWhile_isOutside_append {p : List Char} (hp : ∀ c ∈ p, isOutside c = false)
    (cs : List Char) : (cs ++ p).dropWhile isOutside = cs.dropWhile isOutside ++ p := by
  have hself : p.dropWhile isOutside = p :=
    List.dropWhile_eq_self_iff.mpr fun h => by simp [hp _ (List.getElem_mem h)]
  rw [List.dropWhile_append]
  split
  · rename_i hempty
    rw [List.isEmpty_iff.mp hempty, hself, List.nil_append]
  · rfl

/-- Nothing is cut off in front of characters that belong to a URL. -/
theorem trim_append {p : List Char} (hp : ∀ c ∈ p, isOutside c = false) (hne : p ≠ [])
    (cs : List Char) : ∃ r, trim (p ++ cs) = p ++ r := by
  have hfront : (p ++ cs).dropWhile isOutside = p ++ cs := by
    refine List.dropWhile_eq_self_iff.mpr fun h => ?_
    rw [List.getElem_append_left (List.length_pos_iff.mpr hne)]
    simp [hp _ (List.getElem_mem _)]
  have hkept : p.filter (!isIgnored ·) = p := by
    refine List.filter_eq_self.mpr fun c hc => ?_
    rw [Bool.not_eq_true', ← Bool.not_eq_true]
    intro hignored
    have houtside := hp c hc
    rw [isOutside_of_isIgnored hignored] at houtside
    cases houtside
  have hreverse : ∀ c ∈ p.reverse, isOutside c = false := fun c hc => hp c (List.mem_reverse.mp hc)
  refine ⟨((cs.reverse.dropWhile isOutside).reverse).filter (!isIgnored ·), ?_⟩
  rw [trim, hfront, List.reverse_append, dropWhile_isOutside_append hreverse, List.reverse_append,
    List.reverse_reverse, List.filter_append, hkept]

/-- A scheme starts with a letter. -/
theorem cutScheme?_cons (hc : c.isAlpha = false) (cs : List Char) :
    cutScheme? (c :: cs) = none := by
  unfold cutScheme?
  split
  · rename_i d s r hcut
    obtain ⟨hcons, -⟩ := Text.append_of_cut? hcut
    cases hcons
    simp [hc]
  · rfl

/-- A text that starts with no letter is no URL. -/
theorem ofText_cons (houtside : isOutside c = false) (hletter : c.isAlpha = false)
    (cs : List Char) : ofText (c :: cs) = .error .noScheme := by
  obtain ⟨r, hr⟩ := trim_append (p := [c]) (by simpa using houtside) (List.cons_ne_nil c []) cs
  rw [List.singleton_append, List.singleton_append] at hr
  rw [ofText, hr, cutScheme?_cons hletter]

/-- What becomes a character other than a small letter is that character. -/
theorem toLower_eq_of_lt (h : c.toLower.toNat < 97) : c.toLower = c := by
  unfold Char.toLower at h ⊢
  split
  · rename_i hupper
    rw [dif_pos hupper] at h
    obtain ⟨hlow, hhigh⟩ := hupper
    rw [ge_iff_le, UInt32.le_iff_toNat_le] at hlow
    rw [UInt32.le_iff_toNat_le] at hhigh
    have hsum : (c.val + ('a'.val - 'A'.val)).toNat < 97 := h
    rw [UInt32.toNat_add] at hsum
    simp at hlow hhigh hsum
    omega
  · rfl

theorem toLower_of_isOutside (h : isOutside c) : c.toLower = c := by
  have hle : c.val.toNat ≤ 0x20 := of_decide_eq_true h
  refine dif_neg ?_
  rintro ⟨hlow, -⟩
  rw [ge_iff_le, UInt32.le_iff_toNat_le] at hlow
  exact absurd (Nat.le_trans hlow hle) (by decide)

/-- What stands in front of the first `a`. -/
theorem takeWhile_append_cons {α : Type} [DecidableEq α] {a : α} {l : List α} (h : a ∉ l)
    (t : List α) : (l ++ a :: t).takeWhile (· ≠ a) = l := by
  rw [List.takeWhile_append_of_pos, List.takeWhile_cons_of_neg (by simp), List.append_nil]
  intro b hb
  exact decide_eq_true fun heq => h (heq ▸ hb)

/-- The scheme of a URL that starts with a name, in letters of any case, and a colon. -/
theorem scheme_of_start {p q name : List Char} {rest : List Char}
    (hp : p.map Char.toLower = name ++ ':' :: q) (hname : ':' ∉ name)
    (h : cutScheme? (p ++ cs) = some (scheme, rest)) : scheme = name := by
  unfold cutScheme? at h
  split at h
  · rename_i d w r hcut
    obtain ⟨hsplit, hcolon⟩ := Text.append_of_cut? hcut
    generalize d :: w = word at *
    split at h
    · cases h
      have hlower : name ++ ':' :: (q ++ cs.map Char.toLower) =
          word.map Char.toLower ++ ':' :: rest.map Char.toLower := by
        have hmap := congrArg (List.map Char.toLower) hsplit
        rw [List.map_append, hp, List.map_append, List.append_assoc] at hmap
        exact hmap
      have hnot : ':' ∉ word.map Char.toLower := by
        intro hmem
        obtain ⟨e, he, hcolon'⟩ := List.mem_map.mp hmem
        have hsame := toLower_eq_of_lt (c := e) (by rw [hcolon']; decide)
        rw [hcolon'] at hsame
        exact hcolon (hsame ▸ he)
      rw [← takeWhile_append_cons hnot, ← hlower, takeWhile_append_cons hname]
    · cases h
  · cases h

end TunnelRelay.Url
