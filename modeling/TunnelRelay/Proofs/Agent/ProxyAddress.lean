import TunnelRelay.Agent.ProxyAddress
import TunnelRelay.Proofs.Text

/-!
# Which addresses read back

An address is written with brackets around a host that has colons, and without them around any other.
Who reads it takes the blanks off the ends of the text first, and then the brackets off the host. So
a host that stood in brackets may begin with blanks, and when it is written without brackets these
are lost, and with them perhaps the whole host. What is read is said by `ofText?_toText` for every
address; `reparses_iff` says of which addresses that have been read it is the address itself.
-/

namespace TunnelRelay.ProxyAddress

/-! ## Brackets -/

/-- Brackets around a host are no part of it. -/
theorem unbracket_brackets (cs : List Char) : unbracket ('[' :: cs ++ [']']) = unbracket cs := by
  have hopen : ('[' :: cs ++ [']']).dropWhile (· == '[') = (cs ++ [']']).dropWhile (· == '[') :=
    rfl
  have hclose (ds : List Char) :
      Text.dropEndWhile (· == ']') (ds ++ [']']) = Text.dropEndWhile (· == ']') ds :=
    List.rdropWhile_concat_pos _ _ _ rfl
  rw [unbracket, hopen, Text.dropWhile_append_cons rfl, hclose, unbracket]

/-- No brackets are left around a host. -/
theorem unbracket_unbracket (cs : List Char) : unbracket (unbracket cs) = unbracket cs := by
  have hopen : (unbracket cs).dropWhile (· == '[') = unbracket cs := by
    -- what is left begins as it did before the closing brackets were taken off
    obtain ⟨rest, hrest⟩ : unbracket cs <+: cs.dropWhile (· == '[') := List.rdropWhile_prefix _ _
    have hfirst := List.dropWhile_eq_self_iff.mp (List.dropWhile_idempotent (· == '[') cs)
    rw [← hrest] at hfirst
    refine List.dropWhile_eq_self_iff.mpr fun hl => ?_
    have hkept := hfirst (by rw [List.length_append]; exact Nat.lt_add_right _ hl)
    rwa [List.getElem_append_left hl] at hkept
  rw [unbracket, hopen]
  exact List.rdropWhile_idempotent _ _

theorem length_unbracket_le (cs : List Char) : (unbracket cs).length ≤ cs.length :=
  Nat.le_trans (List.rdropWhile_prefix _ _).length_le (List.length_dropWhile_le _ _)

/-- A host without brackets around it stays as it is if it does not begin with a blank. -/
theorem unbracket_dropWhile_eq_iff {host : List Char} (h : unbracket host = host) :
    unbracket (host.dropWhile Text.isBlank) = host ↔ host.head?.any Text.isBlank = false := by
  cases host with
  | nil => simpa using h
  | cons c cs =>
    cases hblank : Text.isBlank c with
    | false => simp [hblank, h]
    | true =>
      have hle : (unbracket (cs.dropWhile Text.isBlank)).length ≤ cs.length :=
        Nat.le_trans (length_unbracket_le _) (List.length_dropWhile_le _ _)
      have hne : unbracket (cs.dropWhile Text.isBlank) ≠ c :: cs := fun heq => by
        rw [heq, List.length_cons] at hle
        omega
      simp [hblank, hne]

/-! ## Reading what is written -/

/-- What is read from a host and a port with a colon between them. -/
theorem ofText?_append (host : List Char) (port : UInt16) :
    ofText? (String.ofList (host ++ ':' :: Nat.toDigits 10 port.toNat)) =
      if unbracket (host.dropWhile Text.isBlank) = [] then none
      else some ⟨String.ofList (unbracket (host.dropWhile Text.isBlank)), port⟩ := by
  have hlimit : port.toNat ≤ 65535 := Nat.le_of_lt_succ port.toNat_lt
  have hcolon : ':' ∉ Nat.toDigits 10 port.toNat := fun h => by
    cases Text.isDigit_of_mem_digits h
  have hlast : Text.isBlank
      ((':' :: Nat.toDigits 10 port.toNat).getLast (List.cons_ne_nil _ _)) = false := by
    rw [List.getLast_cons Nat.toDigits_ne_nil]
    exact Text.isBlank_of_isDigit (Text.isDigit_of_mem_digits (List.getLast_mem _))
  have hstrip : Text.strip (host ++ ':' :: Nat.toDigits 10 port.toNat) =
      host.dropWhile Text.isBlank ++ ':' :: Nat.toDigits 10 port.toNat := by
    rw [Text.strip, Text.dropWhile_append_cons (by decide),
      Text.dropEndWhile_append_of_last _ hlast]
  rw [ofText?, String.toList_ofList, hstrip, Text.cutLast?_append _ hcolon]
  simp [Text.unsigned?_digits hlimit]

/-- How an address is written. -/
theorem toText_eq (a : ProxyAddress) :
    a.toText = String.ofList
      ((if ':' ∈ a.host.toList then '[' :: a.host.toList ++ [']'] else a.host.toList)
        ++ ':' :: Nat.toDigits 10 a.port.toNat) := by
  have hport : (toString a.port).toList = Nat.toDigits 10 a.port.toNat := Nat.toList_repr
  have htext (t : String) : toString t = t := rfl
  rw [← String.toList_inj, String.toList_ofList]
  by_cases hcolon : ':' ∈ a.host.toList
  · simp [toText, hcolon, hport, htext]
  · simp [toText, hcolon, hport, htext]

/-- **What is read from an address as it is written**: without brackets the blanks at the front of
the host are lost. -/
theorem ofText?_toText (a : ProxyAddress) :
    ofText? a.toText =
      let host := unbracket (if ':' ∈ a.host.toList then a.host.toList
        else a.host.toList.dropWhile Text.isBlank)
      if host = [] then none else some ⟨String.ofList host, a.port⟩ := by
  rw [toText_eq, ofText?_append]
  by_cases hcolon : ':' ∈ a.host.toList
  · have hbracket : ('[' :: a.host.toList ++ [']']).dropWhile Text.isBlank =
        '[' :: a.host.toList ++ [']'] := rfl
    simp only [if_pos hcolon, hbracket, unbracket_brackets]
  · simp only [if_neg hcolon]

/-- A host that has been read is not empty and has no brackets around it. -/
theorem host_of_ofText? {t : String} {a : ProxyAddress} (h : ofText? t = some a) :
    unbracket a.host.toList = a.host.toList ∧ a.host.toList ≠ [] := by
  obtain ⟨⟨host, port⟩, -, h⟩ := Option.bind_eq_some_iff.mp h
  obtain ⟨hne, h⟩ := Option.ite_none_left_eq_some.mp h
  obtain ⟨n, -, h⟩ := Option.bind_eq_some_iff.mp h
  cases h
  rw [String.toList_ofList]
  exact ⟨unbracket_unbracket host, hne⟩

/-- **An address that has been read reads back from what is written for it** just if its host has
colons or does not begin with a blank. -/
theorem reparses_iff {t : String} {a : ProxyAddress} (h : ofText? t = some a) :
    ofText? a.toText = some a ↔
      ':' ∈ a.host.toList ∨ a.host.toList.head?.any Text.isBlank = false := by
  obtain ⟨hbare, hne⟩ := host_of_ofText? h
  rw [ofText?_toText]
  by_cases hcolon : ':' ∈ a.host.toList
  · simp [hcolon, hbare, hne]
  · simp only [hcolon, if_false, false_or]
    rw [← unbracket_dropWhile_eq_iff hbare]
    constructor
    · intro hread
      obtain ⟨-, hread⟩ := Option.ite_none_left_eq_some.mp hread
      have hhost := congrArg (fun b : ProxyAddress => b.host.toList) (Option.some.inj hread)
      rwa [String.toList_ofList] at hhost
    · intro hhost
      rw [hhost, if_neg hne, String.ofList_toList]

/-- Blanks around the text, a sign, a leading zero and brackets are gone, and the address stays. -/
theorem loopback_reparses :
    ofText? " [::1]:+080 " = some ⟨"::1", 80⟩ ∧
      ofText? (toText ⟨"::1", 80⟩) = some ⟨"::1", 80⟩ := by
  have hread : ofText? " [::1]:+080 " = some ⟨"::1", 80⟩ := by decide +kernel
  exact ⟨hread, (reparses_iff hread).mpr (.inl (by decide +kernel))⟩

/-- **An address that reads back as another one**, because its host begins with a blank, and one
that does not read back at all. -/
theorem blankHost_astray :
    (∃ a, ofText? "[ a]:80" = some a ∧ ofText? a.toText = some ⟨"a", 80⟩ ∧
      ofText? a.toText ≠ some a) ∧
    ∃ a, ofText? "[ ]:80" = some a ∧ ofText? a.toText = none := by
  refine ⟨⟨⟨" a", 80⟩, ?_, ?_, ?_⟩, ⟨" ", 80⟩, ?_, ?_⟩
  all_goals decide +kernel

end TunnelRelay.ProxyAddress
