import TunnelRelay.Scan

/-!
# The head of a request

A head is a request line and up to 64 header lines, and ends in an empty line. Lines end in a line
feed, with or without a carriage return before it, and empty lines before the request line are
skipped. The reader says at the first octet that cannot be right what is wrong with it.
-/

namespace TunnelRelay.Http

/-- What can be wrong with a head. -/
inductive HeadError where
  /-- An octet stands in the request line that cannot stand there. -/
  | token
  /-- An octet stands in a header name that cannot stand there. -/
  | headerName
  /-- An octet stands in a header value that cannot stand there. -/
  | headerValue
  /-- A carriage return is not followed by a line feed. -/
  | newLine
  /-- More header lines than are read. -/
  | tooManyHeaders
  /-- The version is neither 1.0 nor 1.1. -/
  | version
  deriving DecidableEq, Repr

/-- How an error is reported. -/
def HeadError.message : HeadError → String
  | token => "invalid token"
  | headerName => "invalid header name"
  | headerValue => "invalid header value"
  | newLine => "invalid new line"
  | tooManyHeaders => "too many headers"
  | version => "invalid HTTP version"

/-- The error's name as it is reported. -/
def HeadError.name : HeadError → String
  | token => "Token"
  | headerName => "HeaderName"
  | headerValue => "HeaderValue"
  | newLine => "NewLine"
  | tooManyHeaders => "TooManyHeaders"
  | version => "Version"

/-- A header line: a name and a value without blanks at its ends. -/
structure Header where
  name : Bytes
  value : Bytes
  deriving DecidableEq, Repr

/-- A request line and its header lines. -/
structure Head where
  method : Bytes
  target : String
  /-- The version is `1.` and this digit, 0 or 1. -/
  minorVersion : Nat
  headers : List Header
  deriving DecidableEq, Repr

/-- The most header lines of a head. -/
def maxHeaders : Nat := 64

/-! ## Classes of octets -/

/-- The octets of methods and header names. -/
def isToken (x : UInt8) : Bool :=
  (65 ≤ x && x ≤ 90) || (97 ≤ x && x ≤ 122) || (48 ≤ x && x ≤ 57)
    || x == 0x21 || (0x23 ≤ x && x ≤ 0x27) || x == 0x2A || x == 0x2B || x == 0x2D || x == 0x2E
    || x == 0x5E || x == 0x5F || x == 0x60 || x == 0x7C || x == 0x7E

/-- The octets of a target: all but blanks and control characters. -/
def isTarget (x : UInt8) : Bool := 0x21 ≤ x && x != 0x7F

/-- The octets of a header value: all but control characters other than the tab. -/
def isValue (x : UInt8) : Bool := (0x20 ≤ x && x != 0x7F) || x == 9

/-- Space and tab. -/
def isSpace (x : UInt8) : Bool := x == 0x20 || x == 9

/-! ## Lines -/

/-- The end of a line. -/
def lineEnd (e : HeadError) : Scan HeadError Unit :=
  Scan.octet.andThen fun x =>
    if x = 13 then Scan.expect 10 e
    else if x = 10 then Scan.give ()
    else Scan.fail e

/-- The line ends at the front of a stream. -/
def skipLineEnds : Scan HeadError Unit
  | [] => .incomplete
  | 10 :: r => skipLineEnds r
  | 13 :: 10 :: r => skipLineEnds r
  | [13] => .incomplete
  | 13 :: _ :: _ => .invalid .newLine
  | b => .complete () b

/-- A word of at least one octet and the space after it. -/
def word (p : UInt8 → Bool) : Scan HeadError Bytes :=
  (Scan.run p).andThen fun w =>
    if w = [] then Scan.fail .token else (Scan.expect 0x20 .token).andThen fun _ => Scan.give w

/-- A target and the space after it. -/
def target : Scan HeadError String :=
  (word isTarget).andThen fun w =>
    match Bytes.toText? w with
    | some s => Scan.give s
    | none => Scan.fail .token

/-- The version's last digit. -/
def minorVersion : Scan HeadError Nat :=
  (Scan.expectAll .version (Bytes.ofText "HTTP/1.")).andThen fun _ =>
    Scan.octet.andThen fun x =>
      if x = 0x30 then Scan.give 0 else if x = 0x31 then Scan.give 1 else Scan.fail .version

/-- A value without the blanks at its end. -/
def trimValue (v : Bytes) : Bytes := (v.reverse.dropWhile isSpace).reverse

/-- A header line. -/
def header : Scan HeadError Header :=
  (Scan.run isToken).andThen fun name =>
    if name = [] then Scan.fail .headerName
    else
      (Scan.expect 0x3A .headerName).andThen fun _ =>
        (Scan.run isSpace).andThen fun _ =>
          (Scan.run isValue).andThen fun value =>
            (lineEnd .headerValue).andThen fun _ => Scan.give ⟨name, trimValue value⟩

/-- Header lines, `room` at most, and the empty line after them. -/
def headers : Nat → Scan HeadError (List Header)
  | 0 =>
    Scan.peek.andThen fun x =>
      if x = 13 ∨ x = 10 then (lineEnd .newLine).andThen fun _ => Scan.give []
      else header.andThen fun _ => Scan.fail .tooManyHeaders
  | room + 1 =>
    Scan.peek.andThen fun x =>
      if x = 13 ∨ x = 10 then (lineEnd .newLine).andThen fun _ => Scan.give []
      else header.andThen fun h => (headers room).andThen fun hs => Scan.give (h :: hs)

/-- A whole head. -/
def head : Scan HeadError Head :=
  skipLineEnds.andThen fun _ =>
    (word isToken).andThen fun method =>
      target.andThen fun target =>
        minorVersion.andThen fun minor =>
          (lineEnd .newLine).andThen fun _ =>
            (headers maxHeaders).andThen fun headers => Scan.give ⟨method, target, minor, headers⟩

/-! ## Stability -/

theorem stable_lineEnd (e : HeadError) : Scan.Stable (lineEnd e) :=
  Scan.stable_octet.andThen fun _ =>
    (Scan.stable_expect 10 e).ite ((Scan.stable_give ()).ite (Scan.stable_fail e))

/-- Where no line ends, nothing is skipped. -/
theorem skipLineEnds_cons {x : UInt8} (hfeed : x ≠ 10) (hreturn : x ≠ 13) (r : Bytes) :
    skipLineEnds (x :: r) = .complete () (x :: r) := by
  cases r <;> simp [skipLineEnds, hfeed, hreturn]

theorem stable_skipLineEnds : Scan.Stable skipLineEnds := by
  intro b t
  fun_induction skipLineEnds b with
  | case6 b h h₁ _ h₂ h₃ =>
    cases b with
    | nil => exact absurd rfl h
    | cons x r =>
      have h₁' : x ≠ 10 := fun hx => h₁ r (hx ▸ rfl)
      have h₃' : x ≠ 13 := by
        rintro rfl
        cases r with
        | nil => exact h₂ rfl
        | cons y r => exact h₃ y r rfl
      exact skipLineEnds_cons h₁' h₃' (r ++ t)
  | _ => simp_all [skipLineEnds]

theorem stable_word (p : UInt8 → Bool) : Scan.Stable (word p) :=
  (Scan.stable_run p).andThen fun w =>
    (Scan.stable_fail _).ite ((Scan.stable_expect 0x20 _).andThen fun _ => Scan.stable_give w)

theorem stable_target : Scan.Stable target :=
  (stable_word isTarget).andThen fun w => by
    cases Bytes.toText? w with
    | none => exact Scan.stable_fail _
    | some s => exact Scan.stable_give s

theorem stable_minorVersion : Scan.Stable minorVersion :=
  (Scan.stable_expectAll _ _).andThen fun _ => Scan.stable_octet.andThen fun _ =>
    (Scan.stable_give 0).ite ((Scan.stable_give 1).ite (Scan.stable_fail _))

theorem stable_header : Scan.Stable header :=
  (Scan.stable_run _).andThen fun _ => (Scan.stable_fail _).ite
    ((Scan.stable_expect 0x3A _).andThen fun _ =>
      (Scan.stable_run isSpace).andThen fun _ =>
        (Scan.stable_run isValue).andThen fun _ =>
          (stable_lineEnd _).andThen fun _ => Scan.stable_give _)

theorem stable_headers (room : Nat) : Scan.Stable (headers room) := by
  induction room with
  | zero =>
    exact Scan.stable_peek.andThen fun _ =>
      ((stable_lineEnd _).andThen fun _ => Scan.stable_give _).ite
        (stable_header.andThen fun _ => Scan.stable_fail _)
  | succ room ih =>
    exact Scan.stable_peek.andThen fun _ =>
      ((stable_lineEnd _).andThen fun _ => Scan.stable_give _).ite
        (stable_header.andThen fun _ => ih.andThen fun _ => Scan.stable_give _)

/-- What a reader makes of a head does not depend on what follows it. -/
theorem stable_head : Scan.Stable head :=
  stable_skipLineEnds.andThen fun _ =>
    (stable_word isToken).andThen fun method =>
      stable_target.andThen fun target =>
        stable_minorVersion.andThen fun minor =>
          (stable_lineEnd .newLine).andThen fun _ =>
            (stable_headers maxHeaders).andThen fun headers =>
              Scan.stable_give (⟨method, target, minor, headers⟩ : Head)

/-! ## Where a head ends -/

theorem eats_lineEnd (e : HeadError) : Scan.Eats (lineEnd e) :=
  Scan.eats_octet.andThen fun _ =>
    (Scan.eats_expect 10 e).exact.ite ((Scan.exact_give ()).ite (Scan.eats_fail e).exact)

theorem near_skipLineEnds : Scan.Near skipLineEnds := by
  intro b a r h
  fun_induction skipLineEnds b with
  | case1 => cases h
  | case2 b ih =>
    obtain ⟨front, rfl, hfront⟩ := ih h
    exact ⟨10 :: front, rfl, hfront⟩
  | case3 b ih =>
    obtain ⟨front, rfl, hfront⟩ := ih h
    exact ⟨13 :: 10 :: front, rfl, hfront⟩
  | case4 => cases h
  | case5 => cases h
  | case6 b hnil h₁ _ h₂ h₃ =>
    cases h
    refine ⟨[], rfl, ?_⟩
    intro t ht
    cases r with
    | nil => exact absurd rfl hnil
    | cons x r =>
      have h₁' : x ≠ 10 := fun hx => h₁ r (hx ▸ rfl)
      have h₃' : x ≠ 13 := by
        rintro rfl
        cases r with
        | nil => exact h₂ rfl
        | cons y r => exact h₃ y r rfl
      cases t with
      | nil => cases ht
      | cons y t =>
        cases ht
        exact skipLineEnds_cons h₁' h₃' t

theorem eats_word (p : UInt8 → Bool) : Scan.Eats (word p) :=
  (Scan.near_run p).eats fun w =>
    (Scan.eats_fail _).ite ((Scan.eats_expect 0x20 _).andThen fun _ => Scan.exact_give w)

theorem eats_target : Scan.Eats target :=
  (eats_word isTarget).andThen fun w => by
    cases Bytes.toText? w with
    | none => exact (Scan.eats_fail _).exact
    | some s => exact Scan.exact_give s

theorem eats_minorVersion : Scan.Eats minorVersion :=
  (Scan.exact_expectAll _ _).near.eats fun _ => Scan.eats_octet.andThen fun _ =>
    (Scan.exact_give 0).ite ((Scan.exact_give 1).ite (Scan.eats_fail _).exact)

theorem eats_header : Scan.Eats header :=
  (Scan.near_run _).eats fun _ => (Scan.eats_fail _).ite
    ((Scan.eats_expect 0x3A _).near.eats fun _ =>
      (Scan.near_run isSpace).eats fun _ =>
        (Scan.near_run isValue).eats fun _ =>
          (eats_lineEnd _).andThen fun _ => Scan.exact_give _)

theorem eats_headers (room : Nat) : Scan.Eats (headers room) := by
  induction room with
  | zero =>
    exact Scan.near_peek.eats fun _ =>
      ((eats_lineEnd _).andThen fun _ => Scan.exact_give _).ite
        (eats_header.andThen fun _ => (Scan.eats_fail _).exact)
  | succ room ih =>
    exact Scan.near_peek.eats fun _ =>
      ((eats_lineEnd _).andThen fun _ => Scan.exact_give _).ite
        (eats_header.andThen fun _ => (ih.andThen fun _ => Scan.exact_give _).exact)

/-- A head ends with its own last octet: what it says can be told without the octets behind it. -/
theorem eats_head : Scan.Eats head :=
  near_skipLineEnds.eats fun _ =>
    (eats_word isToken).near.eats fun method =>
      eats_target.near.eats fun target =>
        eats_minorVersion.near.eats fun minor =>
          (eats_lineEnd .newLine).near.eats fun _ =>
            (eats_headers maxHeaders).andThen fun headers =>
              Scan.exact_give (⟨method, target, minor, headers⟩ : Head)

end TunnelRelay.Http
