/-!
# The states of a relay session

A session goes through at most five states, always forward: it waits, connects, relays, closes and
is closed. Each state has an octet, because the state is kept in one atomic byte.
-/

namespace TunnelRelay

/-- Where a relay session stands. -/
inductive RelayState where
  | idle | connecting | established | closing | closed
  deriving DecidableEq, Repr

namespace RelayState

/-- The state's octet. -/
def code : RelayState → UInt8
  | idle => 0 | connecting => 1 | established => 2 | closing => 3 | closed => 4

/-- The state of an octet; an octet that stands for no state reads as `closed`. -/
def ofCode (n : UInt8) : RelayState :=
  if n = 0 then idle else if n = 1 then connecting else if n = 2 then established
  else if n = 3 then closing else closed

theorem ofCode_code (s : RelayState) : ofCode s.code = s := by cases s <;> decide

/-! ## The order -/

/-- How many states a session has passed. -/
def rank (s : RelayState) : Nat := s.code.toNat

/-- A session passes the states in the order of their octets. -/
instance : LE RelayState := ⟨fun s t => s.rank ≤ t.rank⟩

instance : LT RelayState := ⟨fun s t => s.rank < t.rank⟩

instance (s t : RelayState) : Decidable (s ≤ t) := inferInstanceAs (Decidable (s.rank ≤ t.rank))

instance (s t : RelayState) : Decidable (s < t) := inferInstanceAs (Decidable (s.rank < t.rank))

theorem le_iff_rank_le {s t : RelayState} : s ≤ t ↔ s.rank ≤ t.rank := Iff.rfl

theorem lt_iff_rank_lt {s t : RelayState} : s < t ↔ s.rank < t.rank := Iff.rfl

theorem le_refl (s : RelayState) : s ≤ s := Nat.le_refl s.rank

theorem le_trans {s t u : RelayState} (h : s ≤ t) (h' : t ≤ u) : s ≤ u := Nat.le_trans h h'

theorem not_le_of_lt {s t : RelayState} (h : s < t) : ¬t ≤ s := Nat.not_le_of_lt h

theorem rank_le (s : RelayState) : s.rank ≤ 4 := by cases s <;> decide

theorem rank_injective {s t : RelayState} (h : s.rank = t.rank) : s = t := by
  have hcode := congrArg ofCode (UInt8.toNat_inj.mp h)
  rwa [ofCode_code, ofCode_code] at hcode

theorem lt_of_le_of_ne {s t : RelayState} (h : s ≤ t) (hne : s ≠ t) : s < t :=
  Nat.lt_of_le_of_ne h fun heq => hne (rank_injective heq)

theorem le_closed (s : RelayState) : s ≤ closed := s.rank_le

theorem eq_closed_of_le {s : RelayState} (h : closed ≤ s) : s = closed :=
  rank_injective (Nat.le_antisymm s.le_closed h)

/-! ## Names -/

/-- The state's name. -/
def name : RelayState → String
  | idle => "Idle" | connecting => "Connecting" | established => "Established"
  | closing => "Closing" | closed => "Closed"

/-- Every state, in the order in which a session passes them. -/
def all : List RelayState := [idle, connecting, established, closing, closed]

/-- The state of that name. -/
def ofName? (s : String) : Option RelayState := all.find? (·.name == s)

end RelayState

end TunnelRelay
