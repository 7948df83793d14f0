import TunnelRelay.Toml.Number

/-!
# Dates and times

A date, a time of day, or both with an optional offset from universal time. The day has to exist in
the calendar, and a minute has at most 61 seconds.
-/

namespace TunnelRelay.Toml

open Text (Reader)

/-- A number of exactly so many digits, which is within the bounds. -/
def fixed (digits least greatest : Nat) : Reader Nat := fun cs =>
  if cs.length < digits then none
  else
    let front := cs.take digits
    if front.all (isDigitOf 10) then
      let n := valueOf 10 front
      if least ≤ n ∧ n ≤ greatest then some (n, cs.drop digits) else none
    else none

/-- The number of days of a month. -/
def daysOf (year month : Nat) : Nat :=
  if month = 2 then
    if year % 4 = 0 ∧ (year % 100 ≠ 0 ∨ year % 400 = 0) then 29 else 28
  else if month ∈ [4, 6, 9, 11] then 30
  else 31

/-- A date. -/
def date : Reader Unit := do
  let year ← fixed 4 0 9999
  Reader.word "-"
  let month ← fixed 2 1 12
  Reader.word "-"
  let _ ← fixed 2 1 (daysOf year month)
  return ()

/-- A time of day. -/
def timeOfDay : Reader Unit := do
  let _ ← fixed 2 0 23
  Reader.word ":"
  let _ ← fixed 2 0 59
  Reader.word ":"
  let _ ← fixed 2 0 60
  let _ ← optional (Reader.word "." *> Reader.run1 (isDigitOf 10))
  return ()

/-- An offset from universal time. -/
def offset : Reader Unit :=
  Reader.word "Z" <|> Reader.word "z" <|> do
    Reader.word "+" <|> Reader.word "-"
    let _ ← fixed 2 0 23
    Reader.word ":"
    let _ ← fixed 2 0 59
    return ()

/-- What may stand between a date and a time of day. -/
def dateEnd : Reader Unit := Reader.word "T" <|> Reader.word "t" <|> Reader.word " "

/-- A date, a time of day, or both. -/
def time : Reader Unit :=
  (do
    date
    let _ ← optional (dateEnd *> timeOfDay *> optional offset)
    return ()) <|> timeOfDay

end TunnelRelay.Toml
