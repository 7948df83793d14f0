import TunnelRelay.Domain.Runs

/-!
# Writing direction

A name with characters that are written from right to left has to read the same wherever it is
shown. `isOrdered` is the rule that each of its labels follows for that.
-/

namespace TunnelRelay.Domain

/-- How a character takes part in the direction of a text. -/
inductive Direction where
  | leftToRight | rightToLeft | arabicLetter | arabicNumber | number | numberSeparator
  | numberTerminator | commonSeparator | nonspacing | neutral | boundary
  deriving DecidableEq, Repr

/-- The direction that a word of the table spells. -/
def Direction.ofWord : List Char → Direction
  | 'r' :: _ => .rightToLeft
  | 'k' :: _ => .arabicLetter
  | 'q' :: _ => .arabicNumber
  | 'j' :: _ => .number
  | 'h' :: _ => .numberSeparator
  | 't' :: _ => .numberTerminator
  | 'g' :: _ => .commonSeparator
  | 'n' :: _ => .nonspacing
  | 'o' :: _ => .neutral
  | 'z' :: _ => .boundary
  | _ => .leftToRight

/-- The direction of every character that a name may hold. -/
def directionText : String :=
  "23o 3t 5o 1h 1g 1h 2g Aj 1g 26o 1Al 4o 22z 1o 4t Ao 6t 29o 18l 1o 1C1l 2o 7l Eo 2l 1Co 1l
11o 71n 4l 2o 7Fl 2o 8Bl 8n FFl 5o 2t 2Dn 1r 1n 1r 2n 1r 2n 1r 9n 36r 2o 1k 2t 1k 1g 1k 2o
Bn 30k 15n Aq 1t 2q 3k 1n 65k 8n 1o 6n 2k 2n 1o 4n 2k Aj 17k 1n 1Ek 1Dn 59k Bn Fk 2Br 9n 2r
4o 3r 1n 18r 4n 1r 9n 1r 3n 1r 7n 29r 5n 2r 37k 9n 2Ak 39n 37l 1n 1l 1n 4l 8n 4l 1n 3l Fn
2l 2n 1Dl 1n 3Al 1n 4l 6n 6l 1n 14l 4n Cl 2t 7l 1t 2l 5n 39l 2n 3l 1Bn 14l 2n 3l 1n Bl 2n
39l 1n 4l 8n 4l 3n 12l 4n Bl 8t 1l 8n 3Al 1n 2l 1n 1l 6n 6l An Bl 4n 1Cl 1n 3Dl 1n Cl 3n
23l 6o 1t 6o 1n 3l 1n 37l 1n 1l 3n 5l 12n Al 4n 12l 7o 2l 1n 3Al 1n Fl 9n Dl 4n 1Al 2n 39l
2n 4l 5n 7l 1n 14l 4n 1Bl 1n 48l 5n 3l 6n 59l 1n 2l Bn 1t 7l 8n 62l 1n 2l 9n Bl 8n 48l 2n
1Bl 1n 1l 1n 1l 1n 4o 33l En 1l 5n 1l 2n 5l 31n 8l 1n 66l 4n 1l 6n 1l 2n 2l 2n 19l 2n 4l 3n
10l 4n Dl 1n 2l 2n 6l 1n Fl 1n 2BFl 3n 30l 10o 60l 1o 29Al 5o 72l 3n 1Dl 2n 1El En 12l En
37l 7n 8l 1n 2l Bn 7l 1t 1l 3n 10l 20o 75l 2n 22l 1n 76l 3n 4l 2n 9l 1n 6l 7n 6o 98l 22o
17l 2n 2l 3n 38l 1n 1l 9n 1l 1n 2l 8n 6l Dn 30l 54n 30l 1n 1l 5n 1l 1n 5l 1n 28l 9n Cl 2n
20l 4n 2l 2n 1l 3n 38l 1n 1l 2n 3l 1n 1l 3n 3Al 8n 2l 5n 95l 3n 1l Dn 1l 7n 4l 1n 6l 1n 3l
2n C6l 41n 20Bl 4z 20o 5t Fo 1g 5Bo 30t 34n 2Ao Ct 14o 3Cl 88o 1h 1t 122o 45l 1Ao 1l 91o
19l 26Co 1l 153o 100l 296o 1l 99o B5l 7o 3l 4n 6l 7o 7Fl 1n 60l 20n 205o 3l 19o 9l 4n 2l 1o
6l 4o 2l 4o 58l 4n 3l 1o 5Al 1o C4l 24o 1BDCl 40o 5690l 40o 13Dl 3o 5Fl 4n 1o An 3o 1Dl 2n
50l 2n El 23o 65l 1o 79l 1n 3l 1n 4l 1n 19l 2n 1l 4o 4n 8l 8t 34l Co 44l An 12l 12n Dl 1n
26l 8n 19l Bn 2El 3n 30l 1n 2l 4n 2l 2n 27l 1n 43l 6n 2l 2n 2l Bn 3l 1n 8l 1n 2Fl 1n 33l 1n
1l 3n 2l 2n 5l 2n 1l 1n 2Al 2n 8l Bn 69l 56o 25l 1n 2l 1n 4l 3n 4F2El 94n 18Ck 52o 3Fk 51o
25n 2Eo 18Dk 101l 1o 3El 4Do 3l 40o 2Dl 83n 60l 1n 1Fj 76l An 480l 11Fr 1o E1r Fn 28r 8n
A5r 6n 4Er 7o 1C0r 24k Cn 10q 29r 5n F2r 20q 2Br 2n 15r 38k 6n 30r 16k Bn 1Fk 12r 4n 7Ar 1l
1n 36l Fn Bl 14o Al 1n 2l 2n Al 3n 31l 4n 2l 2n 7l En 30l 3n 24l 5n 1l 9n 3Dl 1n Cl 2n 34l
9n Al 4n 2l 1n 5Fl 3n 2l 1n 1l 2n 6l 1n 2l 3Fn 5Fl 1n 3l Dn 10l 2n 39l 2n 3l 1n 25l 1An 3Bl
7n Cl 1n 1l 1n 1l 1n El 1Fn 38l 8n 2l 3n 1l 1n 17l 1n 54l 6n 1l 1n 4l 2n 1l 2n EEl 6n 4l 2n
1l 2n 1Bl 24n 33l 8n 2l 1n 1l 2n 1Fl 20o 2Bl 1n 1l 1n 2l 6n 1l 1n 65l 3n 2l 4n 1l 9n FFl 9n
1l 2n 100l 2n 1l 1n 4l 1n 90l 8n 4l 1n 20l 6n 2l 2n 28l 6n 2l 4n 8l 9n 1l 6n 2l 3n 2El Dn
1l 2n C6l 1n 1l 3n 1l 1n C9l En 54l 17n 1l 7n 1l 2n 1l 4Bn 31l 15n 1l 9n 40l 3n 2l 1n 1l 1n
15Bl 2n Bl 2n 34l 8n 2l 1n 1l 1n 17l 56n 25l 8o 4t 1Eo 1441l 1n 6l 19n 2CBEl Cn 3l 3n 9C0l
5n 3Bl 7n 418l 1n 3Fl 4n 4Fl 1o 1l Cn 4CADl 2n 1261l 50n 217l 3n 11l 8n 2l 7n 1El 4n 3Bl
59o 3n 7Bo 40l 60o 6A0l 37n 4l 32n 8l 1n El 1n 16l 465n 100l 100n 30l 7n 177l 12n 2Cl 4n Fl
1D1t 1Cl 4n FEl 2n F3l 1n 2l 1n 7l 2n 5l 9n 102l D0r 52n 22r 7n 326r 27Fk 260o 1Dl 3o 3Dl
39o 7Al 478o 4l 9Bo 4l 137o 4El 154o Cl 29o 7l 2Eo 1l 7o 8l Eo 4l 9o 7l DBo F0435l"

/-- The direction of every character that a name may hold, in runs. -/
def directions : Runs Direction := Runs.ofText Direction.ofWord directionText

/-- The direction of a character. -/
def direction (c : Char) : Direction := directions.value .leftToRight c

namespace Direction

/-- The character is written from right to left. -/
def turns : Direction → Bool
  | rightToLeft | arabicLetter | arabicNumber => true
  | _ => false

/-- The character may stand anywhere. -/
def goesAnywhere : Direction → Bool
  | number | numberSeparator | commonSeparator | numberTerminator | neutral | boundary
  | nonspacing => true
  | _ => false

/-- A label that starts with a left-to-right character. -/
def isOrderedLeft (ds : List Direction) : Bool :=
  ds.all (fun d => d.goesAnywhere || d == leftToRight)
    && match ds.reverse.dropWhile (· == nonspacing) with
      | [] => true
      | last :: _ => last == leftToRight || last == number

/-- A label that starts with a right-to-left character. -/
def isOrderedRight (ds : List Direction) : Bool :=
  ds.all (fun d => d.goesAnywhere || d.turns)
    && !(ds.contains number && ds.contains arabicNumber)
    && match ds.reverse.dropWhile (· == nonspacing) with
      | [] => true
      | last :: _ => last.turns || last == number

/-- The rule for a label of a name that has right-to-left characters. -/
def isOrdered : List Direction → Bool
  | [] => true
  | leftToRight :: ds => isOrderedLeft (leftToRight :: ds)
  | rightToLeft :: ds => isOrderedRight (rightToLeft :: ds)
  | arabicLetter :: ds => isOrderedRight (arabicLetter :: ds)
  | _ => false

end Direction

end TunnelRelay.Domain
