import TunnelRelay.Domain.Mark

/-!
# Joiners

Two invisible characters tell letters to join or not to join. A name may hold them only where they
make a difference: after a mark that takes the vowel from a letter, and the one that parts also
between two letters that would join.
-/

namespace TunnelRelay.Domain

/-- How a letter joins its neighbours. -/
inductive Joining where
  /-- With both. -/
  | both
  /-- With the next one. -/
  | next
  /-- With the one before. -/
  | previous
  /-- It is not seen by its neighbours. -/
  | transparent
  /-- With none. -/
  | none
  deriving DecidableEq, Repr

/-- The joining that a word of the table spells. -/
def Joining.ofWord : List Char → Joining
  | 'w' :: _ => .both
  | 'l' :: _ => .next
  | 'r' :: _ => .previous
  | 't' :: _ => .transparent
  | _ => .none

/-- The joining of every character that a name may hold. -/
def joiningText : String :=
  "300o 71t 112o 8t 106o 2Dt 1o 1t 1o 2t 1o 2t 1o 9t 40o Bt 5o 1w 1o 4r 1w 1r 1w 1r 5w 4r Dw
1o 7w 1r 2w 15t Eo 2w 1t 3r 5o Fw 12r 26w 1r 2w 9r 1w 1r 1w 1r 2w 2r 1o 1r 8t 1o 6t 2o 2t
1o 4t 2r Ao 3w 2o 1w 10o 1r 1t 3w 5r 4w 1r 9w 1r 1w 1r 1w 1r 2w 1r 1Dt 1r Bw 3r Fw 2r 4w 1r
1w 2r 3w 2r 6w 26o Bt 19o 21w 9t 9o 1t 18o 4t 1o 9t 1o 3t 1o 7t 10o 1r 5w 2r 1w 1r Aw 1r 1w
3r 5t 2o 1w 1o 4w 1o 1r 1w 1Ar 3o 1w 2o 5w 1r 8w 9t Aw 3r 1o 1r 2w 2r 6w 1r Fw 1o 39t 37o
1t 1o 1t 4o 8t 4o 1t 3o Ft 2o 2t 1Do 1t 3Ao 1t 4o 6t 6o 1t 14o 4t 18o 5t 39o 2t 3o 1Bt 14o
2t 3o 1t Bo 2t 39o 1t 4o 8t 4o 3t 12o 4t 14o 8t 3Ao 1t 2o 1t 1o 6t 6o At Bo 4t 1Co 1t 3Do
1t Co 3t 30o 1t 3o 1t 37o 1t 1o 3t 5o 12t Ao 4t 1Bo 1t 3Ao 1t 2o 1t 6o 1t 5o 9t Do 4t 1Ao
2t 39o 2t 4o 5t 7o 1t 14o 4t 1Bo 1t 48o 5t 3o 6t 59o 1t 2o Bt 8o 8t 62o 1t 2o 9t Bo 8t 48o
2t 1Bo 1t 1o 1t 1o 1t 37o Et 1o 5t 1o 2t 5o 31t 8o 1t 66o 4t 1o 6t 1o 2t 2o 2t 19o 2t 4o 3t
10o 4t Do 1t 2o 2t 6o 1t Fo 1t 2BFo 3t 3B2o 3t 1Do 2t 1Eo Et 12o Et 37o 7t 8o 1t 2o Bt 9o
3t 27o 1w 18o 60w 5o 2t 22w 1t 6w 70o 3t 4o 2t 9o 1t 6o 7t D7o 2t 2o 3t 38o 1t 1o 9t 1o 1t
2o 8t 6o Dt 30o 54t 30o 1t 1o 5t 1o 1t 5o 1t 28o 9t Co 2t 20o 4t 2o 2t 1o 3t 38o 1t 1o 2t
3o 1t 1o 3t 3Ao 8t 2o 5t 95o 3t 1o Dt 1o 7t 4o 1t 6o 1t 3o 2t C6o 41t 2CFo 34t BEBo 4t 8Co
1t 60o 20t 22Ao 4t 6Bo 4t 75D2o 4t 1o At 20o 2t 50o 2t 110o 1t 3o 1t 4o 1t 19o 2t 5o 4t 10o
32w 1l 51o At 12o 12t Do 1t 26o 8t 19o Bt 2Eo 3t 30o 1t 2o 4t 2o 2t 27o 1t 43o 6t 2o 2t 2o
Bt 3o 1t 8o 1t 2Fo 1t 33o 1t 1o 3t 2o 2t 5o 2t 1o 1t 2Ao 2t 8o Bt E4o 1t 2o 1t 4o 3t 4F2Eo
94t 26Eo 25t 3B8o 83t 60o 1t 95o At 681o Ft 28o 8t 80o 5w 1r 1o 1r 1o 2r 2o 1l 5r 4w 1l 5w
1r 3w 1r 2o 1r 6t 4w 1r 90o 1w 1r 1w 3r 3w 1r 2w 1r 1w 2r 1w 8r 10o 4r 2w 151o 1l 21w 1r 1w
Ct 39o 5t 13Do 2t 15o 1r 2w 1o Aw 2Ao 6t 30o 3w 1r 11w 1o Bt 3w 1r 1Bo 4w 2r Cw 4t 2Ao 1w
1o 2w 3r 1o 1w 2r 2w 1r 2w 1o 1w 2r 1w 4o 1r 1w 15l 21o 1t 36o Ft 29o 1t 2o 2t Ao 3t 31o 4t
2o 2t 7o Et 30o 3t 24o 5t 1o 9t 3Do 1t Co 2t 34o 9t Ao 4t 2o 1t 5Fo 3t 2o 1t 1o 2t 6o 1t 2o
3Ft 5Fo 1t 3o Dt 10o 2t 39o 2t 3o 1t 25o 1At 3Bo 7t Co 1t 1o 1t 1o 1t Eo 1Ft 38o 8t 2o 3t
1o 1t 17o 1t 54o 6t 1o 1t 4o 2t 1o 2t EEo 6t 4o 2t 1o 2t 1Bo 24t 33o 8t 2o 1t 1o 2t 6Ao 1t
1o 1t 2o 6t 1o 1t 65o 1t 1o 1t 2o 4t 1o 9t FFo 9t 1o 2t 100o 2t 1o 1t 4o 1t 90o 8t 4o 1t
20o At 28o 6t 2o 4t 8o 9t 1o 6t 2o 3t 2Eo Dt 1o 2t C6o 1t 1o 3t 1o 1t C9o Et 1o 1t 52o 17t
1o 7t 1o 2t 1o 4Bt 31o 15t 1o 9t 40o 3t 2o 1t 1o 1t 15Bo 2t Bo 2t 34o 8t 2o 1t 1o 1t 17o
56t 1490o 1t 6o 19t 2CBEo Ct 3o 3t 9C0o 5t 3Bo 7t 418o 1t 3Fo 4t 51o Ct 4CADo 2t 1261o 50t
217o 3t 11o 8t 2o 7t 1Eo 4t 94o 3t 7BBo 37t 4o 32t 8o 1t Eo 1t 16o 465t 100o 100t 30o 7t
177o 12t 2Co 4t 1FCo 4t FEo 2t F3o 1t 2o 1t 7o 2t 5o 9t 1D2o 52t 22w Ct F16B0o"

/-- The joining of every character that a name may hold, in runs. -/
def joinings : Runs Joining := Runs.ofText Joining.ofWord joiningText

/-- The joining of a character. -/
def joining (c : Char) : Joining := joinings.value .none c

/-- The character that parts two letters. -/
def nonJoiner : Char := '\u200C'

/-- The character that joins two letters. -/
def joiner : Char := '\u200D'

/-- The first character that its neighbours see joins in one of these ways. -/
def firstJoins (ways : List Joining) (cs : List Char) : Bool :=
  match (cs.map joining).dropWhile (· == .transparent) with
  | [] => false
  | j :: _ => ways.contains j

/-- A joiner or non-joiner stands where it makes a difference; `before` is in reverse. -/
def isJoinerInPlace (before : List Char) (c : Char) (after : List Char) : Bool :=
  (match before with
    | b :: _ => markClass b == vowelKiller
    | [] => false)
  || (c == nonJoiner && firstJoins [.next, .both] before && firstJoins [.previous, .both] after)

/-- Every joiner and non-joiner of a label makes a difference; `before` is in reverse. -/
def areJoinersInPlace (before : List Char) : List Char → Bool
  | [] => true
  | c :: cs =>
    ((c != joiner && c != nonJoiner) || isJoinerInPlace before c cs)
      && areJoinersInPlace (c :: before) cs

end TunnelRelay.Domain
