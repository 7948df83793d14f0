import TunnelRelay.Domain.Runs

/-!
# Marks

A mark is written over, under or around the character before it. Marks of different classes on one
character do not disturb each other, so their order says nothing; class 0 keeps its place. In the
table `o` is no mark and `m` a mark, followed by its class when that is not 0.
-/

namespace TunnelRelay.Domain

/-- The classes of the marks. -/
def markText : String :=
  "300o 15mE6 1mE8 4mDC 1mE8 1mD8 5mDC 2mCA 4mDC 2mCA BmDC 5m1 4mDC AmE6 3mDC 3mE6 3mDC 3mE6
4mDC 1mE6 1mE8 2mDC 1mE6 1mE9 2mEA 1mE9 2mEA 1mE9 EmE6 112o 5mE6 3m 106o 1mDC 4mE6 1mDC
3mE6 1mDE 1mDC 6mE6 6mDC 2mE6 1mDC 2mE6 1mDE 1mE4 1mE6 1mA 1mB 1mC 1mD 1mE 1mF 1m10 1m11
1m12 2m13 1m14 1m15 1m16 1o 1m17 1o 1m18 1m19 1o 1mE6 1mDC 1o 9m12 40o 8mE6 1m1E 1m1F 1m20
30o 1m1B 1m1C 1m1D 1m1E 1m1F 1m20 1m21 1m22 2mE6 2mDC 5mE6 1mDC 2mE6 1mDC 10o 1m23 65o 8mE6
1o 4mE6 1mDC 1mE6 2o 2mE6 1o 1mDC 2mE6 1mDC 23o 1m24 1Eo 1mE6 1mDC 2mE6 1mDC 2mE6 3mDC 1mE6
2mDC 1mE6 1mDC 3mE6 1mDC 1mE6 1mDC 1mE6 1mDC 1mE6 1mDC 4mE6 59o Bm 3Ao 7mE6 1mDC 1mE6 9o
1mDC 18o 4mE6 1o 9mE6 1o 3mE6 1o 7mE6 29o 5mDC 39o 2mE6 3mDC 4mE6 2Ao 5mE6 5mDC FmE6 1mDC
2mE6 1mDC 2mE6 1mDC 3mE6 3mDC 1m1B 1m1C 1m1D 3mE6 1mDC 2mE6 2mDC 5mE6 4m 36o 2m 1m7 1o Fm
1m9 2m 1o 1mE6 1mDC 2mE6 Bm 2o 2m 1Do 4m 37o 1m7 1o Fm 1m9 9o 9m 2o 4m 18o 3mE6 4m 37o 2m7
Fm 4m9 Bm 14o 2m 3o 1m Bo 4m 37o 1m7 1o Fm 3m9 12o 4m 14o Bm 37o 1m7 1o Fm 8m9 Am 3o 4m 1Co
1m 3Bo Fm 3m9 7o Fm 1Ao 5m 37o 1m7 1o Fm 8m9 1m54 2m5B Ao 4m 1Bo 3m 38o 1m7 1o Fm 8m9 7m 6o
4m Do 11m 37o 2m9 1o Fm 1m9 9o 1m Ao 4m 1Bo 4m 45o 5m9 17m Co 2m 3Do 1m 2o 4m 2m67 5m9 8o
1m 4m6B 3m 62o 1m 2o 4m 2m76 1m9 2m Bo 4m7A 4m 48o 2mDC 1Bo 1mDC 1o 1mDC 1o 1mD8 4o 2m 31o
1m81 2m82 6m84 4m82 2m 2m82 2mE6 1m9 1o 2mE6 5o 31m 8o 1mDC 64o Cm 1m7 1m 2m9 4m 17o 4m 4o
3m 1o 3m 2o 7m 3o 4m Do Bm 1mDC 1o 1m Ao 4m 2BFo 3mE6 3B2o 2m Bm9 13o 2m 1m9 1Do Em 12o Em
36o 1Cm 1m9 1m 9o 3mE6 A5o 2m 22o 1mE4 76o 19m 1mDE 1mE6 5mDC D7o 1mE6 1mDC 5m 37o Bm 1m9
14m AmE6 1mDC 30o 5mE6 6mDC 2mE6 1mDC 1m 2mDC 2mE6 2mDC 5mE6 1mDC 12mE6 3mDC 6mE6 1mDC 4mE6
15mEA 5m 2Fo 1m7 Fm 1m9 26o 1mE6 1mDC 7mE6 Co 3m 1Eo 9m 2m9 2m 38o 1m7 Bm Am9 28o 13m 4m7
95o 3mE6 1o 1m1 5mDC 2mE6 4mDC 1mE6 1m 7m1 4o 1mDC 6o 1mE6 2o 1m 2mE6 C6o 2mE6 1mDC 7mE6
1mDC 2mE6 1mEA 1mD6 1mDC 1mCA 25mE6 1mE8 2mE4 1mDC 1mDA 1mE6 1mE9 1mDC 1mE6 2mDC 2CFo 2mE6
2m1 4mE6 3m1 2mE6 4m 1mE6 3m 2m1 1mE6 1mDC 1mE6 2m1 4mDC 14mE6 BEBo 4mE6 8Co 1m9 60o 20mE6
22Ao 1mDA 1mE4 1mE8 1mDE 2mE0 69o 4m8 75D2o 1mE6 3m 1o AmE6 20o 2mE6 50o 2mE6 110o 1m 3o
1m9 4o 1m 17o 5m 4o 4m9 50o 2m 32o 10m 1m9 9m 12o 12mE6 Do 1m 26o 5m 3mDC 19o Cm Cm9 21o 4m
2Fo 1m7 Cm 1m9 24o 1m 43o 17m 3o 1m 8o 4m 2Bo 3m 32o 1mE6 1o 2mE6 1mDC 2o 2mE6 5o 2mE6 1o
1mE6 29o 5m 5o 1m Bm9 E2o 8m 1o 1m 3m9 4F2Eo 94m1A 26Eo 7mE6 7mDC 17mE6 3B8o 83mDC 60o 1mDC
95o AmE6 681o Cm 1mDC 1m 1mE6 28o 1mE6 1m1 5mDC 1m9 A5o 1mE6 5mDC 239o CmE6 39o 5mE6 13Do
2mE6 4Do 2mDC 1m 3mDC 46o 2mDC 3mE6 1mDC 1mE6 4mDC 31o 1mE6 1mDC 1mE6 1mDC 7Ao 3m 35o Em
1m9 29o 1m9 2o 2m Ao 1m9 3m 2Do 9m 1m9 1m7 7o Em 30o 3mE6 24o Cm 3m9 Fo 2m 2Co 1m7 Co 3m
30o Dm 1m9 8o 1m 1m7 2m 1o 2m 5Co 9m 1m9 1m7 1m 6o 1m 2o 3Fm 5Fo Am 1m7 6m9 10o 5m 36o 2m7
1o Fm 3m9 7o 6m 5o 4m 1AmE6 38o 16m 3m9 1o 1m Eo 1Fm 35o Dm 1m9 3m 1m7 17o 1mE6 51o 12m 1m9
1m7 EBo 10m 1m9 1m7 1Bo 24m 30o Fm 1m9 1m 6Ao Bm 1m9 1m7 65o Em 5m9 FCo Dm 1m9 1m7 F5o Dm
2m9 1o 1m 1o 1m 1m7 8Do Fm 1m9 3o 1Cm 1o Am 28o 1m 1m9 5m 1o 4m 8o 9m9 1o Bm 2Eo Fm 1m9 C6o
60m 6Fo 10m 1m9 52o 6Em 31o 11m 1m7 1m 2m9 1o 9m 3Ao Dm 1m9 15Bo 4m 9o 2m 1o 1m 30o Dm 2m9
17o 56m 1490o 1m 6o 19m 2CBEo 11m 1m9 9C0o 5m1 3Bo 7mE6 418o 1m 1o 42m 51o Cm 2m6 4CABo 1m
1m1 1261o 50m 215o 2mD8 3m1 3o 1mE2 DmD8 8mDC 2o 5mE6 2mDC 1Eo 4mE6 94o 3mE6 7BBo 37m 4o
32m 8o 1m Eo 1m 16o 465m 100o 100mE6 30o 7mE6 177o 12mE6 2Co 4mE6 1FCo 2mE8 1mDC 1mE6 FEo
1mE6 1mDC F3o 1mE6 2o 1mE6 7o 2mE6 5o 9mE6 1D2o 52mDC 22o 6mE6 1m7 F16B5o"

/-- The class of every mark, in runs. -/
def marks : Runs (Option Nat) :=
  Runs.ofText (fun | 'm' :: r => some (leadingHex 0 r).1 | _ => none) markText

/-- Whether the character is a mark. -/
def isMark (c : Char) : Bool := (marks.value none c).isSome

/-- The class of a mark, and 0 for any other character. -/
def markClass (c : Char) : Nat := (marks.value none c).getD 0

/-- The class of the marks that take the vowel from a letter. -/
def vowelKiller : Nat := 9

end TunnelRelay.Domain
