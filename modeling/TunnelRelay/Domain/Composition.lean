import TunnelRelay.Domain.Mark

/-!
# Composed characters

A letter with a mark can be written as one character or as two. `compose` writes it as one where
there is one, whatever the text had: it takes everything apart, puts the marks of each letter into
the order of their classes, and puts together what can be. The syllables of Hangul follow from their
three parts by arithmetic; the other pairs are in a table of first part, second part and whole.
-/

namespace TunnelRelay.Domain

/-- The pairs that can be put together. -/
def pairText : String :=
  "61t300tE0 65t300tE8 69t300tEC 6Et300t1F9 6Ft300tF2 75t300tF9 77t300t1E81 79t300t1EF3
E2t300t1EA7 EAt300t1EC1 F4t300t1ED3 FCt300t1DC 103t300t1EB1 113t300t1E15 14Dt300t1E51
1A1t300t1EDD 1B0t300t1EEB 3B1t300t1F70 3B5t300t1F72 3B7t300t1F74 3B9t300t1F76 3BFt300t1F78
3C5t300t1F7A 3C9t300t1F7C 3CAt300t1FD2 3CBt300t1FE2 435t300t450 438t300t45D 1F00t300t1F02
1F01t300t1F03 1F10t300t1F12 1F11t300t1F13 1F20t300t1F22 1F21t300t1F23 1F30t300t1F32
1F31t300t1F33 1F40t300t1F42 1F41t300t1F43 1F50t300t1F52 1F51t300t1F53 1F60t300t1F62
1F61t300t1F63 61t301tE1 63t301t107 65t301tE9 67t301t1F5 69t301tED 6Bt301t1E31 6Ct301t13A
6Dt301t1E3F 6Et301t144 6Ft301tF3 70t301t1E55 72t301t155 73t301t15B 75t301tFA 77t301t1E83
79t301tFD 7At301t17A E2t301t1EA5 E5t301t1FB E6t301t1FD E7t301t1E09 EAt301t1EBF EFt301t1E2F
F4t301t1ED1 F5t301t1E4D F8t301t1FF FCt301t1D8 103t301t1EAF 113t301t1E17 14Dt301t1E53
169t301t1E79 1A1t301t1EDB 1B0t301t1EE9 3B1t301t3AC 3B5t301t3AD 3B7t301t3AE 3B9t301t3AF
3BFt301t3CC 3C5t301t3CD 3C9t301t3CE 3CAt301t390 3CBt301t3B0 433t301t453 43At301t45C
1F00t301t1F04 1F01t301t1F05 1F10t301t1F14 1F11t301t1F15 1F20t301t1F24 1F21t301t1F25
1F30t301t1F34 1F31t301t1F35 1F40t301t1F44 1F41t301t1F45 1F50t301t1F54 1F51t301t1F55
1F60t301t1F64 1F61t301t1F65 61t302tE2 63t302t109 65t302tEA 67t302t11D 68t302t125 69t302tEE
6At302t135 6Ft302tF4 73t302t15D 75t302tFB 77t302t175 79t302t177 7At302t1E91 1EA1t302t1EAD
1EB9t302t1EC7 1ECDt302t1ED9 61t303tE3 65t303t1EBD 69t303t129 6Et303tF1 6Ft303tF5 75t303t169
76t303t1E7D 79t303t1EF9 E2t303t1EAB EAt303t1EC5 F4t303t1ED7 103t303t1EB5 1A1t303t1EE1
1B0t303t1EEF 61t304t101 65t304t113 67t304t1E21 69t304t12B 6Ft304t14D 75t304t16B 79t304t233
E4t304t1DF E6t304t1E3 F5t304t22D F6t304t22B FCt304t1D6 1EBt304t1ED 227t304t1E1 22Ft304t231
3B1t304t1FB1 3B9t304t1FD1 3C5t304t1FE1 438t304t4E3 443t304t4EF 1E37t304t1E39 1E5Bt304t1E5D
61t306t103 65t306t115 67t306t11F 69t306t12D 6Ft306t14F 75t306t16D 229t306t1E1D 3B1t306t1FB0
3B9t306t1FD0 3C5t306t1FE0 430t306t4D1 435t306t4D7 436t306t4C2 438t306t439 443t306t45E
1EA1t306t1EB7 61t307t227 62t307t1E03 63t307t10B 64t307t1E0B 65t307t117 66t307t1E1F
67t307t121 68t307t1E23 6Dt307t1E41 6Et307t1E45 6Ft307t22F 70t307t1E57 72t307t1E59
73t307t1E61 74t307t1E6B 77t307t1E87 78t307t1E8B 79t307t1E8F 7At307t17C 15Bt307t1E65
161t307t1E67 1E63t307t1E69 105D2t307t105C9 105DAt307t105E4 61t308tE4 65t308tEB 68t308t1E27
69t308tEF 6Ft308tF6 74t308t1E97 75t308tFC 77t308t1E85 78t308t1E8D 79t308tFF F5t308t1E4F
16Bt308t1E7B 3B9t308t3CA 3C5t308t3CB 430t308t4D3 435t308t451 436t308t4DD 437t308t4DF
438t308t4E5 43Et308t4E7 443t308t4F1 447t308t4F5 44Bt308t4F9 44Dt308t4ED 456t308t457
4D9t308t4DB 4E9t308t4EB 61t309t1EA3 65t309t1EBB 69t309t1EC9 6Ft309t1ECF 75t309t1EE7
79t309t1EF7 E2t309t1EA9 EAt309t1EC3 F4t309t1ED5 103t309t1EB3 1A1t309t1EDF 1B0t309t1EED
61t30AtE5 75t30At16F 77t30At1E98 79t30At1E99 6Ft30Bt151 75t30Bt171 443t30Bt4F3 61t30Ct1CE
63t30Ct10D 64t30Ct10F 65t30Ct11B 67t30Ct1E7 68t30Ct21F 69t30Ct1D0 6At30Ct1F0 6Bt30Ct1E9
6Ct30Ct13E 6Et30Ct148 6Ft30Ct1D2 72t30Ct159 73t30Ct161 74t30Ct165 75t30Ct1D4 7At30Ct17E
FCt30Ct1DA 292t30Ct1EF 61t30Ft201 65t30Ft205 69t30Ft209 6Ft30Ft20D 72t30Ft211 75t30Ft215
475t30Ft477 61t311t203 65t311t207 69t311t20B 6Ft311t20F 72t311t213 75t311t217 3B1t313t1F00
3B5t313t1F10 3B7t313t1F20 3B9t313t1F30 3BFt313t1F40 3C1t313t1FE4 3C5t313t1F50 3C9t313t1F60
3B1t314t1F01 3B5t314t1F11 3B7t314t1F21 3B9t314t1F31 3BFt314t1F41 3C1t314t1FE5 3C5t314t1F51
3C9t314t1F61 6Ft31Bt1A1 75t31Bt1B0 61t323t1EA1 62t323t1E05 64t323t1E0D 65t323t1EB9
68t323t1E25 69t323t1ECB 6Bt323t1E33 6Ct323t1E37 6Dt323t1E43 6Et323t1E47 6Ft323t1ECD
72t323t1E5B 73t323t1E63 74t323t1E6D 75t323t1EE5 76t323t1E7F 77t323t1E89 79t323t1EF5
7At323t1E93 1A1t323t1EE3 1B0t323t1EF1 75t324t1E73 61t325t1E01 73t326t219 74t326t21B
63t327tE7 64t327t1E11 65t327t229 67t327t123 68t327t1E29 6Bt327t137 6Ct327t13C 6Et327t146
72t327t157 73t327t15F 74t327t163 61t328t105 65t328t119 69t328t12F 6Ft328t1EB 75t328t173
64t32Dt1E13 65t32Dt1E19 6Ct32Dt1E3D 6Et32Dt1E4B 74t32Dt1E71 75t32Dt1E77 68t32Et1E2B
65t330t1E1B 69t330t1E2D 75t330t1E75 62t331t1E07 64t331t1E0F 68t331t1E96 6Bt331t1E35
6Ct331t1E3B 6Et331t1E49 72t331t1E5F 74t331t1E6F 7At331t1E95 3Ct338t226E 3Dt338t2260
3Et338t226F 2190t338t219A 2192t338t219B 2194t338t21AE 21D0t338t21CD 21D2t338t21CF
21D4t338t21CE 2203t338t2204 2208t338t2209 220Bt338t220C 2223t338t2224 2225t338t2226
223Ct338t2241 2243t338t2244 2245t338t2247 2248t338t2249 224Dt338t226D 2261t338t2262
2264t338t2270 2265t338t2271 2272t338t2274 2273t338t2275 2276t338t2278 2277t338t2279
227At338t2280 227Bt338t2281 227Ct338t22E0 227Dt338t22E1 2282t338t2284 2283t338t2285
2286t338t2288 2287t338t2289 2291t338t22E2 2292t338t22E3 22A2t338t22AC 22A8t338t22AD
22A9t338t22AE 22ABt338t22AF 22B2t338t22EA 22B3t338t22EB 22B4t338t22EC 22B5t338t22ED
3B1t342t1FB6 3B7t342t1FC6 3B9t342t1FD6 3C5t342t1FE6 3C9t342t1FF6 3CAt342t1FD7 3CBt342t1FE7
1F00t342t1F06 1F01t342t1F07 1F20t342t1F26 1F21t342t1F27 1F30t342t1F36 1F31t342t1F37
1F50t342t1F56 1F51t342t1F57 1F60t342t1F66 1F61t342t1F67 627t653t622 627t654t623 648t654t624
64At654t626 6C1t654t6C2 6D2t654t6D3 6D5t654t6C0 627t655t625 928t93Ct929 930t93Ct931
933t93Ct934 9C7t9BEt9CB 9C7t9D7t9CC B47tB3EtB4B B47tB56tB48 B47tB57tB4C BC6tBBEtBCA
BC7tBBEtBCB B92tBD7tB94 BC6tBD7tBCC C46tC56tC48 CC6tCC2tCCA CBFtCD5tCC0 CC6tCD5tCC7
CCAtCD5tCCB CC6tCD6tCC8 D46tD3EtD4A D47tD3EtD4B D46tD57tD4C DD9tDCAtDDA DDCtDCAtDDD
DD9tDCFtDDC DD9tDDFtDDE 1025t102Et1026 1B05t1B35t1B06 1B07t1B35t1B08 1B09t1B35t1B0A
1B0Bt1B35t1B0C 1B0Dt1B35t1B0E 1B11t1B35t1B12 1B3At1B35t1B3B 1B3Ct1B35t1B3D 1B3Et1B35t1B40
1B3Ft1B35t1B41 1B42t1B35t1B43 3046t3099t3094 304Bt3099t304C 304Dt3099t304E 304Ft3099t3050
3051t3099t3052 3053t3099t3054 3055t3099t3056 3057t3099t3058 3059t3099t305A 305Bt3099t305C
305Dt3099t305E 305Ft3099t3060 3061t3099t3062 3064t3099t3065 3066t3099t3067 3068t3099t3069
306Ft3099t3070 3072t3099t3073 3075t3099t3076 3078t3099t3079 307Bt3099t307C 309Dt3099t309E
30A6t3099t30F4 30ABt3099t30AC 30ADt3099t30AE 30AFt3099t30B0 30B1t3099t30B2 30B3t3099t30B4
30B5t3099t30B6 30B7t3099t30B8 30B9t3099t30BA 30BBt3099t30BC 30BDt3099t30BE 30BFt3099t30C0
30C1t3099t30C2 30C4t3099t30C5 30C6t3099t30C7 30C8t3099t30C9 30CFt3099t30D0 30D2t3099t30D3
30D5t3099t30D6 30D8t3099t30D9 30DBt3099t30DC 30EFt3099t30F7 30F0t3099t30F8 30F1t3099t30F9
30F2t3099t30FA 30FDt3099t30FE 306Ft309At3071 3072t309At3074 3075t309At3077 3078t309At307A
307Bt309At307D 30CFt309At30D1 30D2t309At30D4 30D5t309At30D7 30D8t309At30DA 30DBt309At30DD
11099t110BAt1109A 1109Bt110BAt1109C 110A5t110BAt110AB 11131t11127t1112E 11132t11127t1112F
11347t1133Et1134B 11347t11357t1134C 113C2t113B8t113C7 11384t113BBt11385 1138Bt113C2t1138E
113C2t113C2t113C5 11382t113C9t11383 11390t113C9t11391 113C2t113C9t113C8 114B9t114B0t114BC
114B9t114BAt114BB 114B9t114BDt114BE 115B8t115AFt115BA 115B9t115AFt115BB 11935t11930t11938
1611Et1611Et16121 1611Et1611Ft16123 16121t1611Ft16126 16122t1611Ft16127 16129t1611Ft16124
1611Et16120t16125 16121t16120t16128 1611Et16129t16122 16D63t16D67t16D69 16D67t16D67t16D68
16D69t16D67t16D6A"

/-- A pair and the character that it makes. -/
structure Pair where
  first : Char
  second : Char
  whole : Char

/-- The pair that a word of the table spells. -/
def Pair.ofWord (word : List Char) : Pair :=
  let (a, r) := leadingHex 0 word
  let (b, r) := leadingHex 0 (r.drop 1)
  let (c, _) := leadingHex 0 (r.drop 1)
  ⟨Char.ofNat a, Char.ofNat b, Char.ofNat c⟩

/-- The pairs that can be put together. -/
def pairs : Array Pair := ((words pairText.toList).map Pair.ofWord).toArray

/-! ## Syllables -/

/-- The syllable of a leading consonant and a vowel. -/
def openSyllable? (a b : Nat) : Option Nat :=
  if 0x1100 ≤ a ∧ a < 0x1113 ∧ 0x1161 ≤ b ∧ b < 0x1176 then
    some (0xAC00 + ((a - 0x1100) * 21 + (b - 0x1161)) * 28)
  else none

/-- The syllable of an open syllable and a trailing consonant. -/
def closedSyllable? (a b : Nat) : Option Nat :=
  if 0xAC00 ≤ a ∧ a < 0xD7A4 ∧ (a - 0xAC00) % 28 = 0 ∧ 0x11A7 < b ∧ b < 0x11C3 then
    some (a + (b - 0x11A7))
  else none

/-- The parts of a syllable. -/
def syllableParts? (c : Nat) : Option (List Nat) :=
  if 0xAC00 ≤ c ∧ c < 0xD7A4 then
    let n := c - 0xAC00
    let last := n % 28
    some ([0x1100 + n / 588, 0x1161 + n % 588 / 28] ++ if last = 0 then [] else [0x11A7 + last])
  else none

/-! ## Taking apart and putting together -/

/-- The character that a pair makes. -/
def together? (a b : Char) : Option Char :=
  match (openSyllable? a.toNat b.toNat).or (closedSyllable? a.toNat b.toNat) with
  | some n => some (Char.ofNat n)
  | none => (pairs.find? fun p => p.first = a ∧ p.second = b).map (·.whole)

/-- The parts of a character; no character has more than `depth` parts after the first. -/
def apart (depth : Nat) (c : Char) : List Char :=
  match syllableParts? c.toNat, depth with
  | some ns, _ => ns.map Char.ofNat
  | none, 0 => [c]
  | none, depth + 1 =>
    match pairs.find? fun p => p.whole = c with
    | some p => apart depth p.first ++ [p.second]
    | none => [c]

/-- The most parts of a character after its first. -/
def maxDepth : Nat := 4

/-- Puts a mark among those before it, which stand in reverse: behind all that are not of a higher
class. -/
def insertMark (c : Char) : List Char → List Char
  | [] => [c]
  | d :: ds => if markClass c < markClass d then d :: insertMark c ds else c :: d :: ds

/-- The marks of every letter in the order of their classes. -/
def order (cs : List Char) : List Char :=
  (cs.foldl (fun before c => if markClass c = 0 then c :: before else insertMark c before)
    []).reverse

/-- Puts the characters of one letter together. `letter` is the letter so far, `kept` the marks that
stay by themselves, in reverse, and `last` the class of the last of them. -/
def gatherMarks (letter : Char) (kept : List Char) (last : Option Nat) : List Char → List Char
  | [] => letter :: kept.reverse
  | c :: cs =>
    let k := markClass c
    let blocked := match last with
      | none => false
      | some l => l == 0 || k ≤ l
    match if blocked then none else together? letter c with
    | some whole => gatherMarks whole kept last cs
    | none =>
      if k = 0 then letter :: kept.reverse ++ gatherMarks c [] none cs
      else gatherMarks letter (c :: kept) (some k) cs

/-- A text that starts with marks keeps them. -/
def gatherLetters : List Char → List Char
  | [] => []
  | c :: cs => if markClass c = 0 then gatherMarks c [] none cs else c :: gatherLetters cs

/-- The text with every letter and its marks in their one form. -/
def compose (cs : List Char) : List Char := gatherLetters (order (cs.flatMap (apart maxDepth)))

end TunnelRelay.Domain
