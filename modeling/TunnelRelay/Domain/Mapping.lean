import TunnelRelay.Domain.Runs

/-!
# What a name makes of a character

Names are written in one form only. Most characters stand for themselves, some stand for others (a
capital for its small letter, a wide form for a plain one), a few stand for nothing, and the rest is
in no name. In the table `v` stands for itself, `x` is in no name, `i` is nothing, `u` is pairs of a
capital and its small letter, `p` and `m` are a distance up and down, and `t` comes before each
character of a text.
-/

namespace TunnelRelay.Domain

/-- What a run of characters stands for. -/
inductive Mapping where
  /-- Each character for itself. -/
  | itself
  /-- No name holds them. -/
  | forbidden
  /-- Each for nothing. -/
  | nothing
  /-- Every second character, from the first on, for the one after it. -/
  | paired (first : Nat)
  /-- Each for the character so far above it. -/
  | above (distance : Nat)
  /-- Each for the character so far below it. -/
  | below (distance : Nat)
  /-- Each for the same text. -/
  | text (cs : List Char)

/-- The characters of a text, each after a `t`. -/
def mappedText : List (List Char) → List Char :=
  List.map fun word => Char.ofNat (leadingHex 0 word).1

/-- The mapping that a word of the table spells. -/
def Mapping.ofWord : List Char → Mapping
  | 'v' :: _ => .itself
  | 'i' :: _ => .nothing
  | 'u' :: _ => .paired 0
  | 'p' :: r => .above (leadingHex 0 r).1
  | 'm' :: r => .below (leadingHex 0 r).1
  | 't' :: r => .text (mappedText (words (r.map fun c => if c = 't' then ' ' else c)))
  | _ => .forbidden

/-- The mapping of every character. -/
def mappingText : String :=
  "41v 1Ap20 25v 20x 1m80 7v 1t20t308 1v 1m49 2v 1i 1v 1t20t304 2v 2m80 1t20t301 1p307 2v
1t20t327 1m88 1m4B 1v 1t31t2044t34 1t31t2044t32 1t33t2044t34 1v 17p20 1v 7p20 21v 2Fu 1v
1t69t307 1v 2t69t6A 3u 2v 5u 1v 2t6CtB7 7u 1v 1t2BCt6E 2Du 1v 1m79 5u 1v 1m10C 1v 1pD2 3u
1v 1pCE 1u 1v 2pCD 1u 2v 1p4F 1pCA 1pCB 1u 1v 1pCD 1pCF 1v 1pD3 1pD1 1u 3v 1pD3 1pD5 1v
1pD6 5u 1v 1pDA 1u 1v 1pDA 2v 1u 1v 1pDA 1u 1v 2pD9 3u 1v 1pDB 1u 3v 1u 7v 3t64t17E 3t6Ct6A
3t6Et6A Fu 2v 11u 2v 3t64t7A 1u 1v 1m61 1m38 27u 1v 1m82 1v 11u 7v 1p2A2B 1u 1v 1mA3 1p2A28
2v 1u 1v 1mC3 1p45 1p47 9u 61v 1m248 1m4B 1m248 1m241 1m3B 1m3A 1m35 1m240 1m23F 1Fv
1t20t306 1t20t307 1t20t30A 1t20t328 1t20t303 1t20t30B 2v 1m7D 1m275 1m26F 1m26B 1m4F 5Bv
2m40 1v 1m30 1t308t301 1p74 9v 1i 20v 3u 1v 1mBB 1v 1u 1v 2x 1t20t3B9 3v 1m343 1p74 4x
1t20t301 1t20t308t301 1p26 1m2D0 3p25 1x 1p40 1x 2p3F 1v 11p20 1x 9p20 23v 1p8 1m1E 1m19
1mD 1m6 1m9 1mF 1m16 1v 17u 1v 1m36 1m30 1m2F 1v 1m3C 1m40 1v 1u 1v 1m36 1u 2v 3m82 10p50
20p20 30v 21u 9v 35u 1v 1pF Du 2v 5Fu 1v 1x 26p30 2x 2Ev 1t565t582 3v 2x 3v 1x 37v 8x 1Bv
4x 6v 11x 16v 1x 58v 1t627t674 1t648t674 1t6C7t674 1t64At674 64v 1x 30v 2x 3Bv 2x 65v Ex
3Bv 2x 31v 2x Fv 1x 1Cv 2x 1v 1x Bv 5x 20v 7x 4Bv 1x 75v 1t915t93C 1t916t93C 1t917t93C
1t91Ct93C 1t921t93C 1t922t93C 1t92Bt93C 1t92Ft93C 24v 1x 8v 2x 2v 2x 16v 1x 7v 1x 1v 3x 4v
2x 9v 2x 2v 2x 4v 8x 1v 4x 1t9A1t9BC 1t9A2t9BC 1x 1t9AFt9BC 4v 2x 19v 2x 3v 1x 6v 4x 2v 2x
16v 1x 7v 1x 1v 1tA32tA3C 1x 1v 1tA38tA3C 1x 2v 2x 1v 1x 5v 4x 2v 2x 3v 3x 1v 7x 1tA16tA3C
1tA17tA3C 1tA1CtA3C 1v 1x 1tA2BtA3C 7x 11v Ax 3v 1x 9v 1x 3v 1x 16v 1x 7v 1x 2v 1x 5v 2x Av
1x 3v 1x 3v 2x 1v Fx 4v 2x Cv 7x 7v 1x 3v 1x 8v 2x 2v 2x 16v 1x 7v 1x 2v 1x 5v 2x 9v 2x 2v
2x 3v 7x 3v 4x 1tB21tB3C 1tB22tB3C 1x 5v 2x 12v Ax 2v 1x 6v 3x 3v 1x 4v 3x 2v 1x 1v 1x 2v
3x 2v 3x 3v 3x Cv 4x 5v 3x 3v 1x 4v 2x 1v 6x 1v Ex 15v 5x Dv 1x 3v 1x 17v 1x 10v 2x 9v 1x
3v 1x 4v 7x 2v 1x 3v 1x 2v 2x 4v 2x Av 7x 16v 1x 3v 1x 17v 1x Av 1x 5v 2x 9v 1x 3v 1x 4v 7x
2v 5x 3v 1x 4v 2x Av 1x 3v Cx Dv 1x 3v 1x 33v 1x 3v 1x 6v 4x 10v 2x 1Av 1x 3v 1x 12v 3x 18v
1x 9v 1x 1v 2x 7v 3x 1v 4x 6v 1x 1v 1x 8v 6x Av 2x 3v Cx 32v 1tE4DtE32 7v 4x 1Dv 25x 2v 1x
1v 1x 5v 1x 18v 1x 1v 1x Cv 1tECDtEB2 Av 2x 5v 1x 1v 1x 7v 1x Av 2x 1tEABtE99 1tEABtEA1 2v
20x Cv 1m1 36v 1tF42tFB7 4v 1x 4v 1tF4CtFB7 4v 1tF51tFB7 4v 1tF56tFB7 4v 1tF5BtFB7 Cv
1tF40tFB5 3v 4x 2v 1tF71tF72 1v 1tF71tF74 1tFB2tF80 1tFB2tF71tF80 1tFB3tF80 1tFB3tF71tF80
7v 1tF71tF80 11v 1tF92tFB7 4v 1x 4v 1tF9CtFB7 4v 1tFA1tFB7 4v 1tFA6tFB7 4v 1tFABtFB7 Cv
1tF90tFB5 3v 1x Fv 1x Dv 25x A0v 26p1C60 1x 1p1C60 5x 1p1C60 2x 2Cv 1m20 62v 2i E8v 1x 4v
2x 7v 1x 1v 1x 4v 2x 29v 1x 4v 2x 21v 1x 4v 2x 7v 1x 1v 1x 4v 2x Fv 1x 39v 1x 4v 2x 43v 2x
20v 3x 1Av 6x 56v 2x 6m8 2x 280v 1x 1Cv 3x 59v 7x 16v 9x 18v 9x 14v Cx Dv 1x 3v 1x 2v Cx
34v 2i 28v 2x Av 6x Av 6x Bv 5i Av 6x 59v 7x 2Bv 5x 46v Ax 1Fv 1x Cv 4x Cv 4x 1v 3x 2Av 2x
5v Bx 2Cv 4x 1Av 6x Bv 3x 3Ev 2x 41v 1x 1Dv 2x Bv 6x Av 6x Ev 2x 2Ev 2x Cv 14x 4Dv 1x A6v
8x 3Cv 3x Fv 3x 33v 1m184E 1m184D 1m1844 2m1842 1m1843 1m183C 1m1824 1p89C3 1u 1v 5x 2BmBC0
2x 3mBC0 8v 8x 2Bv 5x 2Cv 1m1CCB 1m1C47 1m1CCC 1v 2m1CCC 1m1B55 8m1CCC 1v 1m1CCD 1m1B1A
1m1CCE 1m1CCD 2m1CCC 1m1CCB 1m1CE2 2m1AF4 1m44 1m1CE5 2m1CE4 1m1AF1 2m1AF0 1m1CE6 1v 1m1CE4
1m1CE3 1m1C06 1m1CE3 1m1AFF 2m3E 1m1CE6 2m1CE3 1m3C 1m1AEB 1m1CE5 1m37 3m19AB 2m199A 1m1CF9
1m1CF1 2m1CEF 2m19B4 1m19A7 2m19A3 Dv 1m193B 22v 1m1B49 1m1D39 1m1B48 1m1CAE 1m1B43 1m1D3A
1m1B42 1m1B41 1m1B3E 3m1B3C 1m2C 1m1B0B 1m1B3C 1m25 1m1B0C 1m1B3B 1m1B3D 4m1B3C 1m1B3A
2m1B31 1m1C0A 2m1B2D 1m9C 2m1B2E 1m1D41 3m1B2C 1m1A07 40v 95u 5v 1t61t2BE 1m3A 2v 1m1DBF 1v
5Fu 9v 8m8 6v 2x 6m8 2x 8v 8m8 8v 8m8 6v 2x 6m8 2x 8v 1x 1m8 1x 1m8 1x 1m8 1x 1m8 8v 8m8 1v
1m1BC5 1v 1m1BC6 1v 1m1BC7 1v 1m1BC8 1v 1m1BAD 1v 1m1BAE 1v 1m1BAF 2x 1t1F00t3B9 1t1F01t3B9
1t1F02t3B9 1t1F03t3B9 1t1F04t3B9 1t1F05t3B9 1t1F06t3B9 1t1F07t3B9 1t1F00t3B9 1t1F01t3B9
1t1F02t3B9 1t1F03t3B9 1t1F04t3B9 1t1F05t3B9 1t1F06t3B9 1t1F07t3B9 1t1F20t3B9 1t1F21t3B9
1t1F22t3B9 1t1F23t3B9 1t1F24t3B9 1t1F25t3B9 1t1F26t3B9 1t1F27t3B9 1t1F20t3B9 1t1F21t3B9
1t1F22t3B9 1t1F23t3B9 1t1F24t3B9 1t1F25t3B9 1t1F26t3B9 1t1F27t3B9 1t1F60t3B9 1t1F61t3B9
1t1F62t3B9 1t1F63t3B9 1t1F64t3B9 1t1F65t3B9 1t1F66t3B9 1t1F67t3B9 1t1F60t3B9 1t1F61t3B9
1t1F62t3B9 1t1F63t3B9 1t1F64t3B9 1t1F65t3B9 1t1F66t3B9 1t1F67t3B9 2v 1t1F70t3B9 1t3B1t3B9
1t3ACt3B9 1x 1v 1t1FB6t3B9 2m8 1m4A 1m1C0F 1t3B1t3B9 1t20t313 1m1C05 1t20t313 1t20t342
1t20t308t342 1t1F74t3B9 1t3B7t3B9 1t3AEt3B9 1x 1v 1t1FC6t3B9 1m56 1m1C1C 1m56 1m1C1D
1t3B7t3B9 1t20t313t300 1t20t313t301 1t20t313t342 3v 1m1C43 2x 2v 2m8 1m64 1m1C2C 1x
1t20t314t300 1t20t314t301 1t20t314t342 3v 1m1C33 4v 2m8 1m70 1m1C1E 1m7 1t20t308t300
1t20t308t301 1m1F8F 2x 1t1F7Ct3B9 1t3C9t3B9 1t3CEt3B9 1x 1v 1t1FF6t3B9 1m80 1m1C2D 1m7E
1m1C2D 1t3C9t3B9 1t20t301 1t20t314 1x Bt20 1i 2v 2x 1v 1m1 5v 1t20t333 Cv 3x 1v 7x 1m200F
3v 1t2032t2032 1t2032t2032t2032 1v 1t2035t2035 1t2035t2035t2035 4v 1t21t21 1v 1t20t305 8v
1t3Ft3F 1t3Ft21 1t21t3F Dv 1t2032t2032t2032t2032 7v 1m203F 5i 5x 6i 1m2040 1m2008 2x 6m2040
1m204F 1p197 1m203F 2m2055 1m2011 Am2050 1m205F 1p187 1m204F 2m2065 1x 1m202F 1m202C 1m2023
1m201B 1m1E3B 1m202D 4m202B 1m202A 2m2028 3x 8v 1t72t73 19v Ex 21v Fx 1t61t2Ft63 1t61t2Ft73
1m209F 1tB0t63 1v 1t63t2Ft6F 1t63t2Ft75 1m1EAC 1v 1tB0t66 2m20A3 3t68 1m1FE8 2t69 2t6C 1v
1m20A7 1t6Et6F 2v 3m20A9 2t72 2v 1t73t6D 1t74t65t6C 1t74t6D 1v 1m20AA 1v 1m1D5D 1v 1m20AE
1v 1m20BF 1m2046 2m20CA 1v 2t65 1m20CB 1p1C 1m20C6 1m20C5 4m1B65 1m20D0 1v 1t66t61t78
1m1D7C 2t3B3 1m1D7F 1pD1 4v 2t64 1m20E2 2m20DF 6v 1t31t2044t37 1t31t2044t39 1t31t2044t31t30
1t31t2044t33 1t32t2044t33 1t31t2044t35 1t32t2044t35 1t33t2044t35 1t34t2044t35 1t31t2044t36
1t35t2044t36 1t31t2044t38 1t33t2044t38 1t35t2044t38 1t37t2044t38 1t31t2044 1m20F7 1t69t69
1t69t69t69 1t69t76 1m20EE 1t76t69 1t76t69t69 1t76t69t69t69 1t69t78 1m20F1 1t78t69
1t78t69t69 1m2100 2m210A 1m2102 1m2107 1t69t69 1t69t69t69 1t69t76 1m20FE 1t76t69 1t76t69t69
1t76t69t69t69 1t69t78 1m2101 1t78t69 1t78t69t69 1m2110 2m211A 1m2112 3v 1u 5v 1t30t2044t33
2v 4x 9Cv 1t222Bt222B 1t222Bt222Bt222B 1v 1t222Et222E 1t222Et222Et222E F8v 2pCDF FFv 16x Bv
15x 9m242F 1t31t30 1t31t31 1t31t32 1t31t33 1t31t34 1t31t35 1t31t36 1t31t37 1t31t38 1t31t39
1t32t30 1t28t31t29 1t28t32t29 1t28t33t29 1t28t34t29 1t28t35t29 1t28t36t29 1t28t37t29
1t28t38t29 1t28t39t29 1t28t31t30t29 1t28t31t31t29 1t28t31t32t29 1t28t31t33t29 1t28t31t34t29
1t28t31t35t29 1t28t31t36t29 1t28t31t37t29 1t28t31t38t29 1t28t31t39t29 1t28t32t30t29 14x
1t28t61t29 1t28t62t29 1t28t63t29 1t28t64t29 1t28t65t29 1t28t66t29 1t28t67t29 1t28t68t29
1t28t69t29 1t28t6At29 1t28t6Bt29 1t28t6Ct29 1t28t6Dt29 1t28t6Et29 1t28t6Ft29 1t28t70t29
1t28t71t29 1t28t72t29 1t28t73t29 1t28t74t29 1t28t75t29 1t28t76t29 1t28t77t29 1t28t78t29
1t28t79t29 1t28t7At29 1Am2455 1Am246F 1m24BA 521v 1t222Bt222Bt222Bt222B 67v 1t3At3At3D
1t3Dt3D 1t3Dt3Dt3D 65v 1t2ADDt338 97v 2x 8Av 30p30 30v 1u 1v 1m29F7 1mEE6 1m29E7 2v 5u 1v
1m2A1C 1m29FD 1m2A1F 1m2A1E 1v 1u 2v 1u 6v 1m2C12 1m2C07 2m2A3F 63u 8v 3u 4v 1u 1v 5x 2Dv
1x 1v 5x 1v 2x 38v 7x 1mE 1v Ex 18v 9x 7v 1x 7v 1x 7v 1x 7v 1x 7v 1x 7v 1x 7v 1x 7v 1x 7Ev
22x 1Av 1x 4v 1p3D2E 53v 1p70AC Cx 1p1F00 1p1F27 1p1F34 1p1F3C 1p1F55 1p1F80 1p1F86 1p1F99
1p1FB2 1p2236 1p225B 1p2260 1p2276 1p2289 1p229D 1p22D1 1p22E5 1p22EF 1p2389 1p23E6 1p2401
1p2405 1p2422 1p242A 1p2444 1p2450 1p2468 1p249B 1p24AC 1p24C6 1p27B9 1p2800 1p29CB 1p29E1
1p29E8 1p29F2 1p2A03 1p2A4E 1p2C2A 1p2C59 1p2CD0 1p2CE6 1p2CF8 1p2D0D 1p2D42 1p2D44 1p2EAD
1p2EB6 1p2EC1 1p2ECD 1p2F40 1p2F47 1p2F4B 1p2FBF 1p2FC8 1p2FD4 1p2FDB 1p3017 1p3027 1p3038
1p3087 1p32CB 1p32F8 1p330C 1p35EF 1p35F3 1p3645 1p3654 1p3660 1p3674 1p369A 1p369E 1p37A8
1p37BF 1p37DE 1p3BD5 1p3C16 1p3C2C 1p3C65 1p3C7C 1p3C84 1p3C8A 1p3CBD 1p3CC1 1p3CE0 1p4116
1p42D4 1p42DF 1p42E3 1p42E6 1p42ED 1p42FE 1p42FF 1p434F 1p4426 1p442A 1p457C 1p4585 1p45B6
1p45BC 1p45C4 1p45CB 1p4625 1p462B 1p470E 1p4714 1p4744 1p4754 1p4782 1p486E 1p4874 1p4884
1p49CA 1p4A47 1p4A4C 1p4B01 1p4B57 1p4B84 1p4CFD 1p4D81 1p4FBE 1p4FD8 1p5010 1p5042 1p5085
1p508F 1p5094 1p50B4 1p50FF 1p5108 1p5261 1p5267 1p526F 1p5277 1p5286 1p5294 1p5297 1p52E5
1p52E8 1p52ED 1p56C1 1p56DE 1p58B2 1p58BD 1p58D3 1p59ED 1p59F9 1p5A3F 1p5A6C 1p5CA2 1p5CB0
1p5CBE 1p5CE0 1p5D04 1p5DCA 1p5DD5 1p5E17 1p5F0E 1p5F2C 1p5FFC 1p6010 1p6014 1p60EF 1p61A6
1p6222 1p6227 1p622B 1p65D0 1p65D8 1p6673 1p670C 1p670E 1p673C 1p67A4 1p67B0 1p67B3 1p67B9
1p681A 1p683B 1p6840 1p684D 1p68F3 1p6925 1p6928 1p69DE 1p69E0 1p69F2 1p6AED 1p6B1C 1p6B22
1p6B67 1p6B70 1p6B72 1p6B7B 1p6B98 1p6D22 1p6EB1 1p6EBA 1p6EDF 1p6EF4 1p6EFB 1p6F04 1p6F07
1p6F2E 1p6F31 1p6F41 1p6F45 1p6F51 1p6F6B 1p6F79 1p6F80 1p6FBA 1p6FC8 1p6FCB 2Ax 1m2FE0 1v
1m2FD4 33v 1m24 1v 1p2309 2p230B 5v 1x 56v 2x 2v 1t20t3099 1t20t309A 2v 1t3088t308A 5Fv
1t30B3t30C8 5x 2Bv 1x 2m2031 1m1F89 1m2032 2m1F89 3m2034 6m1F8A 1m2026 3m203B 1m2023 Am203C
15m1FEE 1i 2m2051 2m1FA0 1m1F9D 1m1F9C 1m1F98 1m1F95 1m1F94 1m2052 1m1F92 1m1F91 2m2054
1m2053 2m2052 1m204F 1m204E 5m204D 1m204B 1m2048 1m203F 1m2039 1m2035 2m1F91 3m202D 2m2003
1m2001 2m1FF9 1m1FF8 1m1FEF 1m1FED 1x 2v 1p1C6E 1p1CF9 1p1C75 1p2546 1p1C74 1p1C96 1p1C73
1p4399 1p1CBF 1p1C7E 1p1C65 1p278C 1p2592 1p1D1B 46v Ax 10v 1t28t1100t29 1t28t1102t29
1t28t1103t29 1t28t1105t29 1t28t1106t29 1t28t1107t29 1t28t1109t29 1t28t110Bt29 1t28t110Ct29
1t28t110Et29 1t28t110Ft29 1t28t1110t29 1t28t1111t29 1t28t1112t29 1t28tAC00t29 1t28tB098t29
1t28tB2E4t29 1t28tB77Ct29 1t28tB9C8t29 1t28tBC14t29 1t28tC0ACt29 1t28tC544t29 1t28tC790t29
1t28tCC28t29 1t28tCE74t29 1t28tD0C0t29 1t28tD30Ct29 1t28tD558t29 1t28tC8FCt29
1t28tC624tC804t29 1t28tC624tD6C4t29 1x 1t28t4E00t29 1t28t4E8Ct29 1t28t4E09t29 1t28t56DBt29
1t28t4E94t29 1t28t516Dt29 1t28t4E03t29 1t28t516Bt29 1t28t4E5Dt29 1t28t5341t29 1t28t6708t29
1t28t706Bt29 1t28t6C34t29 1t28t6728t29 1t28t91D1t29 1t28t571Ft29 1t28t65E5t29 1t28t682At29
1t28t6709t29 1t28t793Et29 1t28t540Dt29 1t28t7279t29 1t28t8CA1t29 1t28t795Dt29 1t28t52B4t29
1t28t4EE3t29 1t28t547Ct29 1t28t5B66t29 1t28t76E3t29 1t28t4F01t29 1t28t8CC7t29 1t28t5354t29
1t28t796Dt29 1t28t4F11t29 1t28t81EAt29 1t28t81F3t29 1p230B 1p2C37 1p3341 1p4948 8v
1t70t74t65 1t32t31 1t32t32 1t32t33 1t32t34 1t32t35 1t32t36 1t32t37 1t32t38 1t32t39 1t33t30
1t33t31 1t33t32 1t33t33 1t33t34 1t33t35 1m2160 2m215F 3m215E 1m215D 2m215C 5m215B 1p7992
1p7E29 1p8074 1p850B 1p8756 1p89A1 1p8E38 1p92CF 1p951A 1p99B1 1p9BFC 1p9E47 1pA092 1pA2DD
1tCC38tACE0 1tC8FCtC758 1p9432 1v 1p1B80 1p1C0B 1p1B87 1p2458 1p1C10 1p1EE8 1p1B7D 1p1EE4
1p1BD5 1p20B8 1p347E 1p3DE0 1p39A8 1p349B 1p5F43 1p2490 1p3355 1p3599 1p3477 1p46AB 1p2179
1p3FE4 1p5A0B 1p46C6 1p201C 1p473F 1p429D 1p26D8 1p5DCD 1p1E8D 1p20D2 1p3A49 1p6565 1p1C70
1p1EF7 1p38C0 1p1B66 1p1B88 1p1B65 1p2B3F 1p214B 1p2092 1p28ED 1p28BB 1p4437 1p1C54 1p5A19
1p20A5 1p266C 1t33t36 1t33t37 1t33t38 1t33t39 1t34t30 1t34t31 1t34t32 1t34t33 1t34t34
1t34t35 1t34t36 1t34t37 1t34t38 1t34t39 1t35t30 1t31t6708 1t32t6708 1t33t6708 1t34t6708
1t35t6708 1t36t6708 1t37t6708 1t38t6708 1t39t6708 1t31t30t6708 1t31t31t6708 1t31t32t6708
1t68t67 1t65t72t67 1t65t76 1t6Ct74t64 1m22E 1m22D 1m22C 1m22B 2m22A 1m229 1m228 1m227 1m226
1m225 1m224 1m223 1m222 1m221 1m220 1m21F 1m21D 1m21C 1m21B 6m21A 1m218 1m216 1m214 1m212
5m210 1m20F 1m20E 6m20D 4m20C 1t4EE4t548C 1t30A2t30D1t30FCt30C8 1t30A2t30EBt30D5t30A1
1t30A2t30F3t30DAt30A2 1t30A2t30FCt30EB 1t30A4t30CBt30F3t30B0 1t30A4t30F3t30C1
1t30A6t30A9t30F3 1t30A8t30B9t30AFt30FCt30C9 1t30A8t30FCt30ABt30FC 1t30AAt30F3t30B9
1t30AAt30FCt30E0 1t30ABt30A4t30EA 1t30ABt30E9t30C3t30C8 1t30ABt30EDt30EAt30FC
1t30ACt30EDt30F3 1t30ACt30F3t30DE 1t30AEt30AC 1t30AEt30CBt30FC 1t30ADt30E5t30EAt30FC
1t30AEt30EBt30C0t30FC 1t30ADt30ED 1t30ADt30EDt30B0t30E9t30E0
1t30ADt30EDt30E1t30FCt30C8t30EB 1t30ADt30EDt30EFt30C3t30C8 1t30B0t30E9t30E0
1t30B0t30E9t30E0t30C8t30F3 1t30AFt30EBt30BCt30A4t30ED 1t30AFt30EDt30FCt30CD
1t30B1t30FCt30B9 1t30B3t30EBt30CA 1t30B3t30FCt30DD 1t30B5t30A4t30AFt30EB
1t30B5t30F3t30C1t30FCt30E0 1t30B7t30EAt30F3t30B0 1t30BBt30F3t30C1 1t30BBt30F3t30C8
1t30C0t30FCt30B9 1t30C7t30B7 1t30C9t30EB 1t30C8t30F3 1t30CAt30CE 1t30CEt30C3t30C8
1t30CFt30A4t30C4 1t30D1t30FCt30BBt30F3t30C8 1t30D1t30FCt30C4 1t30D0t30FCt30ECt30EB
1t30D4t30A2t30B9t30C8t30EB 1t30D4t30AFt30EB 1t30D4t30B3 1t30D3t30EB
1t30D5t30A1t30E9t30C3t30C9 1t30D5t30A3t30FCt30C8 1t30D6t30C3t30B7t30A7t30EB
1t30D5t30E9t30F3 1t30D8t30AFt30BFt30FCt30EB 1t30DAt30BD 1t30DAt30CBt30D2 1t30D8t30EBt30C4
1t30DAt30F3t30B9 1t30DAt30FCt30B8 1t30D9t30FCt30BF 1t30DDt30A4t30F3t30C8 1t30DCt30EBt30C8
1t30DBt30F3 1t30DDt30F3t30C9 1t30DBt30FCt30EB 1t30DBt30FCt30F3 1t30DEt30A4t30AFt30ED
1t30DEt30A4t30EB 1t30DEt30C3t30CF 1t30DEt30EBt30AF 1t30DEt30F3t30B7t30E7t30F3
1t30DFt30AFt30EDt30F3 1t30DFt30EA 1t30DFt30EAt30D0t30FCt30EB 1t30E1t30AC
1t30E1t30ACt30C8t30F3 1t30E1t30FCt30C8t30EB 1t30E4t30FCt30C9 1t30E4t30FCt30EB
1t30E6t30A2t30F3 1t30EAt30C3t30C8t30EB 1t30EAt30E9 1t30EBt30D4t30FC 1t30EBt30FCt30D6t30EB
1t30ECt30E0 1t30ECt30F3t30C8t30B2t30F3 1t30EFt30C3t30C8 1t30t70B9 1t31t70B9 1t32t70B9
1t33t70B9 1t34t70B9 1t35t70B9 1t36t70B9 1t37t70B9 1t38t70B9 1t39t70B9 1t31t30t70B9
1t31t31t70B9 1t31t32t70B9 1t31t33t70B9 1t31t34t70B9 1t31t35t70B9 1t31t36t70B9 1t31t37t70B9
1t31t38t70B9 1t31t39t70B9 1t32t30t70B9 1t32t31t70B9 1t32t32t70B9 1t32t33t70B9 1t32t34t70B9
1t68t70t61 1t64t61 1t61t75 1t62t61t72 1t6Ft76 1t70t63 1t64t6D 1t64t6Dt32 1t64t6Dt33 1t69t75
1t5E73t6210 1t662Dt548C 1t5927t6B63 1t660Et6CBB 1t682At5F0Ft4F1At793E 1t70t61 1t6Et61
1t3BCt61 1t6Dt61 1t6Bt61 1t6Bt62 1t6Dt62 1t67t62 1t63t61t6C 1t6Bt63t61t6C 1t70t66 1t6Et66
1t3BCt66 1t3BCt67 1t6Dt67 1t6Bt67 1t68t7A 1t6Bt68t7A 1t6Dt68t7A 1t67t68t7A 1t74t68t7A
1t3BCt6C 1t6Dt6C 1t64t6C 1t6Bt6C 1t66t6D 1t6Et6D 1t3BCt6D 1t6Dt6D 1t63t6D 1t6Bt6D
1t6Dt6Dt32 1t63t6Dt32 1t6Dt32 1t6Bt6Dt32 1t6Dt6Dt33 1t63t6Dt33 1t6Dt33 1t6Bt6Dt33
1t6Dt2215t73 1t6Dt2215t73t32 1t70t61 1t6Bt70t61 1t6Dt70t61 1t67t70t61 1t72t61t64
1t72t61t64t2215t73 1t72t61t64t2215t73t32 1t70t73 1t6Et73 1t3BCt73 1t6Dt73 1t70t76 1t6Et76
1t3BCt76 1t6Dt76 1t6Bt76 1t6Dt76 1t70t77 1t6Et77 1t3BCt77 1t6Dt77 1t6Bt77 1t6Dt77 1t6Bt3C9
1t6Dt3C9 1x 1t62t71 1t63t63 1t63t64 1t63t2215t6Bt67 1x 1t64t62 1t67t79 1t68t61 1t68t70
1t69t6E 1t6Bt6B 1t6Bt6D 1t6Bt74 1t6Ct6D 1t6Ct6E 1t6Ct6Ft67 1t6Ct78 1t6Dt62 1t6Dt69t6C
1t6Dt6Ft6C 1t70t68 1x 1t70t70t6D 1t70t72 1t73t72 1t73t76 1t77t62 1t76t2215t6D 1t61t2215t6D
1t31t65E5 1t32t65E5 1t33t65E5 1t34t65E5 1t35t65E5 1t36t65E5 1t37t65E5 1t38t65E5 1t39t65E5
1t31t30t65E5 1t31t31t65E5 1t31t32t65E5 1t31t33t65E5 1t31t34t65E5 1t31t35t65E5 1t31t36t65E5
1t31t37t65E5 1t31t38t65E5 1t31t39t65E5 1t32t30t65E5 1t32t31t65E5 1t32t32t65E5 1t32t33t65E5
1t32t34t65E5 1t32t35t65E5 1t32t36t65E5 1t32t37t65E5 1t32t38t65E5 1t32t39t65E5 1t33t30t65E5
1t33t31t65E5 1t67t61t6C 708Dv 3x 37v 9x 15Cv 14x 2Du 13v 1Bu 1v 1mA252 1mA251 5Av 8x 22v Du
3v 3Du 1v 1m1 8v 3u 1v 1m8A04 9u 4v 1u 1v 1mA528 2v 3u 3v 13u 1v 1mA544 1mA54F 1mA54B
1mA541 1mA544 1v 1mA512 1mA52A 1mA515 1p3A0 Fu 1v 1m30 1mA543 1m8A38 3u 1v 1mA567 Fu 1v
1mA641 14x 1mA77E 1mA78F 1mA78D 1mA783 1u 2v 1mA6D1 1mA6A6 33v 3x Av 6x 38v 8x 46v 8x Cv 6x
74v Bx 1Ev 3x 4Ev 1x Bv 4x 21v 1x 37v 9x Ev 2x Av 2x 67v 18x 1Cv Ax 6v 2x 6v 2x 6v 9x 7v 1x
7v 1x 2Cv 1m435 1m26 1mA8F3 1mD 9v 1mA8DC 2v 4x 50m97D0 2Ev 2x Av 6x 2BA4v Cx 17v 4x 31v
2104x 1m6CB8 1m920D 1m6A38 1m6C3B 1m8A33 1mAAD3 1mA521 2t9F9C 1m9FB8 1m6739 1mA384 1m9FC4
1m9717 1m82A5 1m798A 1m72D1 1m7157 1m701A 1m6884 1m8F12 1m8BFA 1m883D 1m8539 1m74DB 1m67AF
1m5F29 1mAA99 1mA5A7 1m8E19 1m8703 1m72F2 1m5B02 1m9BD1 1m8937 1m7356 1m6FC0 1m965C 1m774E
1m7108 1m9A5E 1m9212 1m8BC0 1m862F 1m685E 1mA9A7 1mA777 1mA651 1m946C 1m8E5E 1m8722 1m824C
1m7933 1m732F 1m72DA 1m6B48 1m6206 1m5DCA 1m5B40 1m80AF 1m7FBD 1m7B9D 1m7575 1m663B 1m5AC1
1m6E6B 1mA063 1m9A3F 1m7CE4 1m78C7 1m86E4 1m807D 1m6C86 1m6252 1mA072 1m9CE9 1m8F39 1m8B73
1m8A3F 1m7C20 1m7B19 1m6306 1mA680 1m78C8 1mA778 1mA789 1m7F3A 1m7B99 1m7567 1m62E4 1m6DDA
1m968C 1m8F5A 1m6E5F 1mAB25 1m9D78 1m994E 1m85DA 1m83F2 1mA64C 1m8069 1mA9A6 1m99BD 1mAB5A
1m8C9C 1m93F1 1m7C48 1mA5A8 1mA10E 1m826C 1m7525 1m6EC5 1m8DB6 1m69C1 1m8CEA 1m9675 1m768F
1m95D5 1m8411 1mAAC9 1mA80F 1mA7B0 1m90F9 1m7C94 1m770D 1m6EAB 1m67AF 1mA68A 1mA53E 1mA00E
1m9A96 1m93BE 1m8986 1m805B 1m63D9 1m5F1D 1m5AF1 1m5ABB 1mA6EF 1m92C5 1m8E15 1m6A2B 1m9B1A
1m97FF 1m9790 1m94F7 1m8A6F 1m884A 1m850B 1m7FCB 1m7BA2 1m7928 1m6A72 1m74AB 1m6977 1m6651
1mA785 1mA6FA 1mA4E1 1m88D7 1m70DE 1m6EF7 1m9AD9 1m99AE 1m9629 1m8DF7 1m7D68 1m8632 1mAAC4
1mA2B0 1m9DC3 1m9BF1 1m9990 1m85FB 1m8545 1m7A15 1m796A 1m677D 1m62BC 1m626B 1m619C 1mAA2A
1m8008 1m6803 1m6300 1m98D8 1mAB34 1mA8E1 1m9DCE 1m9D7E 1m9425 1m8FBD 1m87F2 1m837F 1m74C6
1m6947 1m5A37 1m933D 1m6398 1mA73E 1m924D 1m91D6 1m8C89 1m8B2F 1m85C3 1m8474 1m8163 1m7CBF
1m6172 1mA864 1m97A4 1m635B 1mA9A9 1m9CBC 1m8BEC 1m6AAD 1m9A4D 1m9895 1m91C3 1m8654 1m6356
1mA7B4 1mA5CF 1m9D7A 1m93CD 1m9293 1m913A 1m8CFE 1m85DE 1m8403 1m7A6D 1m7118 1m7107 1m681D
1m6308 1mA6AC 1m8B32 1mA5D0 1m881E 1m8557 1m73F6 1m634E 1m5D9B 1m5B54 1m925D 1m8C2A 1m780E
1m7F2C 1m7ED8 1m7D67 1m873A 1m8962 1m6EA4 1mAB3D 1m76C8 1mA7C5 1mA7F9 1m9B5B 1m972F 1m7D2D
1m9E7F 1m8CE7 1m9352 1m6ACC 1m71BC 1m63BC 1m707F 1m9B38 1mA8CC 1mA44D 2v 1mA1B6 1v 1m939E
2v 1mA837 1m86EC 1m834D 1m80DC 1m80BB 1m80B5 1m808C 1m62C6 1m7D5F 1m7A61 1v 1m740E 1v
1m6F2A 2v 1m69ED 1m6929 3v 1m613B 1m612F 1m6104 1m5C79 1m6950 1m6378 1mAA82 1mA94A 1mA8E5
1mA76A 1mA750 1mA6E4 1mA499 1mA431 1mA3D0 1mA1F9 1mA192 1m9DD7 1m9DCE 1m99A9 1m98D6 1m98B1
1m984E 1m94F2 1m9460 1m93B2 1m91BF 1m8CCE 1m8C2C 1m8B25 1m88DA 1m881E 1m8628 1m81BA 1m810E
1m8104 1m8106 1m80FF 1m80FA 1m80F4 2m80C5 1m8014 1m7FD4 1m7E96 1m7C63 1m7C4F 1m7C18 1m7AE8
1m7A56 1m786F 2t8279 1m7608 1m7150 1m70CB 1m6F61 1m6F2A 1m6D91 1m6D5D 1m6AB0 1m6A2F 1m6385
1m626A 1m622F 1m99F6 1p14882 1m7855 2x 1mAC4A 1mA8BC 1mA90A 1mAAF3 1mA92F 1mA8F5 1mA7AF
1mA77D 1mA4DB 1mA524 1mA4E1 1mA499 1mA222 1mA1CA 1mA13A 1mA12B 1mA01E 1m9F59 1m9BB0 1m9BAA
1m9B1B 1m9AD8 1m99AE 1m9939 1m9980 1m98FB 1m992A 1m9899 1m9858 1m96C9 1m9672 1m963D 1m953A
1m941D 1m937B 1m9378 1m933E 1m8F1C 1m8EDC 1m8D56 1m8BBD 1m8BCE 1m8B78 1m8A7D 1m892E 1m82F6
1m8869 1m87F0 1m8776 1m8630 1m859C 1m8568 1m8487 1m8486 1m83DC 1m83CC 1m83B4 1m835F 1m836A
1m81DF 1m7FFB 1m7EED 1m7E33 1m7D54 1m7CBC 1m7B73 1m7AAD 1m7761 1m76C5 1m733C 1m7175 1m7131
1m7122 1m6FFA 1m6FC2 1m6FF0 1m6FBB 1m6FBF 1m6FD1 1m6F86 1m6F36 1m6DB9 1m6B8A 1m6A51 1m692B
1m684F 1m644A 1m63E4 1m6372 1m62EE 1m62CB 1m62C0 1m6291 1m5FBB 1m5B32 1p12D7B 1p12D74
1p13904 1mBF35 1mBABB 1mBA9B 1p15774 1p161FA 1p183FC 1m5B95 1m5B4B 26x 1t66t66 1t66t69
1t66t6C 1t66t66t69 1t66t66t6C 2t73t74 Cx 1t574t576 1t574t565 1t574t56B 1t57Et576 1t574t56D
5x 1t5D9t5B4 1v 1t5F2t5B7 1mF53E 1mF551 2mF54F 3mF549 1mF53F 1mF53E 1mFAFE 1t5E9t5C1
1t5E9t5C2 1t5E9t5BCt5C1 1t5E9t5BCt5C2 1t5D0t5B7 1t5D0t5B8 1t5D0t5BC 1t5D1t5BC 1t5D2t5BC
1t5D3t5BC 1t5D4t5BC 1t5D5t5BC 1t5D6t5BC 1x 1t5D8t5BC 1t5D9t5BC 1t5DAt5BC 1t5DBt5BC
1t5DCt5BC 1x 1t5DEt5BC 1x 1t5E0t5BC 1t5E1t5BC 1x 1t5E3t5BC 1t5E4t5BC 1x 1t5E6t5BC 1t5E7t5BC
1t5E8t5BC 1t5E9t5BC 1t5EAt5BC 1t5D5t5B9 1t5D1t5BF 1t5DBt5BF 1t5E4t5BF 1t5D0t5DC 2t671 4t67B
4t67E 4t680 4t67A 4t67F 4t679 4t6A4 4t6A6 4t684 4t683 4t686 4t687 2t68D 2t68C 2t68E 2t688
2t698 2t691 4t6A9 4t6AF 4t6B3 4t6B1 2t6BA 4t6BB 2t6C0 4t6C1 4t6BE 2t6D2 2t6D3 21v 4t6AD
2t6C7 2t6C6 2t6C8 1t6C7t674 2t6CB 2t6C5 2t6C9 4t6D0 2t649 2t626t627 2t626t6D5 2t626t648
2t626t6C7 2t626t6C6 2t626t6C8 3t626t6D0 3t626t649 4t6CC 1t626t62C 1t626t62D 1t626t645
1t626t649 1t626t64A 1t628t62C 1t628t62D 1t628t62E 1t628t645 1t628t649 1t628t64A 1t62At62C
1t62At62D 1t62At62E 1t62At645 1t62At649 1t62At64A 1t62Bt62C 1t62Bt645 1t62Bt649 1t62Bt64A
1t62Ct62D 1t62Ct645 1t62Dt62C 1t62Dt645 1t62Et62C 1t62Et62D 1t62Et645 1t633t62C 1t633t62D
1t633t62E 1t633t645 1t635t62D 1t635t645 1t636t62C 1t636t62D 1t636t62E 1t636t645 1t637t62D
1t637t645 1t638t645 1t639t62C 1t639t645 1t63At62C 1t63At645 1t641t62C 1t641t62D 1t641t62E
1t641t645 1t641t649 1t641t64A 1t642t62D 1t642t645 1t642t649 1t642t64A 1t643t627 1t643t62C
1t643t62D 1t643t62E 1t643t644 1t643t645 1t643t649 1t643t64A 1t644t62C 1t644t62D 1t644t62E
1t644t645 1t644t649 1t644t64A 1t645t62C 1t645t62D 1t645t62E 1t645t645 1t645t649 1t645t64A
1t646t62C 1t646t62D 1t646t62E 1t646t645 1t646t649 1t646t64A 1t647t62C 1t647t645 1t647t649
1t647t64A 1t64At62C 1t64At62D 1t64At62E 1t64At645 1t64At649 1t64At64A 1t630t670 1t631t670
1t649t670 1t20t64Ct651 1t20t64Dt651 1t20t64Et651 1t20t64Ft651 1t20t650t651 1t20t651t670
1t626t631 1t626t632 1t626t645 1t626t646 1t626t649 1t626t64A 1t628t631 1t628t632 1t628t645
1t628t646 1t628t649 1t628t64A 1t62At631 1t62At632 1t62At645 1t62At646 1t62At649 1t62At64A
1t62Bt631 1t62Bt632 1t62Bt645 1t62Bt646 1t62Bt649 1t62Bt64A 1t641t649 1t641t64A 1t642t649
1t642t64A 1t643t627 1t643t644 1t643t645 1t643t649 1t643t64A 1t644t645 1t644t649 1t644t64A
1t645t627 1t645t645 1t646t631 1t646t632 1t646t645 1t646t646 1t646t649 1t646t64A 1t649t670
1t64At631 1t64At632 1t64At645 1t64At646 1t64At649 1t64At64A 1t626t62C 1t626t62D 1t626t62E
1t626t645 1t626t647 1t628t62C 1t628t62D 1t628t62E 1t628t645 1t628t647 1t62At62C 1t62At62D
1t62At62E 1t62At645 1t62At647 1t62Bt645 1t62Ct62D 1t62Ct645 1t62Dt62C 1t62Dt645 1t62Et62C
1t62Et645 1t633t62C 1t633t62D 1t633t62E 1t633t645 1t635t62D 1t635t62E 1t635t645 1t636t62C
1t636t62D 1t636t62E 1t636t645 1t637t62D 1t638t645 1t639t62C 1t639t645 1t63At62C 1t63At645
1t641t62C 1t641t62D 1t641t62E 1t641t645 1t642t62D 1t642t645 1t643t62C 1t643t62D 1t643t62E
1t643t644 1t643t645 1t644t62C 1t644t62D 1t644t62E 1t644t645 1t644t647 1t645t62C 1t645t62D
1t645t62E 1t645t645 1t646t62C 1t646t62D 1t646t62E 1t646t645 1t646t647 1t647t62C 1t647t645
1t647t670 1t64At62C 1t64At62D 1t64At62E 1t64At645 1t64At647 1t626t645 1t626t647 1t628t645
1t628t647 1t62At645 1t62At647 1t62Bt645 1t62Bt647 1t633t645 1t633t647 1t634t645 1t634t647
1t643t644 1t643t645 1t644t645 1t646t645 1t646t647 1t64At645 1t64At647 1t640t64Et651
1t640t64Ft651 1t640t650t651 1t637t649 1t637t64A 1t639t649 1t639t64A 1t63At649 1t63At64A
1t633t649 1t633t64A 1t634t649 1t634t64A 1t62Dt649 1t62Dt64A 1t62Ct649 1t62Ct64A 1t62Et649
1t62Et64A 1t635t649 1t635t64A 1t636t649 1t636t64A 1t634t62C 1t634t62D 1t634t62E 1t634t645
1t634t631 1t633t631 1t635t631 1t636t631 1t637t649 1t637t64A 1t639t649 1t639t64A 1t63At649
1t63At64A 1t633t649 1t633t64A 1t634t649 1t634t64A 1t62Dt649 1t62Dt64A 1t62Ct649 1t62Ct64A
1t62Et649 1t62Et64A 1t635t649 1t635t64A 1t636t649 1t636t64A 1t634t62C 1t634t62D 1t634t62E
1t634t645 1t634t631 1t633t631 1t635t631 1t636t631 1t634t62C 1t634t62D 1t634t62E 1t634t645
1t633t647 1t634t647 1t637t645 1t633t62C 1t633t62D 1t633t62E 1t634t62C 1t634t62D 1t634t62E
1t637t645 1t638t645 2t627t64B 12v 1t62At62Ct645 2t62At62Dt62C 1t62At62Dt645 1t62At62Et645
1t62At645t62C 1t62At645t62D 1t62At645t62E 2t62Ct645t62D 1t62Dt645t64A 1t62Dt645t649
1t633t62Dt62C 1t633t62Ct62D 1t633t62Ct649 2t633t645t62D 1t633t645t62C 2t633t645t645
2t635t62Dt62D 1t635t645t645 2t634t62Dt645 1t634t62Ct64A 2t634t645t62E 2t634t645t645
1t636t62Dt649 2t636t62Et645 2t637t645t62D 1t637t645t645 1t637t645t64A 1t639t62Ct645
2t639t645t645 1t639t645t649 1t63At645t645 1t63At645t64A 1t63At645t649 2t641t62Et645
1t642t645t62D 1t642t645t645 1t644t62Dt645 1t644t62Dt64A 1t644t62Dt649 2t644t62Ct62C
2t644t62Et645 2t644t645t62D 1t645t62Dt62C 1t645t62Dt645 1t645t62Dt64A 1t645t62Ct62D
1t645t62Ct645 1t645t62Et62C 1t645t62Et645 2v 1t645t62Ct62E 1t647t645t62C 1t647t645t645
1t646t62Dt645 1t646t62Dt649 2t646t62Ct645 1t646t62Ct649 1t646t645t64A 1t646t645t649
2t64At645t645 1t628t62Et64A 1t62At62Ct64A 1t62At62Ct649 1t62At62Et64A 1t62At62Et649
1t62At645t64A 1t62At645t649 1t62Ct645t64A 1t62Ct62Dt649 1t62Ct645t649 1t633t62Et649
1t635t62Dt64A 1t634t62Dt64A 1t636t62Dt64A 1t644t62Ct64A 1t644t645t64A 1t64At62Dt64A
1t64At62Ct64A 1t64At645t64A 1t645t645t64A 1t642t645t64A 1t646t62Dt64A 1t642t645t62D
1t644t62Dt645 1t639t645t64A 1t643t645t64A 1t646t62Ct62D 1t645t62Et64A 1t644t62Ct645
1t643t645t645 1t644t62Ct645 1t646t62Ct62D 1t62Ct62Dt64A 1t62Dt62Ct64A 1t645t62Ct64A
1t641t645t64A 1t628t62Dt64A 1t643t645t645 1t639t62Ct645 1t635t645t645 1t633t62Et64A
1t646t62Ct64A 8v 20x 1t635t644t6D2 1t642t644t6D2 1t627t644t644t647 1t627t643t628t631
1t645t62Dt645t62F 1t635t644t639t645 1t631t633t648t644 1t639t644t64At647 1t648t633t644t645
1t635t644t649 1t635t644t649t20t627t644t644t647t20t639t644t64At647t20t648t633t644t645
1t62Ct644t20t62Ct644t627t644t647 1t631t6CCt627t644 3v 10i 1mFDE4 1mCE10 1x 2mFDD9 1mFDF4
1mFDD7 2mCE01 7x 10v 1x 1mDE1D 1mDE1F 2t5F 2mFE0D 1mFDBC 1mFDBB 2mCE25 2mCE2B 2mCE33 2mCE37
4mCE35 2v 1mFDEC 1mFDEB 4t20t305 3t5F 1mFE24 1mCE50 2x 1mFE19 1mFE1B 1mFE17 1mFE36 1mDE44
2mFE31 1mFDE0 1mFDDF 2mCE49 1mFE3C 1mFE3A 2mFE37 1mFE36 1mFE28 1mFE27 1mFE29 1x 1mFE0C
2mFE45 1mFE2B 4x 1t20t64B 1t640t64B 1t20t64C 1v 1t20t64D 1x 1t20t64E 1t640t64E 1t20t64F
1t640t64F 1t20t650 1t640t650 1t20t651 1t640t651 1t20t652 1t640t652 2mF85F 2mF860 2mF861
2mF862 2mF863 3t626 2t627 4t628 2t629 4t62A 4t62B 4t62C 4t62D 4t62E 2t62F 2t630 2t631 2t632
4t633 4t634 4t635 4t636 4t637 4t638 4t639 4t63A 4t641 4t642 4t643 4t644 4t645 4t646 4t647
2t648 2t649 4t64A 2t644t622 2t644t623 2t644t625 2t644t627 2x 1i 1x 20mFEE0 1AmFEC0 24mFEE0
2mD5DA 1mFF33 2mCF56 1mCF63 1mCE6A 1mCE74 1mCEC6 1mCEC5 1mCEC4 1mCEC3 1mCEC2 1mCE89 1mCE88
1mCE87 1mCEAC 1mCE74 1mCECF 1mCECE 1mCECD 1mCECC 2mCECB 1mCECA 1mCEC9 1mCEC8 1mCEC7 1mCEC6
1mCEC5 1mCEC4 1mCEC3 1mCEC2 1mCEC1 1mCEC0 1mCEBE 1mCEBD 1mCEBC 6mCEBB 1mCEB9 1mCEB7 1mCEB5
1mCEB3 5mCEB1 1mCEB0 1mCEAF 6mCEAE 1mCEAD 1mCEAA 2mCF05 1i 2mEEA1 1mEDF9 1mEEA2 2mEDF9
3mEEA4 6mEDFA 1mEE96 3mEEAB 1mEE93 AmEEAC 3x 6mEE61 2x 6mEE63 2x 6mEE65 2x 3mEE67 3x 2mFF3E
1mFF36 1t20t304 1mFF3E 1mFF40 1mDF3D 1x 1mDAE6 4mDE59 1mDA4D 1mDA23 11x Cv 1x 1Av 1x 13v 1x
2v 1x Fv 2x Ev 22x 7Bv 5x 3v 4x 2Dv 3x 58v 1x Dv 3x 1v 2Fx 2Ev 82x 1Dv 3x 31v Fx 1Cv 4x 24v
9x 1Ev 5x 2Bv 5x 1Ev 1x 25v 4x Ev 2Ax 28p28 76v 2x Av 6x 24p28 4x 24v 4x 28v 8x 34v Bx 1v
Bp27 1x Fp27 1x 7p27 1x 2p27 1x Bv 1x Fv 1x 7v 1x 2v 3x 34v Cx 137v 9x 16v Ax 8v 18x 1v
2m104B1 1m1069D 1m104EB 1m10532 1x 1m104E4 1m5C22 1m104E4 1m104E6 2m10535 1mE9FC 1m10536
1m10531 1m104E7 1m1052D 1m10530 1m10533 1m104F9 1m1066E 1m104FA 1m10530 1m10514 2m104EF
1m1052F 1pD768 1m600F 1m10530 1pD766 1m10512 1pD765 1m106AA 2m1052D 1m10734 1m1052C 1pD761
2m1052B 1m1052A 1m10503 1m10506 1m5C46 1m10507 1m10527 1mDB3F 1x 1m10523 2m10512 1m1051D
3m105F6 1pD751 1pD764 45x 6v 2x 1v 1x 2Cv 1x 2v 3x 1v 2x 17v 1x 48v 8x 9v 30x 13v 1x 2v 5x
21v 3x 1Bv 5x 1Bv 26x 38v 4x 14v 2x 32v 1x 2v 5x 8v 1x 3v 1x 1Dv 2x 3v 4x Av 7x 9v 7x 40v
20x 27v 4x Cv 9x 36v 3x 1Dv 2x 1Bv 5x 1Av 7x 4v Cx 7v 50x 49v 37x 33p40 Dx 33v 7x 2Ev 8x Av
6x 10v 16p20 3x 1Dv 8x 2v D0x 1Fv 1x 2Av 1x 3v 2x 2v 10x 6v 8x 9v 21x 2Ev 8x 2Av 16x 1Av
26x 1Cv 14x 17v 9x 4Ev 4x 24v 9x 3Ev 1x 5v Dx 19v 7x Av 6x 35v 1x 12v 8x 27v 9x 60v 1x 14v
Bx 12v 1x 2Fv 3Ex 7v 1x 1v 1x 4v 1x Fv 1x Bv 6x 3Bv 5x Av 6x 4v 1x 8v 2x 2v 2x 16v 1x 7v 1x
2v 1x 5v 1x Av 2x 2v 2x 3v 2x 1v 6x 1v 5x 7v 2x 7v 3x 5v Bx Av 1x 1v 2x 1v 1x 26v 1x Av 1x
1v 2x 1v 1x 4v 1x Av 1x 2v 8x 2v 1Dx 5Cv 1x 5v 1Ex 48v 8x Av A6x 36v 2x 26v 22x 45v Bx Av
6x Dv 13x 3Av 6x Av 6x 14v 1Cx 1Bv 2x Fv 4x 17v B9x 3Cv 64x 20p20 33v Cx 8v 2x 1v 2x 8v 1x
2v 1x 1Ev 1x 2v 2x Cv 9x Av 46x 8v 2x 2Ev 2x Bv 1Bx 48v 8x 53v Dx 49v 7x Av 56x 8v 58x 22v
Ex Av 6x 9v 1x 2Dv 1x Ev Ax 1Dv 3x 20v 2x 16v 1x Ev 49x 7v 1x 2v 1x 2Cv 3x 1v 1x 2v 1x 9v
8x Av 6x 6v 1x 2v 1x 25v 1x 2v 1x 6v 7x Av 6x 2Cv 4x Av F6x 19v 7x 11v 1x 29v 3x 1Dv 55x 1v
Fx 32v Dx 39Bv 66x 6Fv 1x 5v Bx C4v A4Cx 63v Dx 430v 10x 16v Ax F9Bv 5x 247v 1AB9x 3Av 6C6x
239v 7x 1Fv 1x Av 4x 51v 1x Av 6x 1Ev 2x 6v Ax 46v Ax Av 1x 7v 1x 15v 5x 13v 1B0x 3Av C6x
20p20 3Bv 5x 19p1B 2x 19v 2Cx 4Bv 4x 39v 7x 11v 40x 5v Bx 7v 9x 1CD6v 29x 20v 61x 73v 21FDx
4v 1x 7v 1x 2v 1x 123v Fx 1v 1Dx 3v 2x 1v Ex 4v 8x 18Cv 904x 6Bv 5x Dv 3x 9v 7x Av 2x 4v 4i
F5Cx D6v 1Am1CC75 Am1CCC0 3v 3x 1B4v 6x 17v Fx 11v Fx 2Ev 2x 17v 9x 74v 3Cx F6v Ax 27v 2x
35v 1t1D157t1D165 1t1D158t1D165 1t1D158t1D165t1D16E 1t1D158t1D165t1D16F 1t1D158t1D165t1D170
1t1D158t1D165t1D171 1t1D158t1D165t1D172 Ev 8i 40v 1t1D1B9t1D165 1t1D1BAt1D165
1t1D1B9t1D165t1D16E 1t1D1BAt1D165t1D16E 1t1D1B9t1D165t1D16F 1t1D1BAt1D165t1D16F 2Av 15x 46v
7Ax 14v Cx 14v Cx 57v 9x 19v 87x 1Am1D39F 1Am1D3B9 1Am1D3D3 7m1D3ED 1x 12m1D3ED 1Am1D407
1Am1D421 1m1D43B 1x 2m1D43B 2x 1m1D43B 2x 2m1D43B 2x 4m1D43B 1x 8m1D43B 4m1D455 1x 1m1D455
1x 7m1D455 1x Bm1D455 1Am1D46F 1Am1D489 2m1D4A3 1x 4m1D4A3 2x 8m1D4A3 1x 7m1D4A3 1x
1Am1D4BD 2m1D4D7 1x 4m1D4D7 1x 5m1D4D7 1x 1m1D4D7 3x 7m1D4D7 1x 1Am1D4F1 1Am1D50B 1Am1D525
1Am1D53F 1Am1D559 1Am1D573 1Am1D58D 1Am1D5A7 1Am1D5C1 1Am1D5DB 1Am1D5F5 1Am1D60F 1Am1D629
1m1D573 1m1D46E 2x 11m1D2F7 1m1D301 7m1D2F7 1m1B4BA 11m1D311 2t3C3 6m1D311 1m1B4D9 1m1D327
1m1D325 1m1D324 1m1D319 1m1D31F 1m1D321 11m1D331 1m1D33B 7m1D331 1m1B4F4 11m1D34B 2t3C3
6m1D34B 1m1B513 1m1D361 1m1D35F 1m1D35E 1m1D353 1m1D359 1m1D35B 11m1D36B 1m1D375 7m1D36B
1m1B52E 11m1D385 2t3C3 6m1D385 1m1B54D 1m1D39B 1m1D399 1m1D398 1m1D38D 1m1D393 1m1D395
11m1D3A5 1m1D3AF 7m1D3A5 1m1B568 11m1D3BF 2t3C3 6m1D3BF 1m1B587 1m1D3D5 1m1D3D3 1m1D3D2
1m1D3C7 1m1D3CD 1m1D3CF 11m1D3DF 1m1D3E9 7m1D3DF 1m1B5A2 11m1D3F9 2t3C3 6m1D3F9 1m1B5C1
1m1D40F 1m1D40D 1m1D40C 1m1D401 1m1D407 1m1D409 2t3DD 2x Am1D79E Am1D7A8 Am1D7B2 Am1D7BC
Am1D7C6 28Cv Fx 5v 1x Fv 450x 1Fv 6x 6v D5x 7v 1x 11v 2x 7v 1x 2v 1x 5v 5x 9m1DC00 3m1DBFF
Bm1DBFE 1m1DBFC 2m1DBFB 1m139C1 1m1DB72 1m1DBF6 1m1DBF5 1m1DB65 1m1DBA0 1m1DB81 9m1DC21
2m1DC20 2m1DC1E 1m1DC1D 6m1DC1C 2m1DC1B 1m1DBD6 1m1DC12 1m1DC14 1m1DC0B 1m1DBC0 1m13A1B
1m1DBBC 21x 1v 70x 2Dv 3x Ev 2x Av 4x 2v 140x 1Fv 11x 3Av 5x 1v 1D0x 2Av D6x 2Bv 4x 1v C0x
1Fv 1x 16v 8x 2v E0x 7v 1x 4v 1x 2v 1x Fv 1x C5v 2x 10v 29x 22p22 2Av 4x Av 4x 2v 311x 44v
4Cx 3Dv C2x 2m1E7D9 1m1E7D6 1m1E7D4 1x 1m1E7BD 1m1E7D4 1m1E7DA 1m1E7D1 1m1E7BF 4m1E7C7
1m1E7DB 1m1E7D6 1m1E7CF 1m1E7DC 1m1E7D0 1m1E7E2 1m1E7E0 2m1E7EB 1m1E7E9 1m1E7E8 1m1E7E3
1m1E7E2 1m1E7E1 1m1E7AE 1m1E763 1m1E77D 1m1E7B0 1x 1m1E7F9 1m1E7F6 1x 1m1E7DD 2x 1m1E7FA 1x
1m1E7DF 4m1E7E7 1m1E7FB 1m1E7F6 1m1E7EF 1m1E7FC 1m1E7F0 1x 1m1E800 2m1E80B 1m1E809 1x
1m1E803 1x 1m1E801 6x 1m1E816 4x 1m1E81A 1x 1m1E7FF 1x 1m1E807 1x 1m1E807 1m1E81B 1m1E816
1x 1m1E81C 1m1E810 1x 1m1E820 2x 1m1E829 1x 1m1E823 1x 1m1E821 1x 1m1E7A3 1x 1m1E7F0 1x
1m1E839 1m1E836 1x 1m1E81D 2x 1m1E83A 1m1E831 1m1E81F 1m1E827 1x 2m1E827 1m1E83B 1m1E836
1m1E82F 1m1E83C 1m1E830 1x 1m1E840 2m1E84B 1m1E849 1x 1m1E843 1m1E842 1m1E841 1m1E80E 1x
1m1E7DD 1x 2m1E859 1m1E856 1m1E854 2m1E83D 1m1E854 1m1E85A 1m1E851 1m1E83F 1x 3m1E847
1m1E85B 1m1E856 1m1E84F 1m1E85C 1m1E850 1m1E862 1m1E860 2m1E86B 1m1E869 1m1E868 1m1E863
1m1E862 1m1E861 5x 1m1E879 1m1E876 1m1E874 1x 1m1E85D 1m1E874 1m1E87A 1m1E871 1m1E85F 1x
3m1E867 1m1E87B 1m1E876 1m1E86F 1m1E87C 1m1E870 1m1E882 1m1E880 2m1E88B 1m1E889 1m1E888
1m1E883 1m1E882 1m1E881 34x 2v 10Ex 2Cv 4x 64v Cx Fv 2x Fv 1x Fv 1x 25v Bx 1t30t2C 1t31t2C
1t32t2C 1t33t2C 1t34t2C 1t35t2C 1t36t2C 1t37t2C 1t38t2C 1t39t2C 5v 1t28t61t29 1t28t62t29
1t28t63t29 1t28t64t29 1t28t65t29 1t28t66t29 1t28t67t29 1t28t68t29 1t28t69t29 1t28t6At29
1t28t6Bt29 1t28t6Ct29 1t28t6Dt29 1t28t6Et29 1t28t6Ft29 1t28t70t29 1t28t71t29 1t28t72t29
1t28t73t29 1t28t74t29 1t28t75t29 1t28t76t29 1t28t77t29 1t28t78t29 1t28t79t29 1t28t7At29
1t3014t73t3015 1m1F0C8 1m1F0BA 1t63t64 1t77t7A 1v 1Am1F0CF 1t68t76 1t6Dt76 1t73t64 1t73t73
1t70t70t76 1t77t63 1Av 1t6Dt63 1t6Dt64 1t6Dt72 23v 1t64t6A 1Dv 38x 1Av 1t307Bt304B
1t30B3t30B3 1m1C14D Dx 1m18FC5 1m196BA 1m19E46 1m1C14C 1m1A388 1m198FB 1m16833 1m198EE
1m1A374 1m18BF9 1m180F9 1m18C82 1m19FCF 1m19291 1m1A091 1m18C6F 1m1A003 1m174DF 1m17D03
1m1657A 1m19934 1m19DEC 1m18312 1m18F92 1m18ED3 1m1A429 1m1A421 1m161E1 1m19446 1m1A400
1m19E3B 1m18F28 1m164C0 1m18FDE 1m178B1 1m177B9 1m19E2C 1m183B5 1m18B2D 1m18B2F 1m17D05
1m19FC7 1m19C84 1m160EE 4x 1t3014t672Ct3015 1t3014t4E09t3015 1t3014t4E8Ct3015
1t3014t5B89t3015 1t3014t70B9t3015 1t3014t6253t3015 1t3014t76D7t3015 1t3014t52DDt3015
1t3014t6557t3015 7x 1m192B9 1m19E62 Ex 6v 9Ax 3D9v 3x 11v 3x Dv 3x DAv 6x Cv 4x 1v Fx Cv 4x
38v 8x Av 6x 28v 8x 1Ev 2x Cv 4x 2v Ex 9v 27x 158v 8x Ev 2x Dv 3x Bv 3x 39v 1x 1v 4x 10v 2x
Cv 4x Av 7x 93v 1x 5Cv Am1FBC0 1v 405x A6E0v 20x 111Ev 2x 168Ev 2x 1D31v Fx 26Ev 9A2x
1m2A9C3 1m2A9C9 1m2A9C1 1mF6E1 1m2A8A4 1m2A857 1m2A84B 1m2A805 1m2A78E 1m2A770 1m2A723
1m2A73C 1m2C36E 1mF1D3 1m2A6C1 1m2A6BB 1m2A6AC 1m2A69A 1mF2F6 1m2C35A 1m2A6AD 1m2A688
1mF2CB 1m2A680 1m2A674 1m2A94D 1m2A66E 1m2A666 1m663D 1m2A628 1m2A61B 1m2C340 1m2A5E5
1m2A5DB 1m2A5B0 1m2A5AC 1m2C30F 1m2A55E 1m2A55D 1m2A543 1m2A52E 2m2A524 1m2A514 1m2A4E3
1m2A4DC 1m2A4D4 1m2A4BC 1m2A4B3 3t537F 1mEE08 1m287C5 1m2A46C 1m2A458 1mECD5 1m2A44E
1m2A449 1m2A435 1m2A39E 1m2A405 1m2A3F6 1m2A3D7 1m2A39E 1m2A34B 1m2A332 1m2A2F0 1m2A2E1
2t5584 1m2A2AE 1m2A29D 1m2A296 1m2A288 1m2A135 1m2A246 1m2A136 1m2A1FD 1m2A1DB 1m2A649
1m29F63 1m2A084 1m2A05F 1m2A047 1m2A0CA 1m2A024 1m2A026 1m29FAC 1mE375 1m29F68 1m29F64
1m29F56 1m29F43 1m29F3C 1m29EFD 1mE1B8 1mE177 1m29E76 1m29E48 1m29E3D 1m29E8D 1m29E00
1m2C179 1m2C16C 1m29D61 2t5B3E 1mDEA4 1m29CAA 1m29C96 1m29C88 1m29C7D 1mDD59 1m29C73
1m29C6D 1m29921 1m29C53 1m2C0F5 1m29C17 1m29C0A 1m29BB9 1m29BED 1mDA97 1m29B39 1mDA97
1m29B10 1m29B14 1m29B04 2m29AA0 1m2C054 1m29A87 1m29A5D 1m29A49 1m29A1E 1m2C026 1mD706
1m2C00E 1m299DB 1m299D9 1m299D7 1m299C4 1m54FD 1m29992 2t22331 1m27692 2t5F22 1m2BFCF
1mC5DF 1m96BE 1m29937 1m2992F 1m2BFB8 1m29902 1m298D0 1m298C7 1m298A6 1m2981F 1m2BF67
1m2BF86 1m2980F 1mD1D0 1m297DE 1m2975E 1m2975B 1m2975A 1m2975D 1m29730 1m2971D 1m296FA
1m29709 1m296FF 1m296D1 1m296BE 1m296BB 1m296A2 1m29698 1m29657 1m29604 1m295E2 1m29567
1mCDAC 1m2957C 1m295BE 1m29553 1m29539 1m294D9 1mCCCD 1m2949D 1m294FB 1m29518 1m2BE94
1m2945A 1m29446 1m29428 1m2944F 1m2BE5B 1m29379 1m2935D 1mC8C0 1m292E8 1m291D4 1m29284
1m2BDB5 1m2923E 1m2BDC8 1m2BDED 1m2A740 1m2A73E 1m291D4 1m29239 1m27829 1m2B4FE 1m291C1
1m291BE 1m291B9 1m2917D 1m29189 1mC51A 1m2BD95 1m290E5 1m2915B 1m2908F 1m2905D 1mC476
1m29056 1m290C6 1m28FD2 1m2BD4A 1m28FA6 1m28F46 1m28F00 1m28E43 1mC249 1m28E12 1m2BCD6
1m28DCE 1mC049 1m28D9D 1m2BCA4 1m28D81 1m28D55 2m28D3B 1mBE6A 1mDBED 1mBDFF 1m28CAC 1mBC3F
1m28C3D 1m28C30 1m28C97 1m28BE9 1m28BC2 1m28B8A 1m28BC1 1m28B9A 1m28B8C 1m28B80 1mBBE8
1m28BD3 1m28AD9 1m28A9B 1m2BBD7 1m28A40 1m28A45 1mBA3C 1m28B15 1m289A1 1mB9B2 1mB983
1m2894C 1m288DA 1m288F6 1m288FA 1m2BB80 1m288CD 1m2889B 1m288A2 1m2886D 1mF3F6 1m287D7
1mB6BA 1m28782 1mB574 1m286F8 1m286EC 1m286D2 1mB31B 1m286A4 1m28690 1mB1F1 1mB113 1m285AE
1m2859E 1m2BA7E 1m28586 2t3EB8 1m284E7 1m284D3 1m284BF 1m284AC 1m28468 1m2BA18 1m28410
1mACFF 1m283F8 1mACA5 1m283C8 1mD79A 1m2832A 1mA99A 1mA984 1mA8F9 1m2B942 1m2B937 1m2824C
1mA84E 1mA850 1mA82A 1mA811 2m28227 1m28228 1m281FE 1m2B910 1m281BF 1m2B905 1m2B8B6 1mA530
1m28100 1m280C3 1m28084 1m2B86E 1mA32C 1m27FFD 1mA2BA 1mA290 1m27FC7 1m27F6C 1m2B829
1m27F19 1m27F10 1m27F0C 1m9FE0 2t25AA7 1m27E71 1m2B75E 1m9DB6 1m27D9C 1m27D9A 1m2B73D
1m9CE5 1m27C94 1m2B6C7 1m27C80 1m27C86 1m27C6A 1m99E5 1m27C09 1m2B66C 1m27BA7 1m27B6D
1m27B2B 1m2B63D 1m974A 1m972C 1m2B61B 1m969C 1m279FC 1m9639 1m279E3 1m2797F 1m27975 1m94A1
1m9459 1m2791D 1m93D6 1m2790F 1mC621 1m2B5AC 1m278D0 1m27880 1m2B579 1m27847 1m29ED1 1m91E0
1m91D3 1mC5F6 1mC5EE 1m2778A 1m27788 1m269EF 1m2B523 1m276FE 1m27705 1m276F4 1m2A6DF
1m276E2 1m276E1 1m276D8 1m276B0 1m8E5B 1m276B3 1m2767C 1m27637 1m275EE 1m27679 1m275E0
1m275B7 1m27548 1m2764D 1m275D7 1m275D6 1m275C7 1m8D6E 1m8C3A 1m8CD1 1m2B47C 1m274B7
1m274B6 1m27494 1m85E1 1m27448 1m8A81 1m2B451 1m2B44E 1m89FF 1m88DF 1m2B447 1m27363 1m27358
1m2734E 1m2734D 1m2730E 1m27330 1m272AB 1m272D8 1m27242 1m27294 1m27252 1m27238 1m2B3E8
1m271DF 1m271C0 1m2B3C9 1m27163 1m27161 1m835E 1m270EF 1m270E9 1m2B393 1m270CF 1m2C50F
1m811D 1m8066 1m2B30F 1m2B307 1m26F2F 1m26EE3 1m26E47 1m26D7D 1m7D2B 1m26D29 1m26D14
1m26CBB 1m26C60 1m7AA9 1mF1D5 1m26C0F 1m26C1F 1m26BEC 1mF0FF 1m26B0A 1m26AA7 1m740E 1m73F4
1m2694E 1m268F2 1m268D3 1m72B7 1m268CB 1m267AF 2m26711 1m2676E 1m265F2 1m265D7 1m6DF3
1m26463 1m2B05A 1m26439 1m6C7A 1m2B00C 1m26330 1m29C42 1m262D2 1m68B1 1m67DD 1m2AF8A
1m2AF83 1m2621A 1m65F1 1m2AF4A 1m6567 2t980B 1m261D7 1m644B 1m26120 1m2AED0 1m260DB 1m2605E
1m26044 1m26009 1m2AE3A 1m5ED9 1m25EF8 1m25DCB 1m25D0F 1m2AD3F 1m2AD21 1m25CA8 1m5942
1m2AD19 1m590D 1m5805 1m5783 1m25B5A 1m2ACC0 1m25B1E 1m25B1A 1m25B14 1m25B0B 1m25B05
1m25AE1 1m541D 5E2x 134Bv 5x 212Av ACC86x F0i 2FE10x"

/-- The mapping of every character, in runs. -/
def mappings : Runs Mapping :=
  (Runs.ofText Mapping.ofWord mappingText).map fun (first, m) =>
    match m with
    | .paired _ => (first, .paired first)
    | m => (first, m)

/-- What a character stands for, when a name may hold it. -/
def mapped? (c : Char) : Option (List Char) :=
  match mappings.value .forbidden c with
  | .itself => some [c]
  | .forbidden => none
  | .nothing => some []
  | .paired first => some [if (c.toNat - first) % 2 = 0 then Char.ofNat (c.toNat + 1) else c]
  | .above n => some [Char.ofNat (c.toNat + n)]
  | .below n => some [Char.ofNat (c.toNat - n)]
  | .text cs => some cs

end TunnelRelay.Domain
