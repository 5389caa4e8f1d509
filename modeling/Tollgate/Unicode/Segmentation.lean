import Tollgate.Unicode.RangeTable

/-!
# Segmentation properties

The values of the three properties by which text is cut into grapheme clusters, words and sentences.
-/

namespace Tollgate.Unicode

/-- The values of the grapheme cluster break property. -/
def graphemeBreaks : List NamedRanges := [
  ⟨["cr"],
    "d0"⟩,
  ⟨["lf"],
    "a0"⟩,
  ⟨["control", "cn"],
    "09111h-2A1d0OL10RP40y-1021o6R1fPUX10Q7bUBdfADC13PG57FULovA3-3Q7PQ3"⟩,
  ⟨["extend", "ex"],
    "AoP3T86H8M110111110I2aQ1kg0F36252113D10uqx2aw1890o3181214L12x18K1n1vX1010474036a1t0w10102380" ++
    "90a1q021Z1041412230u130b1Z10441140k1m510w1011138072a1u0x1010c090I1030X1012521371b1t0w1021103" ++
    "21371b1s1Z1110238090a1t0I2040221080R2026c7C3028b6J21r01010X1d14115a1D190G33151121p142g3d0216" ++
    "0f0-l2St3s2t1u1A2116802a90N1210V31C10W32419062x6120w10161010276920Q1uR13Q1942G18c1A1325Y1011" ++
    "3014Y1721Y421c16406031G6-1Mg0D6A1+-22N40A3vKh5J31UOt319A11Q21Q803040p150X41qhd0G17pa10M12Q10" ++
    "232120E10D252121c080P10T1012215110K1180O702040QZj0BnfgfOb1zi0C70V44GU121153I1240F51zh3B24z91" ++
    "P23G2aR13x30W1eJ1021a2R132170z12E1417+10c1U18108320-22236020z4037l1Z111010c090e634D202510201" ++
    "24210e1V272210n0R202510201111L70236111r1V272011K301027F30102314D8811V70a340Q432140A19I152380" ++
    "9522O1c11Wc61510S2l261111w3530111610I213010xa1b1U1452n0FH506eIGbb32AO24x16YA10-13R20b1LFj1BT" ++
    "4N12m+g4358726u3U42xz1W14R180e0m41eQK161g261114E30A56Xb0z13yf3+71An6N36QV24ABDo-2A4P7"⟩,
  ⟨["l"],
    "AI4-2AAG1s"⟩,
  ⟨["lv"],
    "AAL10r0r0r0r0r0r0r0r0r0r0r0r0r0r0r0r0r0r0r0r0r0r0r0r0r0r0r0r0r0r0r0r0r0r0r0r0r0r0r0r0r0r0r0r" ++
    "0r0r0r0r0r0r0r0r0r0r0r0r0r0r0r0r0r0r0r0r0r0r0r0r0r0r0r0r0r0r0r0r0r0r0r0r0r0r0r0r0r0r0r0r0r0r" ++
    "0r0r0r0r0r0r0r0r0r0r0r0r0r0r0r0r0r0r0r0r0r0r0r0r0r0r0r0r0r0r0r0r0r0r0r0r0r0r0r0r0r0r0r0r0r0r" ++
    "0r0r0r0r0r0r0r0r0r0r0r0r0r0r0r0r0r0r0r0r0r0r0r0r0r0r0r0r0r0r0r0r0r0r0r0r0r0r0r0r0r0r0r0r0r0r" ++
    "0r0r0r0r0r0r0r0r0r0r0r0r0r0r0r0r0r0r0r0r0r0r0r0r0r0r0r0r0r0r0r0r0r0r0r0r0r0r0r0r0r0r0r0r0r0r" ++
    "0r0r0r0r0r0r0r0r0r0r0r0r0r0r0r0r0r0r0r0r0r0r0r0r0r0r0r0r0r0r0r0r0r0r0r0r0r0r0r0r0r0r0r0r0r0r" ++
    "0r0r0r0r0r0r0r0r0r0r0r0r0r0r0r0r0r0r0r0r0r0r0r0r0r0r0r0r0r0r0r0r0r0r0r0r0r0r0r0r0r0r0r0r0r0r" ++
    "0r0r0r0r0r0r0r0r0r0r0r0r0r0r0r0r0r0r0r0r0r0r0r0r0r0r0r0r0r0r0r0r0r0r0r0r0r0r0r0r0r0r0r0r0r0r" ++
    "0r0r0r0r0r0r0r0r0r0r0r0r0r0r0r0r0r0r0r0r0r0r0r0r0r0r0r0r0r0r0r0r0"⟩,
  ⟨["lvt"],
    "BAL1q1q1q1q1q1q1q1q1q1q1q1q1q1q1q1q1q1q1q1q1q1q1q1q1q1q1q1q1q1q1q1q1q1q1q1q1q1q1q1q1q1q1q1q1" ++
    "q1q1q1q1q1q1q1q1q1q1q1q1q1q1q1q1q1q1q1q1q1q1q1q1q1q1q1q1q1q1q1q1q1q1q1q1q1q1q1q1q1q1q1q1q1q1" ++
    "q1q1q1q1q1q1q1q1q1q1q1q1q1q1q1q1q1q1q1q1q1q1q1q1q1q1q1q1q1q1q1q1q1q1q1q1q1q1q1q1q1q1q1q1q1q1" ++
    "q1q1q1q1q1q1q1q1q1q1q1q1q1q1q1q1q1q1q1q1q1q1q1q1q1q1q1q1q1q1q1q1q1q1q1q1q1q1q1q1q1q1q1q1q1q1" ++
    "q1q1q1q1q1q1q1q1q1q1q1q1q1q1q1q1q1q1q1q1q1q1q1q1q1q1q1q1q1q1q1q1q1q1q1q1q1q1q1q1q1q1q1q1q1q1" ++
    "q1q1q1q1q1q1q1q1q1q1q1q1q1q1q1q1q1q1q1q1q1q1q1q1q1q1q1q1q1q1q1q1q1q1q1q1q1q1q1q1q1q1q1q1q1q1" ++
    "q1q1q1q1q1q1q1q1q1q1q1q1q1q1q1q1q1q1q1q1q1q1q1q1q1q1q1q1q1q1q1q1q1q1q1q1q1q1q1q1q1q1q1q1q1q1" ++
    "q1q1q1q1q1q1q1q1q1q1q1q1q1q1q1q1q1q1q1q1q1q1q1q1q1q1q1q1q1q1q1q1q1q1q1q1q1q1q1q1q1q1q1q1q1q1" ++
    "q1q1q1q1q1q1q1q1q1q1q1q1q1q1q1q1q1q1q1q1q1q1q1q1q1q1q1q1q1q1q1q1q"⟩,
  ⟨["prepend", "pp"],
    "AQ15X60R10Ac1Q20LD10OxA20f0U71Ng0NL1010Y70J25yl0xd0"⟩,
  ⟨["regionalindicator", "ri"],
    "GPy3p"⟩,
  ⟨["spacingmark", "sm"],
    "DI20X10228311S11x116121W10w12C20w128011V11y106121S30113212U12z13z11w102011O10e1x115212V11M21" ++
    "66j1-10-30K41-10R5091p1M10RZ107711wa3224115A71w1010l5R40Z13A20u041-102210V1781L50l0LZC1120Y2" ++
    "1S1fO40Q10Q114121P3121o0z402150N71111110TAp010-30N1241T30o1x10Q1290e0z2231M52v1x10132121l1V2" ++
    "1f011H328130L3160111020O716320R328110N3011O3070F8290Y74117010O428340U20t1+10Xc0e0K307020V644" ++
    "110+a1c0Q1181KPg2ER3W1"⟩,
  ⟨["t"],
    "IN4X2LOR1Q1"⟩,
  ⟨["v"],
    "AL4H2IQR1myMF1033"⟩,
  ⟨["zwj"],
    "NA80"⟩]

/-- The values of the word break property. -/
def wordBreaks : List NamedRanges := [
  ⟨["aletter", "le"],
    "B2p6pP10a0405m1u1-e6B1Q341123106012101j1S21K48F51F123101I110I30M1K1D111C310f171a220f11ttY2b0" ++
    "oA191405l409030no7a5n15hJ1w1V130i079ff47212l16103330g0d112e1a085412l16111111v310j2g8121l1611" ++
    "1430i0f1n0b7212l16111430u112f0h015321331101131323bm0U17121m1f30q22021u047121m191430v111f1h81" ++
    "21I120g05282o55h3n181026Z90-171D1r4T8F110502K11Ma132610132I1132A1132610132e1Y1132C2F1fgV2253" ++
    "Lj2g1p5K23a7hdiehec12P5Y2742B1105F2auB7mO7O1h7W1td1aL1qD1J12aD12a5K122J131511305-5A2V8252F12" ++
    "5271010101u2U11610321633254c5216U30d0gcF3040291034601010131a235440hI1NpT1WY1E76331cF110502X1" ++
    "70gm9616161616161616Q20Ve0V11I6K11z2hvASrME1D2N12M83fa1kO1gu2P2oF6211017lf12131mtT1eR1+15301" ++
    "1bramps7O1s0Q1I1n217U4a72c5252596161Z16S3tDzacm4Q1EY86c4Y1B3B1Kbi-12V1I1bU341G4E1p6pF2u35252" ++
    "522D1b1p1i111e2dC1w3F2U1L8s3Q1P1vdt5F1at2D14714K1z4iD14D14H18T1ca1e16111a1e16113T1cW99la7o51" ++
    "J118F25201L111302mam9uB2i11alapG2X161A20f3121sK1s3sD171rrV1alaidhO3I2X1S1dS1dD1G1r9mw7J161g2" ++
    "x1sa08lK1hO1krmcU1Z1120dM1A1oqD1t0208C130cP1e3l010D1h1oj1-1610131e197O1G17212l16111430i0c4u9" ++
    "10201F110p010M1U1i3k2uP1k110Y5O1J13E1P1k0x1K1d0HaL1U3-1v72027111nf010+272G1g010s0aH170l0bN1j" ++
    "0iI2H6A1v81E1h0R1tQ36111F1l0p5111ve0Haif01c1B1y30P2ZsG3O3hD6MS2A3fPB1h5pwy35GiZV6tCX1Yh7uhO2" ++
    "htiP1g3vk5iQdM1T6-1A4K250C2cA2110yAjK35c3879Gx5U21G2112021231b10161A21327161r131410361Ta2o1o" ++
    "1u1o1u1o1u1o1u1o17UZ1u65F8z1S4M1a6g0BatiL1EfrE7t20Pf613111e1E6x1D270UF131q111020191310106040" ++
    "1010121110201010101011102316131310191g52141gUjp6p6p"⟩,
  ⟨["cr"],
    "d0"⟩,
  ⟨["doublequote", "dq"],
    "C10"⟩,
  ⟨["extend"],
    "AoP3T86H8M110111110I2aQ1kg0F36252113D10uqx2aw1890o3181214L12x18K1n1A1W121h16a1t2Y1016212290a" ++
    "1q022Y1014412230u130b2Y10171212k1m512Y1016212272a1u0x14321390I14X1016121371b1t2Y1016121371b1" ++
    "f0c3X1116121390a1t2G20451017i1z1026c7C3028b6J21r0101041R1j115a1D190E3jn342122633db10a3-l2St3" ++
    "s2t1u1A2v90N1210V31C10W3b4bx64Z191s20Q1uR14P1gG18c2ucY1dQ1jY421k406022G6-1Mg0D6A1+-22N40A3vK" ++
    "h5J31UOt319A11Q21Q803040n440T21S1hqhd0G17pcM13P1dE10D2dc081N12S1012215110J1451M7711QZj0Bnfgf" ++
    "Ob1zi0C70V44GU121153I1240F51zh3B24z91P23G2aR13w32V1eJ1021a3N1a70z12E1dg1M10c2Q1d8311y2b6020z" ++
    "4bl3X1116212290a12634D281020131410e1S2hn0R2jL7628r1S2gK3cF3eA8eV7511231011N462630s9I1613809a" ++
    "O1fVc717S2l1dw3530111610C241114xa39110Q1634n0FH506eIGbhAO24x16YA101W173R20b1LFj1BT4N12m+g435" ++
    "8726u3U42xz1W14R180e0m41eQK161g261114E30A56Xb0z13yf3+71An6N36QV24ABDo-2A4P7"⟩,
  ⟨["extendnumlet", "ex"],
    "-20P+70f1j0+OX11o2P70"⟩,
  ⟨["format", "fo"],
    "N50OL10RP40--11q4R1419PUX10Z72UBdfADC13PG57GULo0"⟩,
  ⟨["hebrewletter", "hl"],
    "QO1q43KJz10191c1410111119"⟩,
  ⟨["katakana", "ka"],
    "RBc4F313w213Q7fQ6O11X2OAT1X1SCM13161110-82S10e3"⟩,
  ⟨["lf"],
    "a0"⟩,
  ⟨["midletter", "ml"],
    "w10y30Pm0Xe0U40SR60LPX10B20E60"⟩,
  ⟨["midnum", "mn"],
    "M10e0Cq0Kg0C41+20Lc0LC60LQX1030X50e0"⟩,
  ⟨["midnumlet", "mb"],
    "O10J-71a0NRX10U5060"⟩,
  ⟨["newline", "nl"],
    "b1Y30Cz71"⟩,
  ⟨["numeric", "nu"],
    "Q19GO15w2910R30i9G69G61Q20D49W39W39W39W39W39W39W39W39W39A39W39G29W89G29Gw19G19M99A4aF5969W59" ++
    "W29G4969GOC19Gl9G19G69m9W29Wc9WYk9GM19GE2969yo9N20f0C19y19Q49W89Wa9W39Wb9G396jM29Gd9G39Wk9W2" ++
    "9W79G29Gd9WOg9GJ29W29G49Wg9Wxn9UW2R1AK29Gd9Wf9X79Vq9WU49"⟩,
  ⟨["regionalindicator", "ri"],
    "GPy3p"⟩,
  ⟨["singlequote", "sq"],
    "H10"⟩,
  ⟨["wsegspace"],
    "A10-S50-L2612U20Az30"⟩,
  ⟨["zwj"],
    "NA80"⟩]

/-- The values of the sentence break property. -/
def sentenceBreaks : List NamedRanges := [
  ⟨["aterm", "at"],
    "O10V-70NRX10x50"⟩,
  ⟨["cr"],
    "d0"⟩,
  ⟨["close", "cl"],
    "C1042R1010t010N10f0+T33zw11xL27p1a1W11e1Zj3t1QB157dP21v9Tcl-13A11CA1de129o0i7Ld92712+IT11X61" ++
    "sf21g5J51R1010t0101111SYz12"⟩,
  ⟨["extend", "ex"],
    "AoP3T86H8M110111110I2aQ1kg0F36252113D10uqx2aw1890o3181214L12x18K1n1A1W121h16a1t2Y1016212290a" ++
    "1q022Y1014412230u130b2Y10171212k1m512Y1016212272a1u0x14321390I14X1016121371b1t2Y1016121371b1" ++
    "f0c3X1116121390a1t2G20451017i1z1026c7C3028b6J21r0101041R1j115a1D190E3jn342122633db10a3-l2St3" ++
    "s2t1u1A2v90N1210V31C10W3b4bx64Z191s20Q1uR14P1gG18c2ucY1dQ1jY421k406022G6-1Mg1C6A1+-22N40A3vK" ++
    "h5J31UOt319A11Q21Q803040n440T21S1hqhd0G17pcM13P1dE10D2dc081N12S1012215110J1451M7711QZj0Bnfgf" ++
    "Ob1zi0C70V44GU121153I1240F51zh3B24z91P23G2aR13w32V1eJ1021a3N1a70z12E1dg1M10c2Q1d8311y2b6020z" ++
    "4bl3X1116212290a12634D281020131410e1S2hn0R2jL7628r1S2gK3cF3eA8eV7511231011N462630s9I1613809a" ++
    "O1fVc717S2l1dw3530111610C241114xa39110Q1634n0FH506eIGbhAO24x16YA101W173R20b1LFj1BT4N12m+g435" ++
    "8726u3U42xz1W14R180e0m41eQK161g261114E30A56Xb0z13yf3+71An6N36VWFo-2A4P7"⟩,
  ⟨["format", "fo"],
    "N50OL10S70+H40y-1021q4R1419PUX10Z72UBdfADC13PG57GULo0"⟩,
  ⟨["lf"],
    "a0"⟩,
  ⟨["lower", "lo"],
    "B3pP10a040E1n1710101010101010101010101010101010101010101010101010101011101010101010101110101" ++
    "01010101010101010101010101010101010101010201012201020314020322020101020111020301021226020201" ++
    "01010101010101110101010101010101120103010101010101010101010101010101010101010101010101010101" ++
    "01016202110401010101E21D171u4M40103023i0rC11132101010101010101010101014102021T1P110101010101" ++
    "01010101010101010101010901010101010101010101010101010101010101010101010101010201010101010111" ++
    "01010101010101010101010101010101010101010101010101010101010101010101010101010101010101010101" ++
    "010Q1I1Tx20xn5CE2810V3-5B2010101010101010101010101010101010101010101010101010101010101010101" ++
    "01010101010101010101010101010101010101010101010101010101010101010101010101010101018101010101" ++
    "0101010101010101010101010101010101010101010101010101010101010101010101010101010101010101885a" ++
    "78785a7878d2787878411603211832187a211Z30d0gcN303130r04040218340B1f40LqpGw1P11031101010401117" ++
    "30101010101010101010101010101010101010101010101010101010101010101010101010101010101010101010" ++
    "10101011701040cF11050TIu010101010101010101010101010101010101010101010j0101010101010101010101" ++
    "01012F40101010101012101010101010101010101010101010101010101010101010101010101010191010201010" ++
    "10104010201210101010101010101010505010101010101010401020301010101010m21012VpK11d6P2Awj6c4JB1" ++
    "pNG1H1I4D1x4a1e1611De0221J118FI1S1z3lwZ2vAMlvwMppq61hqpq310161aqpqpqpqpqpqpqpqpqrso15qo15qo1" ++
    "5qo15qo1510UZ191j65F8z1UF2B1"⟩,
  ⟨["numeric", "nu"],
    "Q19GO15w2911Q30i9G69G61Q20D49W39W39W39W39W39W39W39W39W39A39W39G29W89G29Gw19G19M99A4aF5969W59" ++
    "W29G4969GOC19Gl9G19G69m9W29Wc9WYk9GM19GE2969yo9N20f0C19y19Q49W89Wa9W39Wb9G396jM29Gd9G39Wk9W2" ++
    "9W79G29Gd9WOg9GJ29W29G49Wg9Wxn9UW2R1AK29Gd9Wf9X79Vq9WU49"⟩,
  ⟨["oletter", "le"],
    "xd043Q60E166bq010F40Ef0W3q44M1K1D111C310f171a220g01ttY2b0oA191405l409030no7a5n15hJ1w1V130i07" ++
    "9ff47212l16103330g0d112e1a085412l16111111v310j2g8121l16111430i0f1n0b7212l16111430u112f0h0153" ++
    "21331101131323bm0U17121m1f30q22021u047121m191430v111f1h8121I120g05282o55h3n181026w1P111c6w11" ++
    "10141n101911902410l3A10-171D1r4T3K1k0g5433031724cc0B2K12La132610132I1132A1132610132e1Y1132C2" ++
    "F1fR3Lj2g1p5K23a7hdiehec12fT1D1040D2Y2742B1105F2auR1t24bL14pW1m9U1S20z2O1h7W1td1aL1qD1J12aD1" ++
    "iK122J13151130wB13H2223Hz2X170gm9616161616161616Q20Ve2p874244V2621Z2135K11z2hvQ1fAg-N6A2MUlD" ++
    "2N12M83fa1C20g0A1P2H18I3060H303612131mtT1eR1+153011bramps7O1s0g419a41I1n217km303R11031242010" ++
    "o22a72c525259616R4C1tDzacm4Q1EI8Nb2J3D20191c141011111L3B1Kbi-12V1I1bU341G4J3X12u35252522D1b1" ++
    "p1i111e2dC1w3F2U1L8s3Q1P1vdt5F1at2D14714w3N2C3H18T1y2T1cW99la7p1z35201L111302mam9uB2i11alapG" ++
    "2X161A20f3121sK1s3sD171rrV1alaidhO3I2X5D1G15v0Q8J161g2x1sa08lK1hO1krmcU1Z1120dM1A1oqD1t0208C" ++
    "130cP1e3l010D1h1oj1-1610131e197O1G17212l16111430i0c4u910201F110p010M1U1i3k2uP1k110Y5O1J13E1P" ++
    "1k0x1K1d0H2qF16Z5L1T672027111nf010+272G1g010s0aH170l0bN1j0iI2H6A1v81E1h0R1tQ36111F1l0p5111ve" ++
    "0Haif01c1B1y30P2ZsG3O3hD6MS2A3fPB1h5pwy35GiZV6tCX1Yh7uhO2htiP1g3vk5iQdM1TcK250C2cA2110sX-58V" ++
    "G1J19HX8316111C9f0t220e38LcEI2K35c3879QT80VfM1a6g0BatiL1EfrE7t20Pf613111e1E6G40UF131q1110201" ++
    "913101060401010121110201010101011102316131310191g52141gEK4-WJ1A1ZB46z62BU5eQJ7fNjCN2zgCP1Kw4" ++
    "5-C4"⟩,
  ⟨["scontinue", "sc"],
    "M11c1Cq0+e0O51Kf0JA4050KA21M-30OQT1111s1t12120a0I51c1I20"⟩,
  ⟨["sterm", "st"],
    "B10t0JK10T42U50L12W70z101031F91EX11Wo041Fo0G61z41N1050w91Cb3C51a121t2x51B21yt192PF32S90d0m1N" ++
    "d0yHt0O81D7030+b1W21-20Y41T42Q41Z70GRk021-11J50t0B20UX21zH14M13z51V33-32B4160g1Y2111M30K91V3" ++
    "1Vb15eJ31Z72Fg010x71X21Ed1Ul1K21JZi1F40B21b0Jh1I90GQj0IP70"⟩,
  ⟨["sep", "se"],
    "F40Cz71"⟩,
  ⟨["sp"],
    "9011j0-30-O50-L2aE10P10Az30"⟩,
  ⟨["upper", "up"],
    "B2pF3m16B10101010101010101010101010101010101010101010101010101010201010101010101020101010101" ++
    "01010101010101010101010101010101010111010311011122311123111101011102011121011307111111010101" ++
    "01010101020101010101010101021101210101010101010101010101010101010101010101010101010101010107" ++
    "111201310101010B90103080601210111g18D10223010101010101010101010105020112S1Q10101010101010101" ++
    "01010101010101010901010101010101010101010101010101010101010101010101010111010101010102010101" ++
    "010101010101010101010101010101010101010101010101010101010101010101010101010101010101010102F1" ++
    "Jw2F11050SmV2TE20Wb0101010101010101010101010101010101010101010101010101010101010101010101010" ++
    "10101010101010101010101010101010101010101010101010101010101010101010101010109010101010101010" ++
    "10101010101010101010101010101010101010101010101010101010101010101010101010101010109785a78785" ++
    "b010101087o7878784b4b3c4b4F8040322220346010101323a150qfj0SppQZ1P1Q10122010101310208210101010" ++
    "10101010101010101010101010101010101010101010101010101010101010101010101010101010101010101080" ++
    "1040NKu010101010101010101010101010101010101010101010j010101010101010101010101010H40101010101" ++
    "01030101010101010101010101010101010101010101010101010101010101010a01011101010104010201030101" ++
    "0101010101010101414101010101010101310113050101010o0LZlpFG1H1I4D1y4a1e1611KX1S1z4lwZ2vAMlvANp" ++
    "pqpqpq01120212317qpq1132716r113141036rpqpqpqpqpqpuoB1oB1oB1oB1oB10VJ4B1OA2p6p6p"⟩]

end Tollgate.Unicode
