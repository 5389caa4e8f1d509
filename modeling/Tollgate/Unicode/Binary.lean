import Tollgate.Unicode.RangeTable

/-!
# Binary properties

The yes-or-no properties of Unicode 16 characters.
-/

namespace Tollgate.Unicode

/-- The binary properties in alphabetical order of their long names. -/
def binaryProperties : List NamedRanges := [
  ⟨["asciihexdigit", "ahex"],
    "Q1975q5"⟩,
  ⟨["alphabetic", "alpha"],
    "B2p6pP10a0405m1u1Je4be47010W20th1123106012101j1S21K48F51F1206I1H1d101111108q43ta5X116eF31747" ++
    "42a220gP1dE3oA191405n2ijo7a5n15808J1ab366L21f124edi17212l16103337212110804114c1a04215412l161" ++
    "11111444121407310h5b218121l16111438121130f3l34217212l161114372121914114d0g115321331101131323" ++
    "b4432123060I1c121m1f37121281122023s317121m1914371212816113d2cc121I1271212105374m5121h3n18102" ++
    "6851017i1dZ15660T1110141n101i12241060e3A10-171D14i4f1D1D2W11024g-1a32F110502K11Ma132610132I1" ++
    "132A1132610132e1Y1132C2F1fgV2253Lj2g1p5K23a7jbkcjcc1211cT12ie040D2Y27K15F2au1b48nt24bL14pW1r" ++
    "4+12jS10n1b2R1T11e17T1J123aL11aeW1m2aD12a5K122J131511305-5jB1bV8252F125271010101u2U116103216" ++
    "33254c5216U30d0gcF3040291034601010131a235440hI1NpT1WY1E76331cF110502X170gm96161616161616161v" ++
    "P10Ve2p874244V2621Z2135K11z2hvQ1fAg-N6A2MUlD2N12M83fa1kO1573Q3H182G32C2211017lj1A1oT1cD210M1" ++
    "53012aA15C1ds3S11bf0gfa41W19dim3E21010o22f23b5252596161K11d6w3lDzacm4Q1EI8Nb2J3G16c45b1c1410" ++
    "11111L3B1Kbi-12V1I1bU341G4E1p6pbY235252522D1b1p1i111e2dC1w3F2U1L8s3Q1P1vdt5K15t2D14714K1z4iD" ++
    "14D14H18T1ca1e16111a1e16113T1cW99la7o51J118F25201L111302mam9uB2i11alapG2X161A231157121sK1s3s" ++
    "D171rrV1alaidhO3I2X1S1dS1dH1C1r305mw7J11131g2X103sa08lK1hO1krm9F2L14aY190donS1h38C1309-11391" ++
    "a010D1h1B12063+1610131e197Y1n317212l161114372121306056s910201F119102013113010M1B21213k2uB221" ++
    "10Y5V126p5C1+11030x1V120H2q2dl6Z5Y1H3-1v72027111t112123z272N1251011rS129hH250iI2H6A1v81M1161" ++
    "0R1t2l1dJ26111L13011121021o5111E1111310Ham9g1I132P30P2ZsG3O3hD6MS2A3fPB1h5pwy35GiZV6O1RW1Yh7" ++
    "uhO2htiP1g3vk5iQdM1T6-1A4K24Y17gA2110c1eX-58VG1J19HX8316111C9f0t220e38LcEI2K35c387940Bx5U21G" ++
    "2112021231b10161A21327161r131410361Ta2o1o1u1o1u1o1u1o1u1o17UZ1u65V661g2611145z1B10Q3M1a6g0Ba" ++
    "tiL1EfrE7t20Pf613111e1E6x1D23030UF131q111020191310106040101012111020101010101110231613131019" ++
    "1g52141gUjp6p6pWT3-WJ1A1ZB46z62BU5eQJ7fNjCN2zgCP1Kw45-C4"⟩,
  ⟨["bidicontrol", "bidic"],
    "yQ10RP61q4X13"⟩,
  ⟨["bidimirrored", "bidim"],
    "I11i010s010t010N10f0+T33zw11yM21a1W11e1R50A633530313313101048501h539110171v2350912i5194214n2" ++
    "f83k171zB1dK2023111253523dTcl251d807530441124401221a521ci13201020135162o1b14311214K1271H1501" ++
    "03452403410A80Dg33111e129L17Ld927zRT1551C51i010s010t0101111XxV10Z10Z10Z10Z10"⟩,
  ⟨["caseignorable", "ci"],
    "H1060b0D1010H2040104021Xf-541409110x76P6050R1M110111110M10b5aa10D10akg0F371913B1010uqx2aw1a4" ++
    "020onL12M107158J1Z1X1010474036a1d0f0w104380k1q021Z1041412230u130b1Z10441140k1m510w1020138071" ++
    "b1u0z10c0S1030X1012521371b1t0w10206051k1s1Z114380k1t0I207210w2026b8C30289016J21r01010X1d1411" ++
    "5a1D190G33151121p142g3d02160f0+20Aj2St2t1u1u1A2116802a3050N14T10B21C10W32419062x6120w1016101" ++
    "0276920H108uR13Q10141050I18c1A132112Y10113012w1721A25S221c16406031S1+1d0C1E3zd012b2d2d2d1c48" ++
    "1a02024R141910d0gcT1A1Ly21R32z30f0A3vP10Ve0E133450z25z22WYr0CH15O80C331910s3Q21eB1O20n2H3231" ++
    "803040p150X41qhd0G17paO12Q102321h0l1C252121c080D10b0T1012215110r0e15110E3492Z302040QZj0T4gzh" ++
    "f30cfC1020J507060b0D1010P10N11D20l2Bg0C70V44FA151J118Gi21153I1240F51zh3G10q410x91P23G2aR13x3" ++
    "0W1eJ1021a2R13212040a0S12E1417+10c1U18a320-2220116020z4037l1Z1130F1634G25d01010e1V272210n0U2" ++
    "5104111O736111r1V272011K30102510F30102314D8811A811040Q432140A19I1523809522O1c11Wc61510S2l261" ++
    "111w3530111610I213010xa1b1U145010n0VG5g6eIGbb32AO24x1693yf2I11Cf0-1gA2111LAg31611+E3113yS4N1" ++
    "2mAh29f26u3U42xz1W14R180e0m41eQK161g2611145z1B10A5dQb0z13xf4+71An6N37PV24BADo0u-2A4P7"⟩,
  ⟨["cased"],
    "B2p6pP10a0405m1u1C6134P61D171u4A30K132123106012101j1S21K48F51F19I1XY2F110502K113AlV225CE2a5K" ++
    "122A2-5A2V8252F125271010101u2U11610321633254c5216U30d0gcF3040291034601010131540235440hv31RpT" ++
    "1WY1E76331cF11050SIuN1itE4F3331z1211017l412VpK11d6P2Awj6c4JA1p6pFF1P2A3D14D1U3a1e16111a1e161" ++
    "1De0221J118FG1S1dS1z2lalwY2-1ALl-1AMpU21G2112021231b10161A21327161r131410361Ta2o1o1u1o1u1o1u" ++
    "1o1u1o17UZ191j65F8z1SE2D2M-1p6p6p"⟩,
  ⟨["changeswhencasefolded", "cwcf"],
    "B2pw20am17A101010101010101010101010101010101010101010101010101010102010101010101010111010101" ++
    "01010101010101010101010101010101010101110101011101112231112311110101110201112101130711111101" ++
    "01010101010102010101010101010102110121010101010101010101010101010101010101010101010101010101" ++
    "0107111201310101010W70K10103080601210111g18m0c231101010101010101010101010112110112S1Q1010101" ++
    "01010101010101010101010101090101010101010101010101010101010101010101010101010101011101010101" ++
    "01020101010101010101010101010101010101010101010101010101010101010101010101010101010101010101" ++
    "01010102F1Q10YY2F11050Kp5CE296K122Aa01010101010101010101010101010101010101010101010101010101" ++
    "01010101010101010101010101010101010101010101010101010101010101010101010101010101010101010101" ++
    "05120101010101010101010101010101010101010101010101010101010101010101010101010101010101010101" ++
    "0101010109785a78785b010101087gP122255225b3c45225J903160N1fj0SppQZ1P1Q10122010101310208210101" ++
    "01010101010101010101010101010101010101010101010101010101010101010101010101010101010101010101" ++
    "0801040NKu010101010101010101010101010101010101010101010j010101010101010101010101010H40101010" ++
    "10101030101010101010101010101010101010101010101010101010101010101010a01011101010104010201030" ++
    "1010101010101010101414101010101010101310113050101010o0wrP2Awj6c4JA1pFG1H1I4D1y4a1e1611KX1S1z" ++
    "4lwZ2vAMlvAVuB1"⟩,
  ⟨["changeswhencasemapped", "cwcm"],
    "B2p6pw10am1u1-11T21r2d21104y21h6q1110113113142011207020113550a1G50K132132106012101j1O13A1141" ++
    "E48F51F1aG1YY2F110502K122AlV225CE2a5K122Z5030g0R3x4201V3252F125271010101u2U11610321633254c52" ++
    "16J903160r0hv31RpT1WY1Q311117F37331cF11050SIuN1irG4d2z19e32241o1t2146o1yq0sP2Awj6c4JA1p6pFF1" ++
    "P2A3D14D1U3a1e16111a1e1611DW1S1dS1z2lalwY2-1ALl-1AUuD2"⟩,
  ⟨["changeswhenlowercased", "cwl"],
    "B2pF3m16B10101010101010101010101010101010101010101010101010101010201010101010101020101010101" ++
    "01010101010101010101010101010101010111010311011122311123111101011102011121011307111111010101" ++
    "01010101020101010101010101021101210101010101010101010101010101010101010101010101010101010107" ++
    "111201310101010B90103080601210111g18D108010101010101010101010105020112S1Q1010101010101010101" ++
    "01010101010101090101010101010101010101010101010101010101010101010101011101010101010201010101" ++
    "0101010101010101010101010101010101010101010101010101010101010101010101010101010101010102F1Jw" ++
    "2F11050SmV2TE206K122Aa0101010101010101010101010101010101010101010101010101010101010101010101" ++
    "01010101010101010101010101010101010101010101010101010101010101010101010101010109010101010101" ++
    "01010101010101010101010101010101010101010101010101010101010101010101010101010101010109785a78" ++
    "785b010101087o7878784b4b3c4b4J903160N1fj0SppQZ1P1Q101220101013102082101010101010101010101010" ++
    "10101010101010101010101010101010101010101010101010101010101010101010101010801040NKu010101010" ++
    "101010101010101010101010101010101010j010101010101010101010101010H401010101010103010101010101" ++
    "0101010101010101010101010101010101010101010101010a010111010101040102010301010101010101010101" ++
    "414101010101010101310113050101010o0LZlpFG1H1I4D1y4a1e1611KX1S1z4lwZ2vAMlvAVuB1"⟩,
  ⟨["changeswhentitlecased", "cwt"],
    "B3pw10J1n17101010101010101010101010101010101010101010101010101010102010101010101011101010101" ++
    "01010101010101010101010101010101010102010122010203050203220201010204020301020301040111110101" ++
    "01010101010111010101010101010121010301010101010101010101010101010101010101030101010101010101" ++
    "080211040101010151110113113142011207020113550a1G50L10103032i0rC11132101010101010101010101014" ++
    "102020U1P11010101010101010101010101010101010901010101010101010101010101010101010101010101010" ++
    "10101020101010101011101010101010101010101010101010101010101010101010101010101010101010101010" ++
    "101010101010101010101010R1G1QT35CE2810O7030g0S3010101010101010101010101010101010101010101010" ++
    "10101010101010101010101010101010101010101010101010101010101010101010101010101010101010101010" ++
    "10101010101650101010101010101010101010101010101010101010101010101010101010101010101010101010" ++
    "101010101010101885a78785a7878d2787878411603211832187a211Wa0B1f40LqpGw1P110311010106020a01010" ++
    "10101010101010101010101010101010101010101010101010101010101010101010101010101010101010101010" ++
    "10801040cF11050TIu010101010101010101010101010101010101010101010j010101010101010101010101010H" ++
    "4010101010101030101010101010101010101010101010101010101010101010101010101010a010201010101040" ++
    "401120101010101010101010b01010101010101040102030501010q0yq0sP2Awj6c4JB1pNG1H1I4D1x4a1e1611DY" ++
    "1S1z3lwZ2vAMlvCVuB1"⟩,
  ⟨["changeswhenuppercased", "cwu"],
    "B3pw10J1n17101010101010101010101010101010101010101010101010101010102010101010101011101010101" ++
    "01010101010101010101010101010101010102010122010203050203220201010204020301020301051111110101" ++
    "01010101011101010101010101011111030101010101010101010101010101010101010103010101010101010108" ++
    "0211040101010151110113113142011207020113550a1G50L10103032i0rC1113210101010101010101010101410" ++
    "2020U1P1101010101010101010101010101010101090101010101010101010101010101010101010101010101010" ++
    "10102010101010101110101010101010101010101010101010101010101010101010101010101010101010101010" ++
    "1010101010101010101010R1G1Iw2K122Yn5CE2810O7030g0S301010101010101010101010101010101010101010" ++
    "10101010101010101010101010101010101010101010101010101010101010101010101010101010101010101010" ++
    "10101010101010165010101010101010101010101010101010101010101010101010101010101010101010101010" ++
    "1010101010101010101885a78785a7878d2U1114010321140332187a21140Ra0B1f40LqpGw1P110311010106020a" ++
    "01010101010101010101010101010101010101010101010101010101010101010101010101010101010101010101" ++
    "0101010801040cF11050TIu010101010101010101010101010101010101010101010j01010101010101010101010" ++
    "1010H4010101010101030101010101010101010101010101010101010101010101010101010101010a0102010101" ++
    "01040401120101010101010101010b01010101010101040102030501010q0yq0sP2Awj6c4JB1pNG1H1I4D1x4a1e1" ++
    "611DY1S1z3lwZ2vAMlvCVuB1"⟩,
  ⟨["dash"],
    "N10yK10T10BS30FA10JA25z10H10f0Gc0EA3020v140s0+d0j0P30QMT11F10a0J50AT30+90"⟩,
  ⟨["defaultignorablecodepoint", "di"],
    "N50Bl0Mm0Cw21TS11V24x-14q4R1fUH40xET1fP70A50P28HFP13PG57FULo--3"⟩,
  ⟨["deprecated", "dep"],
    "Ja0JJ10DI2010JB21FG25Zl1WGXr0"⟩,
  ⟨["diacritic", "dia"],
    "+2010H20604021Xf+41755h14091z74R60X1g1q101110G4741G414132D2qx2aw1aC11+37J19grz10g033s0K20g0O" ++
    "30g0O30g0P12y10g070X30O30g0O30g0N31g0y30P30c510L30d4L21r0101041C2211+10Q3011I1144p610a1Bm2Ut" ++
    "1u0U4a90xa2E90k720Q1e2aI30f0G18W11w10b1C21A25S2o406022S1+1Z2bF1azd012b2d2d2d1QH32z90wf5J33-2" ++
    "0SLt0c110s1S21eB1G32N31c0F10X40rhZ13E10-20c0E10V42B23T10E3492A41QZj0BofO8010P10N11D20yn0-E15" ++
    "1J118zj240F51xh5G10q4Pc2G2aR13A60J10I21Y31+10M2092I31S51Q21g0o634Z2211d1-2030x31x71+30W31T30" ++
    "N81C8140y40T20i0R20Fd0C8011R20Jd1n0MH5eZGb0AO24x16Uh1ChgQ21+-f31611BY7N12mAh2358726u3CU3z1C6" ++
    "6Xb0z13+n1An6N3212"⟩,
  ⟨["emoji"],
    "D106059P3040Ny70c0Y60m0w25f1Pb1c0G50pa42H60H71a090w1314902021204020112030318250105bb1201110i" ++
    "021i5101131502141b15120511011k155132040202510201010603060a1f02040104210b1Q1290e0e0Ub1Pe2j1T1" ++
    "040wG10c0Zi010KLP30K60A51c1e029L2p11n0k028l1O5B12P321122S2221G81+1b51n7127c0232041d120819052" ++
    "c28220104060306V2Q1F257224930113029D7b40x8O1191Y5Q3c395X17e2a68"⟩,
  ⟨["emojicomponent", "ecomp"],
    "D106059T+70V60LJX10W+y1pxf4QN13MTBo-2"⟩,
  ⟨["emojimodifier", "emod"],
    "x-y34"⟩,
  ⟨["emojimodifierbase", "ebase"],
    "zQ90x60g3XDT30y122022V312ali3042127010o0J6140l041O5234T20g290b0-h02087609922Y10z111110h21cF7" ++
    "2K18"⟩,
  ⟨["emojipresentation", "epres"],
    "wY81N633020Jg1l1S1bL10j0d081h1518050l0711040207041s0D10104210z12o0e0xq1T1040OFR30K60+5029L2p" ++
    "10o0k02412l1O5A1c81F21lcK144cg303G2101w52+1d31ni0q1d0W2U2Q1F260322243b178D7b40x8O1191Y5Q3c39" ++
    "5X17e2a68"⟩,
  ⟨["extendedpictographic", "extpict"],
    "J5040Ny70c0Y60m0w25f1Pb1c0-20G20pa42H60H71a090w13151b1R3aV32a1010603060a1f02040104210b4N1290" ++
    "e0e0Ub1Pe2j1T1040wG10c0Zi010GLP3-7d2v0y15c1e029iY1rea0k028139Rd5z98J8Q1-3U3bV2K1c3Y17a5I17uR" ++
    "2cO1191YdA8zv"⟩,
  ⟨["extender", "ext"],
    "X50Yg1Or0Zd0Wj0J40Z20Qn0-30DK20Y10Dj0Oc0E20Jy40L14H31z22WYr0WP10Cu0m0J40M30l1xDl0QA21LO10r04" ++
    "0HG10F90U31Sf2PG10JFk1yE1110YKs1RF10Uq2"⟩,
  ⟨["graphemebase", "grbase"],
    "A1+2B1c1RiQ372546101j1-67F51F12R122O101020209q45h9b01N1lf1E38061204v201ttY2b0eK1963n4090307e" ++
    "1o501a5uhJ1Z1W110138312792s1117212l1610333011612110d1124n5015412l1611111142o310792210c018121" ++
    "l16111433801130f14b708117212l16111430206121f1124hb015321331101131323b5011321230lk6217121m1f3" ++
    "033j2202149791a121m1914312011o1114912ea121I1201152121142194p211h3n18102691667922cP111b78cF11" ++
    "10141n1019119024109923A1n2q10101d1D1i05024R17151cF1M14060212o233f4c11251e1H110502Yb132610132" ++
    "I1132A1132610132e1Y1132C25s3p6V2252yk3Y27hdi319hec12fT1207711b839696a596Y2742B1105F2au432241" ++
    "15703J124bL14p6a3Y1213X110901185d9696dW2P1a3371s9b2v416X1102210dP1815e3z15K12ab0d0731512205-" ++
    "5A2V8252F125271010101u2U11e1d251i22181a5n7Q1g12q1c3A1-1L44ZkmalTY12v1Xa315M110502X171fm96161" ++
    "61616161616B1z2C1p1Y2cV6qZ16f1V24E35K11z21V29P11MTs3W19xakO140av2P2258N6211017lf12131o24496X" ++
    "18D2aboc1F18ob0ct6P11141211c1a461o1I16121b21710292v1S11031242010og27b5252596161x14U31113396D" ++
    "zacm4Q1EI8Nb2J3G16c4501n141011111y3gyd2V170A1fg9mC11i13441G44y42u352525223616d12b1p1i111e2dC" ++
    "1w3524M13X21c30P1M1D4s3Q1gq4D19t5F1at1E14dK1z4296D14D14H18T1bb1e16111a1e16113T1cW99la7o51J11" ++
    "8F25201L111302m1H288Q1i115A13q50A2X14j2O1f3121sa8787-1A1E16b9V13s2q5p73c6Q2I2X1S1dS17J1c96F1" ++
    "8n81Q6u1J13021g2x1H18lb8mh43G1rkm901V1f64t1120cQ1412113eo799D1509h8C112bT19017411f1jbh1r3145" ++
    "11-1610131e1a6O112d98117212l161114301013212130c6s910201F11011f011301211H1X181301k1012uP11160" ++
    "1110202389G5O11163202qE1S1811023b96cjK1101181696jsq3011409mZ5O19020E3S2c72027111n1411631299G" ++
    "272J18313r0aH1614790613N1d028dI279W5B1e9681F1e015as3vp07020L26111F1l09965111E141101079W9i239" ++
    "e1D1813mW20fR1dwsG3O314bD6MS2C3dPB1h5pwy35GiZV6tc239GW1Yh7u194Q2196t70aP17ea9161k5iQdZ1G6w2F" ++
    "3K25X1bcA23sX-58VG1J19HX8316111C9f0t220e38LcEI2K35c38792020Ax3Z76Tdy4T3y1V7aG12x152m17t4y1lB" ++
    "230w3jcjcW29oH4U21G2112021231b10161A21327161r131410361Ta2D92RhX13S171d16UD1u65F8z1S4M1a62941" ++
    "AatiL14950Qer49W6t2a40Af613111e1E628Q1D2704941RoD2M2y1C631q111020191310106040101012111020101" ++
    "0101011102316131310191g52141gU11O8L14D3ce2e1e1E1aN5Y1sdL14871e5w4Xu4g3c3W34+26b40fb4X1896H18" ++
    "t2b41+1Tacd2c395X17e2a687S41F3GA1-WJ1A1ZB46z62BU5eQJ7fNjCN2zgCP1Kw45-C4"⟩,
  ⟨["graphemeextend", "grext"],
    "AoP3T86H8M110111110I2aQ1kg0F36252113D10uqx2aw1890o3181214L12x18K1n1vX1010474036a1t0w10102380" ++
    "90a1q021Z1041412230u130b1Z10441140k1m510w1011138072a1u0x1010c090I1030X1012521371b1t0w1021103" ++
    "21371b1s1Z1110238090a1t0I2040221080R2026c7C3028b6J21r01010X1d14115a1D190G33151121p142g3d0216" ++
    "0f0-l2St3s2t1u1A2116802a90N1210V31C10W32419062x6120w10161010276920Q1uR13Q1942G18c1A1325Y1011" ++
    "3014Y1721Y421c16406031G6-1Mg0D6A1+-22N40A3vKh5J31UOt319A11Q21Q803040p150X41qhd0G17pa10M12Q10" ++
    "232120E10D252121c080P10T1012215110K1180O702040QZj0BnfgfOb1zi0C70V44GU121153I1240F51zh3B24z91" ++
    "P23G2aR13x30W1eJ1021a2R132170z12E1417+10c1U18108320-22236020z4037l1Z111010c090e634D202510201" ++
    "24210e1V272210n0R202510201111L70236111r1V272011K301027F30102314D8811V70a340Q432140A19I152380" ++
    "9522O1c11Wc61510S2l261111w3530111610I213010xa1b1U1452n0FH506eIGbb32AO24x16YA10-13R20b1LFj1BT" ++
    "4N12m+g4358726u3U42xz1W14R180e0m41eQK161g261114E30A56Xb0z13yf3+71An6N36VWFo-2A4P7"⟩,
  ⟨["graphemelink", "grlink"],
    "NK20-30-30-30-30-30-30-30N31g0y30P30-30J60U51ZW11u0z40Nk0D70F31G21LM40GUu0F10X40O40M30V90W70" ++
    "RSn0GQ10J10e0Z10Z31L40U30U50C30A42R30-30y70-30W30U30N80D81B50T20i0R20Fd0E81R20Jd1MPg0"⟩,
  ⟨["hexdigit", "hex"],
    "Q1975q5JV-1975q5"⟩,
  ⟨["hyphen"],
    "N10-30yG10xT40JA21FQ30Dn0HLT10J50X20"⟩,
  ⟨["idsbinaryoperator", "idsb"],
    "Q-b129Rf0"⟩,
  ⟨["idstrinaryoperator", "idst"],
    "S-b1"⟩,
  ⟨["idsunaryoperator", "idsu"],
    "+-b1"⟩,
  ⟨["idcompatmathcontinue"],
    "S5150Wz703a1eTb040m0CFN30p0v0p0v0p0v0p0v0p0"⟩,
  ⟨["idcompatmathstart"],
    "CQ8040m0CFN30p0v0p0v0p0v0p0v0p0"⟩,
  ⟨["idcontinue", "idc"],
    "Q197p401pP10a010205m1u1Je4be47010hU311231064101j1S21K4142F51F1206I18M1101111108q43ta5J24F317" ++
    "291i20gw12E3eV140202N1ir4a5n158K21A4291i17212l1610332821238041142ba0102215412l16111111201441" ++
    "223073107fb218121l16111429121220f329961217212l1611142821227241142910g115321331101131323b4432" ++
    "132060e9gc121m1f2812137112202329g317121m19142812137161132912cc121S11214537429a5121h3n1810263" ++
    "04510176921dZ15e19H1110141n101m2410161923A10n169b01010491D14j1h1D190Z1J26N22F110502K11Ma1326" ++
    "10132I1132A1132610132e1Y1132C22298efgV2253Lj2g1p5K23a7l9lbjcc1211cT2304129B121a6Y27K15F2au1b" ++
    "4baH124bL14p6aF1r4+11s2a69d08d1fR1M239h8cT3cX1893Q12a5K122g21G15Vg252F125271010101u2U1161032" ++
    "1633254c5216f1R11j0s0d0gcT1c403bh0402910256010101f235440hI1XT2E768cF110502X170fn961616161616" ++
    "16161vFg2pe14244V2261+25K11z2hvQ1fAg-N6A2MUlD2N12M83rkP1491S3F182G32C2211017lV140jT1cF2a96n3" ++
    "01Q12D1cs3A2ea6u1W19d296m3I2o22f24a5252596161K11d6w311296Dzacm4Q1EI8Nb2J3G16c45b1c141011111L" ++
    "3B1Kbi-12V1I1b4fgf31o2A141G4j97p401paZ235252522D1b1p1i111e2dC1w3F2U1I40C4s3Q1f0vvdt5K15t2D14" ++
    "714K1z4296D14D14H18T1ca1e16111a1e16113T1cW99la7o51J118F25201L111302mam9uB2i11alapG2X161A2311" ++
    "57121s2240A1s3sD171tpV1alaidhO3I2X1S1dS1dH1896F1341mw7J11131g2X1A1a08A1vlK1krm9G2vf9x170do79" ++
    "6U119438D1209E2431c10D1h1E163+1610131e197w1596317212l1611141921222060562634b910201F119102013" ++
    "17d1tK25943uF21089G5V128n5C1A230b9G1Y1796jsq2e4966Z5w1F3J2l72027111t1128c9G272N12711r+1808J2" ++
    "30iI2H6A1f9681M118f9ot2l1dJ26111L13011188965111E1111579W9m9g1I134daV20P2ZsG3O3hD6MS2A3fPB1gl" ++
    "awy35GiZV6Z1GW1Yh7u196O2196t24bW193c99k5iQdM139G6-1A4K24Y17gA2111b1eX-58VG1J19HX8316111C9f0t" ++
    "220e38LcEI2K35c387931RC49GgN12m+g4358726u3U42xdU21G2112021231b10161A21327161r131410361Ta2o1o" ++
    "1u1o1u1o1u1o1u1o172R1AgW14R180e0m41eQC1u65V661g2611145z1B10Q3M13d2940BauhZ1WeJ1W6K1Ff613111e" ++
    "1E6b6J1L249GF131q1110201913101060401010121110201010101011102316131310191g52141gUJ39GA1-WJ1A1" ++
    "ZB46z62BU5eQJ7fNjCN2zgCP1Kw45-C4QKXlP7"⟩,
  ⟨["idstart", "ids"],
    "B2p6pP10a0405m1u1Je4be47010B441123106012101j1S21K48F51F1206I1H2q43N1K1D111C310f171a220g01ttY" ++
    "2b0oA191405l409030no7a5n15hJ1w1V130i079ff47212l16103330g0d112e1a085412l16111111v310j2g8121l1" ++
    "6111430i0f1n0b7212l16111430u112f0h015321331101131323bm0U17121m1f30q22021u047121m191430v111f1" ++
    "h8121I120g05282o55h3n181026w1P111c6w1110141n101911902410l3A10-171D1r4T3K1k0g5433031724cc0hF1" ++
    "10502K11Ma132610132I1132A1132610132e1Y1132C2F1fgV2253Lj2g1p5K23a7hdiehec12fT1D1040D2Y27I1105" ++
    "F2auR1t24bL14pW1m9U1S20z2O1h7W1td1aL1qD1J12aD12a5K122J131511305-5A2V8252F125271010101u2U1161" ++
    "0321633254c5216U30d0gcF30402910256010101f235440hI1XT2E76331cF110502X170gm9616161616161616Gh2" ++
    "p874244V2441Z2135K11z2hvQ1fAg-N6A2MUlD2N12M83fa1kO1gu2P2H182G32C2211017lf12131mtT1eR1+153011" ++
    "bramps7O1s0g419a41I1n217km303R11031242010o22a72c5252596161K11d6S3tDzacm4Q1EI8Nb2J3G16c450191" ++
    "c141011111L3B1Kbi-12V1I1bU341G4E1p6pbY235252522D1b1p1i111e2dC1w3F2U1L8s3Q1P1vdt5F1at2D14714K" ++
    "1z4iD14D14H18T1ca1e16111a1e16113T1cW99la7o51J118F25201L111302mam9uB2i11alapG2X161A20f3121sK1" ++
    "s3sD171rrV1alaidhO3I2X1S1dS1dD1G1r9mw7J161g2x1sa08lK1hO1krmcU1Z1120dM1A1oqD1t0208C130cP1e3l0" ++
    "10D1h1oj1-1610131e197O1G17212l16111430i0c4u910201F110p010M1U1i3k2uP1k110Y5O1J13E1P1k0x1K1d0H" ++
    "2qF16Z5L1U3-1v72027111nf010+272G1g010s0aH170l0bN1j0iI2H6A1v81E1h0R1tQ36111F1l0p5111ve0Haif01" ++
    "c1B1y30P2ZsG3O3hD6MS2A3fPB1h5pwy35GiZV6tCX1Yh7uhO2htiP1g3vk5iQdM1T6-1A4K250C2cA2110sX-58VG1J" ++
    "19HX8316111C9f0t220e38LcEI2K35c3879Gx5U21G2112021231b10161A21327161r131410361Ta2o1o1u1o1u1o1" ++
    "u1o1u1o17UZ1u65F8z1S4M1a6g0BatiL1EfrE7t20Pf613111e1E6x1D270UF131q111020191310106040101012111" ++
    "0201010101011102316131310191g52141gEK4-WJ1A1ZB46z62BU5eQJ7fNjCN2zgCP1Kw45-C4"⟩,
  ⟨["ideographic", "ideo"],
    "GAc1p8e2Fu-N6A2-PkAImNb2J3KIt0rX-58VG1J19HD9LcEIj-WJ1A1ZB46z62BU5eQJ7fNjCN2zgCP1Kw45-C4"⟩,
  ⟨["joincontrol", "joinc"],
    "MA81"⟩,
  ⟨["logicalorderexception", "loe"],
    "AS34x34QX2220wHE112011"⟩,
  ⟨["lowercase", "lower"],
    "B3pP10a040E1n1710101010101010101010101010101010101010101010101010101011101010101010101110101" ++
    "01010101010101010101010101010101010101010201012201020314020322020101020111020301021226020201" ++
    "01010101010101110101010101010101120103010101010101010101010101010101010101010101010101010101" ++
    "01016202110401010101E21D171u4A30L10103023i0rC11132101010101010101010101014102021T1P110101010" ++
    "10101010101010101010101010901010101010101010101010101010101010101010101010101010201010101010" ++
    "11101010101010101010101010101010101010101010101010101010101010101010101010101010101010101010" ++
    "101010Q1I1Hw2K113Yn5CE2810V3-5B2010101010101010101010101010101010101010101010101010101010101" ++
    "01010101010101010101010101010101010101010101010101010101010101010101010101010101010101018101" ++
    "01010101010101010101010101010101010101010101010101010101010101010101010101010101010101010101" ++
    "01885a78785a7878d2787878411603211832187a211Z30d0gcN303130r04040218340B1f40LqpGw1P11031101010" ++
    "40111730101010101010101010101010101010101010101010101010101010101010101010101010101010101010" ++
    "10101010101011701040cF11050TIu010101010101010101010101010101010101010101010j0101010101010101" ++
    "01010101012F40101010101012101010101010101010101010101010101010101010101010101010101010191010" ++
    "20101010104010201210101010101010101010505010101010101010401020301010101010m21012VpK11d6P2Awj" ++
    "6c4JB1pNG1H1I4D1x4a1e1611De0221J118FI1S1z3lwZ2vAMlvwMppq61hqpq310161aqpqpqpqpqpqpqpqpqrso15q" ++
    "o15qo15qo15qo1510UZ191j65F8z1UF2B1"⟩,
  ⟨["math"],
    "L10g2v0t010N1040F10v0Ym220q122Pg2NQ60r2b030d0e3l4b4B2c403144i04029102560312112153d10E2n15114" ++
    "14v1061eL883k1w20uq10o0b6zd1c945412134e01025b751Z1010t392Qa-1A8-fQ1k25y+T10Xp510C50g2t010t01" ++
    "0D4063BN31QTR1U21G2112021231b10161A21327161r131410361Ta2D92R1AQ531q1110201913101060401010121" ++
    "110201010101011102316131310191g52141gU11"⟩,
  ⟨["modifiercombiningmark", "mcm"],
    "US1120D406031Bf11230v0"⟩,
  ⟨["noncharactercodepoint", "nchar"],
    "QO-1vOg1+--11+--11+--11+--11+--11+--11+--11+--11+--11+--11+--11+--11+--11+--11+--11+--11"⟩,
  ⟨["otheralphabetic", "oalpha"],
    "Fq0tcAid10111110I2aQ1c16g0F36432140D10ufG3aF31381213K30y1b366jW112e1152a1t2w162121a0a1t2w144" ++
    "12140u130b2w171211l1m242w16212191a1u0x143212a0I14Z16121281b1t2w16121281b1f0c3w161212a0a1t2L2" ++
    "51017i1z1026i0D302511g0D5i9a1D1O3b1023n342122633db10a3UT11u1u1u1C2iy51C10W3b48+64Z192jK21b2R" ++
    "14Q1ey12u821Z1aS1iycB1BW1T1WH2vUDu7C11Cb080n4Y21S1f10Z10G14sbN13Q1bF10D2dc081N12S10122150M14" ++
    "50N77TZj0XC24GU121153Uo3B20Ba1P20D82V1dN11b2N1890z12E1bi1Z12Q1ce1y28206020z49n3w162121a0a1U2" ++
    "810201311H3c12K3hN7626t1S2e10K3aH3dB8cX7511213010O462540s9K1413iaO1dXc716T2l1dw353011121030C" ++
    "241113ya39110Q1632zOggAR301W173z21MFj0Bx861g261114E30XF20I-1p6p6p"⟩,
  ⟨["otherdefaultignorablecodepoint", "odi"],
    "Pq0PQ31TS11PF20+H40xRT10P28HAAq01tA3-3Q7PQ3"⟩,
  ⟨["othergraphemeextend", "ogrext"],
    "+N20o0Gb0o0G30o0I7010411191H30o0X30f0VJ20u0AA10501051F30H21YA10BB41DJu0M30zOl1AR40U30I80e090" ++
    "A3090201250A70c0R70G80Zj0c0DQ10OFk1TLo165NVLo-2"⟩,
  ⟨["otheridcontinue", "oidc"],
    "X50Pm0B-38IT10RR11NH40JTT10"⟩,
  ⟨["otheridstart", "oids"],
    "FE61RE20l0Mx31"⟩,
  ⟨["otherlowercase", "olower"],
    "K50f0Vf871u4A30U10BM30PB3+1d0C1E1Rl0d0gcT6fQqpSy11+Qu1S60B4231Cr390WAn0221J118VDW1z1"⟩,
  ⟨["othermath", "omath"],
    "+20Rr220q121AB70r2b0A13o1e1B2c403144i04029103460312112153354L24231111101421414h2110161061C93" ++
    "I5110o0h0zd1c854512134e01025o1Z1010t391Wa1v9Tcl-13A11DDV101040T6010BGV1U21G2112021231b10161A" ++
    "21327161r131410361Ta2o1o1u1o1u1o1u1o1u1o172R1AQ531q11102019131010604010101211102010101010111" ++
    "02316131310191g52141g"⟩,
  ⟨["otheruppercase", "oupper"],
    "AL8fGqpADT3p6p6p"⟩,
  ⟨["patternsyntax", "patsyn"],
    "B1ea6q310q3C1610111011404030n0v0YY7n8e2i19R9PmA5VjuLD1Ag-3Bc24of0NIT11F81"⟩,
  ⟨["patternwhitespace", "patws"],
    "94i0E30Iy71o1"⟩,
  ⟨["prependedconcatenationmark", "pcm"],
    "AQ15X60R10Ac1Q20w+B20f0"⟩,
  ⟨["quotationmark", "qmark"],
    "C1040D40f0yw77p1HQ30Je3d2BRT13z5040w21"⟩,
  ⟨["radical"],
    "AUbp1Y2cV6"⟩,
  ⟨["regionalindicator", "ri"],
    "GPy3p"⟩,
  ⟨["sentenceterminal", "sterm"],
    "B10c0g0JK10T42U50L12W70z101031F91EX11Wo041Fo0G61z41N1050w91Cb3C51a121t2x51B21Et0n192PF32S90d" ++
    "0m1Nd0yHt0O81D7030+b1W21-20Y41T42Q41Z70GRk021x1031J50c0g0B20UX21zH14M13z51V33-32B4160g1Y2111" ++
    "M30K91V31Vb15eJ31Z72Fg010x71X21Ed1Ul1K21JZi1F40B21b0Jh1I90GQj0IP70"⟩,
  ⟨["softdotted", "sd"],
    "J31E60Z80u0U10k0Aa0C3010JI60T10d030E40z40Fd0W61SZ20FzJ31S11S11S11S11S11S11S11S11S11S11S11S11" ++
    "GE20R91q0"⟩,
  ⟨["terminalpunctuation", "term"],
    "B10a010b130+p080Bg0Z10I20e012U50L1a10L71W1517v0F81UH11M5045X91Vo7Fo0y32H21z4230H1321w91Cb3C5" ++
    "1a112t2x54+11Et0n192PF32S90d040a01131Md1xHt1N82D74+b1W21-20X42T42-30g1Z70GRk021Z1213J50a010b" ++
    "130B2020wB10Q10GE10H60W91Y45E25Z23Yt4M13z56Q33-32B4160g1Y24M30K91V32c1Gb33eJ31Z72Fg010x71X21" ++
    "41+c2N10Fk1K21LJ14ZPh1F40B22a0Jh1H91GQj0HP73"⟩,
  ⟨["unifiedideograph", "uideo"],
    "AAd-N6A2-PkOQm11011a0101122WOB2-WJ1A1ZB46z62BU5eQJ7fNjCN4Kw45-C4"⟩,
  ⟨["uppercase", "upper"],
    "B2pF3m16B10101010101010101010101010101010101010101010101010101010201010101010101020101010101" ++
    "01010101010101010101010101010101010111010311011122311123111101011102011121011307020202010101" ++
    "01010101020101010101010101020201210101010101010101010101010101010101010101010101010101010107" ++
    "111201310101010B90103080601210111g18D10223010101010101010101010105020112S1Q10101010101010101" ++
    "01010101010101010901010101010101010101010101010101010101010101010101010111010101010102010101" ++
    "010101010101010101010101010101010101010101010101010101010101010101010101010101010101010102F1" ++
    "Jw2F11050SmV2TE206K122Aa01010101010101010101010101010101010101010101010101010101010101010101" ++
    "01010101010101010101010101010101010101010101010101010101010101010101010101010101090101010101" ++
    "0101010101010101010101010101010101010101010101010101010101010101010101010101010101010109785a" ++
    "78785b010101087I23c3c3c4b3G8040322220346010101323a150qfj0SppQZ1P1Q10122010101310208210101010" ++
    "10101010101010101010101010101010101010101010101010101010101010101010101010101010101010101080" ++
    "1040NKu010101010101010101010101010101010101010101010j010101010101010101010101010H40101010101" ++
    "01030101010101010101010101010101010101010101010101010101010101010a01011101010104010201030101" ++
    "0101010101010101414101010101010101310113050101010o0LZlpFG1H1I4D1y4a1e1611KX1S1z4lwZ2vAMlvANp" ++
    "pqpqpq01120212317qpq1132716r113141036rpqpqpqpqpqpuoB1oB1oB1oB1oB10VJ4B1OA2p6p6p"⟩,
  ⟨["variationselector", "vs"],
    "LA6210QPZ1fQXAqP7"⟩,
  ⟨["whitespace", "wspace", "space"],
    "94i0E30q0-O50-L2at150P10Az30"⟩,
  ⟨["xidcontinue", "xidc"],
    "Q197p401pP10a010205m1u1Je4be47010hU311321064101j1S21K4142F51F1206I18M1101111108q43ta5J24F317" ++
    "291i20gw12E3eV140202N1ir4a5n158K21A4291i17212l1610332821238041142ba0102215412l16111111201441" ++
    "223073107fb218121l16111429121220f329961217212l1611142821227241142910g115321331101131323b4432" ++
    "132060e9gc121m1f2812137112202329g317121m19142812137161132912cc121S11214537429a5121h3n1810263" ++
    "04510176921dZ15e19H1110141n101m2410161923A10n169b01010491D14j1h1D190Z1J26N22F110502K11Ma1326" ++
    "10132I1132A1132610132e1Y1132C22298efgV2253Lj2g1p5K23a7l9lbjcc1211cT2304129B121a6Y27K15F2au1b" ++
    "4baH124bL14p6aF1r4+11s2a69d08d1fR1M239h8cT3cX1893Q12a5K122g21G15Vg252F125271010101u2U1161032" ++
    "1633254c5216f1R11j0s0d0gcT1c403bh0402910256010101f235440hI1XT2E768cF110502X170fn961616161616" ++
    "16161vFg2pe14244V221221+25K11z2hvQ1fAg-N6A2MUlD2N12M83rkP1491S3F182G32C2211017lV140jT1cF2a96" ++
    "n301Q12D1cs3A2ea6u1W19d296m3I2o22f24a5252596161K11d6w311296Dzacm4Q1EI8Nb2J3G16c45b1c14101111" ++
    "1L3B1K46Z6i-12V1I196fgf31o2B1010301010101z3j97p401paZ235252522D1b1p1i111e2dC1w3F2U1I40C4s3Q1" ++
    "f0vvdt5K15t2D14714K1z4296D14D14H18T1ca1e16111a1e16113T1cW99la7o51J118F25201L111302mam9uB2i11" ++
    "alapG2X161A231157121s2240A1s3sD171tpV1alaidhO3I2X1S1dS1dH1896F1341mw7J11131g2X1A1a08A1vlK1kr" ++
    "m9G2vf9x170do796U119438D1209E2431c10D1h1E163+1610131e197w1596317212l1611141921222060562634b9" ++
    "10201F11910201317d1tK25943uF21089G5V128n5C1A230b9G1Y1796jsq2e4966Z5w1F3J2l72027111t1128c9G27" ++
    "2N12711r+1808J230iI2H6A1f9681M118f9ot2l1dJ26111L13011188965111E1111579W9m9g1I134daV20P2ZsG3O" ++
    "3hD6MS2A3fPB1glawy35GiZV6Z1GW1Yh7u196O2196t24bW193c99k5iQdM139G6-1A4K24Y17gA2111b1eX-58VG1J1" ++
    "9HX8316111C9f0t220e38LcEI2K35c387931RC49GgN12m+g4358726u3U42xdU21G2112021231b10161A21327161r" ++
    "131410361Ta2o1o1u1o1u1o1u1o1u1o172R1AgW14R180e0m41eQC1u65V661g2611145z1B10Q3M13d2940BauhZ1We" ++
    "J1W6K1Ff613111e1E6b6J1L249GF131q1110201913101060401010121110201010101011102316131310191g5214" ++
    "1gUJ39GA1-WJ1A1ZB46z62BU5eQJ7fNjCN2zgCP1Kw45-C4QKXlP7"⟩,
  ⟨["xidstart", "xids"],
    "B2p6pP10a0405m1u1Je4be47010B441132106012101j1S21K48F51F1206I1H2q43N1K1D111C310f171a220g01ttY" ++
    "2b0oA191405l409030no7a5n15hJ1w1V130i079ff47212l16103330g0d112e1a085412l16111111v310j2g8121l1" ++
    "6111430i0f1n0b7212l16111430u112f0h015321331101131323bm0U17121m1f30q22021u047121m191430v111f1" ++
    "h8121I120g05282o55h3n181026w1P110d6w1110141n101910a02410l3A10-171D1r4T3K1k0g5433031724cc0hF1" ++
    "10502K11Ma132610132I1132A1132610132e1Y1132C2F1fgV2253Lj2g1p5K23a7hdiehec12fT1D1040D2Y27I1105" ++
    "F2auR1t24bL14pW1m9U1S20z2O1h7W1td1aL1qD1J12aD12a5K122J131511305-5A2V8252F125271010101u2U1161" ++
    "0321633254c5216U30d0gcF30402910256010101f235440hI1XT2E76331cF110502X170gm9616161616161616Gh2" ++
    "p874244V2621Z2135K11z2hvQ1fAg-N6A2MUlD2N12M83fa1kO1gu2P2H182G32C2211017lf12131mtT1eR1+153011" ++
    "bramps7O1s0g419a41I1n217km303R11031242010o22a72c5252596161K11d6S3tDzacm4Q1EI8Nb2J3G16c450191" ++
    "c141011111L3B1K46Z6i-12V1I19X3010301010101z3E1p6pbX12u35252522D1b1p1i111e2dC1w3F2U1L8s3Q1P1v" ++
    "dt5F1at2D14714K1z4iD14D14H18T1ca1e16111a1e16113T1cW99la7o51J118F25201L111302mam9uB2i11alapG2" ++
    "X161A20f3121sK1s3sD171rrV1alaidhO3I2X1S1dS1dD1G1r9mw7J161g2x1sa08lK1hO1krmcU1Z1120dM1A1oqD1t" ++
    "0208C130cP1e3l010D1h1oj1-1610131e197O1G17212l16111430i0c4u910201F110p010M1U1i3k2uP1k110Y5O1J" ++
    "13E1P1k0x1K1d0H2qF16Z5L1U3-1v72027111nf010+272G1g010s0aH170l0bN1j0iI2H6A1v81E1h0R1tQ36111F1l" ++
    "0p5111ve0Haif01c1B1y30P2ZsG3O3hD6MS2A3fPB1h5pwy35GiZV6tCX1Yh7uhO2htiP1g3vk5iQdM1T6-1A4K250C2" ++
    "cA2110sX-58VG1J19HX8316111C9f0t220e38LcEI2K35c3879Gx5U21G2112021231b10161A21327161r131410361" ++
    "Ta2o1o1u1o1u1o1u1o1u1o17UZ1u65F8z1S4M1a6g0BatiL1EfrE7t20Pf613111e1E6x1D270UF131q111020191310" ++
    "1060401010121110201010101011102316131310191g52141gEK4-WJ1A1ZB46z62BU5eQJ7fNjCN2zgCP1Kw45-C4"⟩]

/-- The characters that have the binary property of this canonical name. -/
def binaryProperty? (name : String) : Option CharSet :=
  NamedRanges.find? binaryProperties name

/-- Letters and other characters that spell words. -/
def alphabetic : CharSet := binaryProperty? "alphabetic" |>.getD .empty

/-- Blanks, tabs and line breaks of all scripts. -/
def whiteSpace : CharSet := binaryProperty? "whitespace" |>.getD .empty

end Tollgate.Unicode
