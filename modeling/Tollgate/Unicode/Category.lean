import Tollgate.Unicode.RangeTable

/-!
# General categories

The two-letter general categories of Unicode 16 with their names, and the groups and special sets
that are unions or complements of them. Every scalar value is in exactly one two-letter category or
in none (unassigned); surrogates have no entry because no text holds one.
-/

namespace Tollgate.Unicode

/-- The two-letter categories, except unassigned and surrogate. -/
def categories : List NamedRanges := [
  ⟨["lu", "uppercaseletter"],
    "B2pF3m16B10101010101010101010101010101010101010101010101010101010201010101010101020101010101" ++
    "01010101010101010101010101010101010111010311011122311123111101011102011121011307020202010101" ++
    "01010101020101010101010101020201210101010101010101010101010101010101010101010101010101010107" ++
    "111201310101010B90103080601210111g18D10223010101010101010101010105020112S1Q10101010101010101" ++
    "01010101010101010901010101010101010101010101010101010101010101010101010111010101010102010101" ++
    "010101010101010101010101010101010101010101010101010101010101010101010101010101010101010102F1" ++
    "Jw2F11050SmV2TE206K122Aa01010101010101010101010101010101010101010101010101010101010101010101" ++
    "01010101010101010101010101010101010101010101010101010101010101010101010101010101090101010101" ++
    "0101010101010101010101010101010101010101010101010101010101010101010101010101010101010109785a" ++
    "78785b010101087I23c3c3c4b3G8040322220346010101323a150z10yT2P1Q101220101013102082101010101010" ++
    "10101010101010101010101010101010101010101010101010101010101010101010101010101010101010801040" ++
    "NKu010101010101010101010101010101010101010101010j010101010101010101010101010H401010101010103" ++
    "0101010101010101010101010101010101010101010101010101010101010a010111010101040102010301010101" ++
    "010101010101414101010101010101310113050101010o0LZlpFG1H1I4D1y4a1e1611KX1S1z4lwZ2vAMlvANppqpq" ++
    "pq01120212317qpq1132716r113141036rpqpqpqpqpqpuoB1oB1oB1oB1oB10VJ4B1"⟩,
  ⟨["ll", "lowercaseletter"],
    "B3pw10J1n17101010101010101010101010101010101010101010101010101010111010101010101011101010101" ++
    "01010101010101010101010101010101010102010122010203140203220201010201110203010212260202010101" ++
    "01010101011101010101010101011201030101010101010101010101010101010101010101010101010101010101" ++
    "6202110401010101E21qB60103032i0rC11132101010101010101010101014102021T1P110101010101010101010" ++
    "10101010101010901010101010101010101010101010101010101010101010101010201010101010111010101010" ++
    "10101010101010101010101010101010101010101010101010101010101010101010101010101010101010Q1I1Hw" ++
    "2K122Yn5CE2810V3L1-1c1B1G3010101010101010101010101010101010101010101010101010101010101010101" ++
    "01010101010101010101010101010101010101010101010101010101010101010101010101010101018101010101" ++
    "0101010101010101010101010101010101010101010101010101010101010101010101010101010101010101885a" ++
    "78785a7878d2787878411603211832187a211S803130r04040218340V10LV2P11031101010401115501010101010" ++
    "10101010101010101010101010101010101010101010101010101010101010101010101010101010101010117010" ++
    "40cF11050TIu010101010101010101010101010101010101010101010j010101010101010101010101010H401010" ++
    "10101012101010101010101010101010101010101010101010101010101010101010101710102010101010401020" ++
    "1210101010101010101010505010101010101010401020301010101010q030VpK1587P2Awj6c4JB1pNG1H1I4D1x4" ++
    "a1e1611DY1S1z3lwZ2vAMlvwMppq61hqpq310161aqpqpqpqpqpqpqpqpqrso15qo15qo15qo15qo1510UZ191j65XP2" ++
    "B1"⟩,
  ⟨["lt", "titlecaseletter"],
    "Fe02020G10VM778787c0f0P10"⟩,
  ⟨["lm", "modifierletter"],
    "Qlh4be47010F4050+e0G70E51N8140v09030A50H50UG10-30Vh0wW10L30Dj0Qe5O5+1d0C1E1Rl0d0gc-+21R70-50" ++
    "Ve0L1450B31z22WYr0CH15O80S30s1Z38Q20n0J3231Ve0m0J40M30l1H3390GAl0N11A-151J118TM10A10QOn3yf2I" ++
    "11GhcA2110MAg31611RBcz1J66Nt0-C10"⟩,
  ⟨["lo", "otherletter"],
    "K50f0A8043Q60xpq43N1v19D111C310o1a220g01ttY2b0oA1llK1o7a5n15hI1x1V130i079ge47212l16103330g0d" ++
    "112e1a085412l16111111v310j2g8121l16111430i0f1n0b7212l16111430u112f0h015321331101131323bm0U17" ++
    "121m1f30q22021u047121m191430v111f1h8121I120g05282o55h3n181026w1P111c5x1110141n1019119024n3A1" ++
    "0-171D1r4T3K1k0g5433031724cc0R3Ia132610132I1132A1132610132e1Y1132C2F1fR3Lj2g1p5K2677hdiehec1" ++
    "2fT1I10D2C11U1742B1105F2auR1t24bL14pW1m9U1Q5O1h7W1td1aL1qD1J12atR33151130wB13X-2X1om96161616" ++
    "16161616Hh0V104V2801Z2405K11z2hvQ1fAg-N6A2UQk1WD1D2H18L84fa1C20R1F2J50H303612131mtT1eR1+1530" ++
    "11bramps7O1N1428a41I1n217kf15303R11031242010o13a70e525259616R4C1tDzacm4Q1EI8Nb2J3D20191c1410" ++
    "11111L3B1Kbi-12V1I1bU341G4J391M12u35252522D1b1p1i111e2dC1w3Fcs3Q1P1vdj176F1at2D147A4N2C3H18T" ++
    "1y2T1cW99la7Y45201L111302mam9uB2i11alapG2X161A20f3121sK1s3sD171rrV1alaidhO3I2X5D1G1310Q9J161" ++
    "g2x1sa08lK1hO1krmcU1Z1120dM1A1oqD1t0208C130cP1e3l010D1h1oj1-1610131e197O1G17212l16111430i0c4" ++
    "u910201F110p010M1U1i3k2uP1k110Y5O1J13E1P1k0x1K1d0H2qF16Z5L1T672027111nf010+272G1g010s0aH170l" ++
    "0bN1j0iI2H6A1v81E1h0R1tQ36111F1l0p5111ve0Haif01c1B1y30P2ZsG7D6MS2A3fPB1h5pwy35GiZV6tCX1Yh7uh" ++
    "O2htiP1T1k5iTdH1VcK250P5X-58VG1J19XX8C9f0t220e38LcEI2K35c3879QT80VfM1B10BatiL1EfqF7t20Pf6131" ++
    "11e1E6xJ131q1110201913101060401010121110201010101011102316131310191g52141gEK4-WJ1A1ZB46z62BU" ++
    "5eQJ7fNjCN2zgCP1Kw45-C4"⟩,
  ⟨["mn", "nonspacingmark"],
    "AoP3T84J8M110111110I2aQ1kg0F36252113D10uqx2aw1890o3181214L12x18K1n1vX1010474036a1t0w104380k1" ++
    "q021Z1041412230u130b1Z10441140k1m510w1020138071b1u0z10c0S1030X1012521371b1t0w10206051k1s1Z11" ++
    "4380k1t0I207210w2026c7C3028b6J21r01010X1d14115a1D190G33151121p142g3d02160f0-l2St2t1u1u1A2116" ++
    "802a90N1210V31C10W32419062x6120w10161010276920Q1d1fR13Q10141050I18c1A132112Y10113012w1721Y42" ++
    "1c16406031G6-1Qmc403b+-22N40A3vKh3L31UOt049A11Q21Q803040p150X41qhd0G17paO12Q102321H10D252121" ++
    "c080P10T1012215110K1180O702040QZj0BnfgfNu0C70V44GU121153I1240F51zh3B24z91P23G2aR13x30W1eJ102" ++
    "1a2R132170z12E1417+10c1U18a320-2220116020z4037l1Z1130F1634G25d01010e1V272210n0U25104111O7361" ++
    "11r1V272011K30102510F30102314D8811A811040Q432140A19I1523809522O1c11Wc61510S2l261111w35301116" ++
    "10I213010xa1b1U145010n0FH506eIGbb32AO24x16YA10-13R20YFj1BT4N12mAh2h726u3U42xz1W14R180e0m41eQ" ++
    "K161g261114E30A56Xb0z13yf3+71An6N36VzFoP7"⟩,
  ⟨["mc", "spacingmark"],
    "DI20X10228311S11w126121a0L10w12C20w128011V11w10106121a0G31113212a0J12z13z11w1014211191s0e1w1" ++
    "25212a0K11L2267i1Ka1-10L51406021p1a226l12520a2YT10u0B407711wa3224115A71w1010901185R40Q105014" ++
    "11z10u04120y10221031Q1781L50l0WZ41T-t120Y21S1fO41P10Q114122O3121o0N1010N302150N71111110TAp01" ++
    "0-30N1241T30o1x10Q1291d0z223110K52v1w1113212290a1U227020131110F328130K32601320N726320R328110" ++
    "N301160H301140F8290X7511402010O428340U20t1+10Xc0e0K307020V644110+a1c0Q118110IPg2ER3W1I31TLo1" ++
    "65"⟩,
  ⟨["me", "enclosingmark"],
    "IE11UR50+Q1312LMB12"⟩,
  ⟨["nd", "decimalnumber", "digit"],
    "Q19GR19G49G69yc9W39W39W39W39W39W39W39W39W39A39W39G29W89G29Gw19G19M99A49G5969W59W29G4969GOC19" ++
    "Gl9G19G69m9W29Wc9WYk9GM19GE2969yo9A49y19Q49W89Wa9W39Wb9G396jM29Gd9G39Wk9W29W79G29Gd9WOg9GJ29" ++
    "W29G49Wg9Wxn9UW2R1AK29Gd9Wf9X79Vq9WU49"⟩,
  ⟨["nl", "letternumber"],
    "OX52PT2C123+T30p8e2LVt9QSmU1Me080G44KB8O3"⟩,
  ⟨["no", "othernumber"],
    "S515022VJ25Yb5Y32F46Z66h8Rd9VB1jTD19Af0VU103569G6fJ10Wmx1O2lWjtJL10UE13K49u71eA19H1eQLt5RGmM" ++
    "1B23h1VaqE13UJ17p6H18L24m5A512f2N1A28U11u2L24I37o7J16Ka5Abu+49K13Q36G4jxbjFK11Od8HriTqkGyi6+" ++
    "omJBpjcjM3oOK58Btw11213M2M11eCuc"⟩,
  ⟨["pc", "connectorpunctuation"],
    "-20-+71j0+OX11o2P70"⟩,
  ⟨["pd", "dashpunctuation"],
    "N10yK10T10BS30FA10JA25BQ3020v140s0+d0j0P30QMT11F10a0J50AT30+90"⟩,
  ⟨["ps", "openpunctuation"],
    "I10S10v0+V3010+w10+L2030G10X10f0wj010u0+B10101010101010Q20A1010101010Uc010101010101010101010" ++
    "A2010B10FB10101010p0i0101010Md0101010103010101020BJT10X60t01010101010101030h01010K50S10v0302" ++
    "0"⟩,
  ⟨["pe", "closepunctuation"],
    "J10T10v0zV3010+w10JN20X10f0wj010u0+B10101010101010Q20A1010101010Uc010101010101010101010A2010" ++
    "B10FB10101010M10101010Md0101010103010101021+IT10Z60t01010101010101030h01010K50T10v02020"⟩,
  ⟨["pi", "initialpunctuation"],
    "L50Mx702120p0IO30104020f030"⟩,
  ⟨["pf", "finalpunctuation"],
    "x50zw7030s0IO30104020f030"⟩,
  ⟨["po", "otherpunctuation"],
    "B1212201011a131r0E2050e170+l080Se5J10W102020M11k111d012K23G30L1dJ72W1ev0F81a0M40Y30Z30Gc0c0P" ++
    "b0w20a1I5e10Q30K2441P35L50Ej8Fo0y32H21z4212F1513Z91Y61A4615A51a6s2y33x14+11A27b0Cq1878823223" ++
    "a1019wE3311Q30P41422028111021a41923101c22Md2Z10z50CAt1N82D30a0T35yb3W21I1210R11P10B3cg1y33+3" ++
    "1g1Z70ERk620m0k1233213726011V4212201011a131r0E1021wc2yk0Q10+c0Hn0H60v0Q88G10Q36C26Z23Yt4M13z" ++
    "56N3113+33Q11P2340d012Y25L30K9111S34a110I30w7mJ32scM20C42y70I82x40y27T2214z29X60-24K11Fk1K2c" ++
    "P50QD14yx21xTe1F40B2480Ih2H93Ha0yFj0HP74Tx20+q1"⟩,
  ⟨["sm", "mathsymbol"],
    "L10g2z1010N1040F10v0+n0Pg2xR60d0H12d2L40H1460E245140202070v12010vL8A11w20uoI15Ve090W17P30Qa4" ++
    "2uafA8C4m+14v2B8Q1k25y+T10Yp012E50g2z1010D4063BN31RJS10p0v0p0v0p0v0p0v0p0MZ51"⟩,
  ⟨["sc", "currencysymbol"],
    "E10z33JH10x30Sf1Sf170V70H80Fi0xM20EG2A1XxB10DOl0M30w40x6131W-73+YQ10QN20"⟩,
  ⟨["sk", "modifiersymbol"],
    "+2010H20604030Jg3cd56101gV30e1CI10UZ5012b2d2d2d1yE41DTtm91H31Qu0e1GCkgxr010C50XAz14"⟩,
  ⟨["so", "othersymbol"],
    "G50204010Ru0K81-31O60a0j1X70Dg0Vb0C4510E40P60J10Hc2f01225k01010F47151153F61Qn9Tm0Sm0z4B1Bb99" ++
    "8DM111311a0116510101040b1e01110w1194231111161u21101uM874j262Q21tpH16H2maR2N2mW5181V18O31X7M1" ++
    "L1A2-7AgP1l16G12v1I3F75Fb1O1p1Y2cV6qf40d1c0l161Qa149A1F190gubt80fvaG1f-9AO6-1QUlW1Br3a110zh2" ++
    "GWkf-30N12Ef03041d1Z98Z1g221c30P1M1wT11Pi0WD30VE274gKwi350WKk0Dx3P7gTdy4T3y1V7aG12x152m17t4y" ++
    "1lB230w5W2JF1-fX13S171d11IW10yw20B40RmL14D3ce2e1e1E1nA5Y1sdL14871e5w4w75Xm4g3c3W34+26b40fb4X" ++
    "1896H18t2b41+1Tacd2c395X17e2a687S41x2"⟩,
  ⟨["zs", "spaceseparator"],
    "A10-30-O50-L2aE10P10Az30"⟩,
  ⟨["zl", "lineseparator"],
    "IB80"⟩,
  ⟨["zp", "paragraphseparator"],
    "JB80"⟩,
  ⟨["cc", "control", "cntrl"],
    "0v-2A1"⟩,
  ⟨["cf", "format"],
    "N50SK15m0A60R10Ac1Q20LZ30y-14q4R1419PUX10Z72BG40f0Cx8fADC13PG57GULo0u-2"⟩,
  ⟨["co", "privateuse"],
    "AAY1-H6AYBsz--12z--1"⟩]

/-- The scalar values of a two-letter category, by its short name. -/
def category (short : String) : CharSet :=
  NamedRanges.find? categories short |>.getD .empty

/-- The union of several two-letter categories. -/
def categoryUnion (shorts : List String) : CharSet :=
  shorts.foldl (fun set short => set.union (category short)) .empty

/-- The categories that a group name stands for. -/
def categoryGroups : List (List String × List String) := [
  (["lc", "casedletter"], ["lu", "ll", "lt"]),
  (["l", "letter"], ["lu", "ll", "lt", "lm", "lo"]),
  (["m", "mark", "combiningmark"], ["mn", "mc", "me"]),
  (["n", "number"], ["nd", "nl", "no"]),
  (["p", "punctuation", "punct"], ["pc", "pd", "ps", "pe", "pi", "pf", "po"]),
  (["s", "symbol"], ["sm", "sc", "sk", "so"]),
  (["z", "separator"], ["zs", "zl", "zp"])]

/-- The scalar values that some category names. -/
def assigned : CharSet :=
  categories.foldl (fun set entry => set.union entry.set) .empty

/-- The set of a general category name that is already in canonical spelling. -/
def generalCategory? (name : String) : Option CharSet :=
  if name = "any" then some .full
  else if name = "ascii" then some (.range 0 0x7F)
  else if name = "assigned" then some assigned
  else if name ∈ ["cn", "unassigned"] then some assigned.complement
  else if name ∈ ["c", "other"] then
    some ((categoryUnion ["cc", "cf", "co"]).union assigned.complement)
  else match categoryGroups.find? (fun group => name ∈ group.1) with
    | some group => some (categoryUnion group.2)
    | none => NamedRanges.find? categories name

end Tollgate.Unicode
