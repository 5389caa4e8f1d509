import Tollgate.Unicode.RangeTable

/-!
# Scripts

The scripts of Unicode 16: for each, the characters whose script it is and the characters it is
used with (script extensions).
-/

namespace Tollgate.Unicode

/-- A script: its names, its own characters, and those it is used with when that differs. -/
structure ScriptEntry where
  names : List String
  own : String
  extended : String

/-- All scripts in alphabetical order of their long names. -/
def scripts : List ScriptEntry := [
  ⟨["adlam", "adlm"],
    "AIw3L24941",
    "-Q10A10OQ60RP30+VO3L24941"⟩,
  ⟨["ahom"],
    "AYF2q2e4m",
    ""⟩,
  ⟨["anatolianhieroglyphs", "hluw"],
    "AAR2Gi",
    ""⟩,
  ⟨["arabic", "arab"],
    "AQ14151d121v19bp1L31B1Q2P1Q7u115K21sQSy1S3gKb2P22V170A1fQ341G4Dx3uD22X13AYX131q1110201913101" ++
    "060401010121110201010101011102316131310191g52141gU11",
    "AQ141W61B1Q2P1Q7u115K21sPw50RP30OIT1S3gyd2V170A1fQ341G4DvrEx2uD22X13AYX131q11102019131010604" ++
    "01010121110201010101011102316131310191g52141gU11"⟩,
  ⟨["armenian", "armn"],
    "RJ1F12R122DMz14",
    "Io0IhF12R122DMz14"⟩,
  ⟨["avestan", "avst"],
    "AYC2V136",
    "X50YLb1OGX1V136"⟩,
  ⟨["balinese", "bali"],
    "AY6M21R1",
    ""⟩,
  ⟨["bamum", "bamu"],
    "AVJ1X2IIQ1Yh",
    ""⟩,
  ⟨["bassavah", "bass"],
    "QWw2t25",
    ""⟩,
  ⟨["batak", "batk"],
    "A+6T183",
    ""⟩,
  ⟨["bengali", "beng"],
    "AM2317212l1610332821238041142o",
    "yl0UU11h1q317212l1610332821238041142oRW401021108080204022Z-C10"⟩,
  ⟨["bhaiksuki", "bhks"],
    "AAH281M11das",
    ""⟩,
  ⟨["bopomofo", "bopo"],
    "Kn1ZQbK1Q3v",
    "Hm012d0g1VIb2491ca32060D609K1Q3vFET11w84"⟩,
  ⟨["brahmi", "brah"],
    "AAE2N24D190",
    ""⟩,
  ⟨["braille", "brai"],
    "AAa-7",
    ""⟩,
  ⟨["buginese", "bugi"],
    "AQ6r21",
    "AQ6r21PzD10"⟩,
  ⟨["buhid", "buhd"],
    "Aw5j",
    "VZ519j"⟩,
  ⟨["canadianaboriginal", "cans"],
    "AA5-jQhF2wNA2f",
    ""⟩,
  ⟨["carian", "cari"],
    "AVA2Q1",
    "X50Cz7020TO30ODV1Q1"⟩,
  ⟨["caucasianalbanian", "aghb"],
    "QJB2T1b0",
    "Eo0M10M10ROA2T1b0"⟩,
  ⟨["chakma", "cakm"],
    "AIE2U11h",
    "GP29QS19WFA2U11h"⟩,
  ⟨["cham"],
    "AQK1W19d2923",
    ""⟩,
  ⟨["cherokee", "cher"],
    "Az4V225SxF1P2",
    "Ao21061m1b1OD4V225SxF1P2"⟩,
  ⟨["chorasmian", "chrs"],
    "QzD2r",
    ""⟩,
  ⟨["common", "zyyy"],
    "0A2q5qO11e14n0v0BeG1542jU30906010zj060e030A10y40Eg0B41ZG10Vc3C90PP12H21L6110NG10d073151220Fo" ++
    "b2W21a3a1ehA1-1F112251q1gJ124Zkmal-sA8Tj2v1I3Agz2Sck101of743x2130w21T4fA1F190Q1-1vQ2P10Y2H5A" ++
    "O6-1AImB1G32F59U70A50Lc0e1SOk1Q69mC11i13T401vq5qaa0N11A2616a4C824M138Q2cT1M1E7qENO13yw3Z76Td" ++
    "y4T3y1V7aG12z13g817t4y1V6jcjcW29oH4U21G2112021231b10161A21327161r131410361Ta2D92R1RD5D2M2y1C" ++
    "mL14D3ce2e1e1E1aN5Y1p11dL14871e5w4Xu4g3c3W34+26b40fb4X1896H18t2b41+1Tacd2c395X17e2a687S41F3H" ++
    "ABo0u-2",
    "0A2q5qO11b1114n0v0Be2191030181015542j+306010zj0X60Eg0yK10Vc3HB4b2A11u1911161a3a1ehA1-1F11225" ++
    "1q1gJ124Zkmal-sA8Tj2v1I3Agm1n2913101pCd030d0d0l0Rgnv0R1ec3B595-2v0AO6-1IImpG32Qu0e1EVk9mk2b1" ++
    "i13T401vq5q5-3616a4SccT1M1DQS1Z76Tdy4T3y1V7aG12z13g817t4y1V6jcjcW2r6H4U21G2112021231b10161A2" ++
    "1327161r131410361Ta2D92R1RD5D2M2y1CmL14D3ce2e1e1E1aN5Y1p11dL148n5w4Xu4g3c3W34+26b40fb4X1896H" ++
    "18t2b41+1Tacd2c395X17e2a687S41F3HABo0u-2"⟩,
  ⟨["coptic", "copt", "qaac"],
    "CvdQEaT356",
    "X50Ii03110M31M3dQEaT356X80IGV1r"⟩,
  ⟨["cuneiform", "xsux"],
    "AAI2ZsG3O314bD6",
    ""⟩,
  ⟨["cypriot", "cprt"],
    "AAC25201L1113020",
    "AIA224M138AW15201L1113020"⟩,
  ⟨["cyprominoan", "cpmn"],
    "QyL2C3",
    "AIA21OUbC3"⟩,
  ⟨["cyrillic", "cyrl"],
    "AA1E42I5Qw5aA50M20HD4vACu-2Oyl1AQY1z1B10",
    "yl0D221010102050O7P9Qw5aA50M20-30H-3vD20y-t-2Oyl1AQY1z1B10"⟩,
  ⟨["deseret", "dsrt"],
    "AAB2P2",
    ""⟩,
  ⟨["devanagari", "deva"],
    "AI2Q24e2pAxH1vAQs9",
    "yl0DS1S22K1Qw4G111Wv0-ZB19G5vAQs9"⟩,
  ⟨["divesakuru", "diak"],
    "AIG262027111t112b99",
    ""⟩,
  ⟨["dogra", "dogr"],
    "AAG2x1",
    "EL2bAWH19G+rx1"⟩,
  ⟨["duployan", "dupl"],
    "AAP3K35c387923",
    "X50Pi110o1XYa0DOD3K35c387927"⟩,
  ⟨["egyptianhieroglyphs", "egyp"],
    "AAM2VC1awy3",
    ""⟩,
  ⟨["elbasan", "elba"],
    "AIB2H1",
    "X50Ni0wPA2H1"⟩,
  ⟨["elymaic", "elym"],
    "A-D2m",
    ""⟩,
  ⟨["ethiopic", "ethi"],
    "AQ4I2132610132I1132A1132610132e1Y1132C22v3pGP6m9616161616161616CJv525259616RFP2613111e",
    "Oo0RX3I2132610132I1132A1132610132e1Y1132C22v3pGP6m9616161616161616CJv525259616RFP2613111e"⟩,
  ⟨["garay", "gara"],
    "AKD2F13s81",
    "MQ10e030AZB2F13s81"⟩,
  ⟨["georgian", "geor"],
    "AF4F110502K113Qy2K122AC4F11050",
    "X50RG10WY2F110502P1Qy2K122ws0FF3F11050D80"⟩,
  ⟨["glagolitic", "glag"],
    "AAb-2AzM361g261114",
    "X50Li010+b020B80Rx20+w30Fz2-2Df0LBu0QMO261g261114"⟩,
  ⟨["gothic", "goth"],
    "QZA2q",
    "X50Mi120I10+--1q"⟩,
  ⟨["grantha", "gran"],
    "AYE2317212l1611142821222060562634",
    "RK21h1AkdyG4011u231Wv0PQy1317212l1611141921222060562634xC3110"⟩,
  ⟨["greek", "grek"],
    "Qr3122310401012101j1+1efGJ64S1444U20Aal252F125271010101u2U11e1d251i2218H90+RC10wOlO2h0-CU1F2",
    "X50Ii1201010a0O1020K172310401012101j1+1efGJ64S1444U22+9l252F125271010101u2U11e1d251i2218+20I" ++
    "60+RC10wOlO2h0-CU1F2"⟩,
  ⟨["gujarati", "gujr"],
    "BU2218121l16111429121220f32b76",
    "RK21h1x8218121l16111429121220f32b76QJH19"⟩,
  ⟨["gunjalagondi", "gong"],
    "ALH25111E1111579",
    "X50MF21w-E25111E1111579"⟩,
  ⟨["gurmukhi", "guru"],
    "BQ2215412l16111111201441223073107g",
    "RK21h1x4215412l16111111201441223073107gZNH19"⟩,
  ⟨["gurungkhema", "gukh"],
    "AIY2Z1",
    "FL20wyV2Z1"⟩,
  ⟨["han", "hani"],
    "AUbp1Y2cV6P1010p8e3Eu-N6A2-PkAImNb2J3IIt1c1OAE1-WJ1A1ZB46z62BU5eQJ7fNjCN2zgCP1Kw45-C4",
    "X50IObp1Y2cV6qf121c1c1c2068x50U4fA1F190Q1H1Y1Q1fbT10Y2oa4A3u1-N6A2-PkAY17YPkNb2J3Lr1w84yDs1c" ++
    "1Oxoh+W71ON3-WJ1A1ZB46z62BU5eQJ7fNjCN2zgCP1Kw45-C4"⟩,
  ⟨["hangul", "hang"],
    "AI4-7OR71B8z2R3uB2uBXtsDkDzacm4Q1Ez9u35252522",
    "AI4-7BQ72491ce260D60V1z2R3uB2uBXtsDkDzacm4Q1JS91w84w1u35252522"⟩,
  ⟨["hanifirohingya", "rohg"],
    "AID2H189",
    "MQ10e030A10T40LRB2H189"⟩,
  ⟨["hanunoo", "hano"],
    "AZ5k",
    "AZ5m"⟩,
  ⟨["hatran", "hatr"],
    "AHC2i1154",
    ""⟩,
  ⟨["hebrew", "hebr"],
    "RM1W18q45IJz1p1410111119",
    "Ho1IkW18q45IJz1p1410111119"⟩,
  ⟨["hiragana", "hira"],
    "BCcV262Bx-2+8i0t2NFg0",
    "BAc2491cg510413V227w21IKT11w84a0N11BDM1+8i0t2NFg0"⟩,
  ⟨["imperialaramaic", "armi"],
    "ACC2l18",
    ""⟩,
  ⟨["inherited", "qaai", "zinh"],
    "AoP3V81Eeaq0An3xK4uBg21c16406031G6-1Mg1C6A1ZZ33L31FLT1fgdPu0C70wC40E+O1N12mAh2h726u3SwLoP7",
    "Po0201b1136202f111h1413QP11xK4uTnV11014Mg1C6vQIX1fgdPu0CIT1N12mAh2h726u3SwLoP7"⟩,
  ⟨["inscriptionalpahlavi", "phli"],
    "AxC2i57",
    ""⟩,
  ⟨["inscriptionalparthian", "prti"],
    "AwC2l27",
    ""⟩,
  ⟨["javanese", "java"],
    "AMK1N22941",
    "AMK1N21a41"⟩,
  ⟨["kaithi", "kthi"],
    "AEE2C2a0",
    "GL29BG90+Pu9GCqC2a0"⟩,
  ⟨["kannada", "knda"],
    "AE3c121m19142812137161132912",
    "RK21h1woc121m19142812137161132912y+301160n010xZC15"⟩,
  ⟨["katakana", "kana"],
    "BFcZ222Q7fQ6O11X2OAT191M1SCM13161110-82S10e3",
    "Fo0t0zGb2491cg51041x233-2Q7fQ6O11X2NXS11w8+1QCM13161110-82S10e3"⟩,
  ⟨["kawi"],
    "AYH2g1I13s",
    ""⟩,
  ⟨["kayahli", "kali"],
    "AIK1N110",
    "AIK1P1"⟩,
  ⟨["kharoshthi", "khar"],
    "AQC231157121s224978",
    ""⟩,
  ⟨["khitansmallscript", "kits"],
    "E-x20xY6VeJ10",
    ""⟩,
  ⟨["khmer", "khmr"],
    "Ay5z22969Gfv",
    ""⟩,
  ⟨["khojki", "khoj"],
    "AQE2h1O1",
    "GX29AKH19GOqh1O1"⟩,
  ⟨["khudawadi", "sind"],
    "QVE2w159",
    "EL21KWH19WTqw159"⟩,
  ⟨["kiratrai", "krai"],
    "AKx2Z1",
    ""⟩,
  ⟨["lao", "laoo"],
    "BU3110141n101m2410161923",
    ""⟩,
  ⟨["latin", "latn"],
    "B2p6pP10f05m1u1AeH14xQ6F16Q1535c1F2B2-7Rb0d0gcN4160r0hI1XW2vCVuF33C2211017ldQpK11813Wyj6wA1p" ++
    "6pFB251J118FwV1u65",
    "B2p6pP10c0205m1u1Ae30a01210901064re1110c0227111G10504cV81KG11Iz10EA3F16Q1535c1F2Z107-7P90B20" ++
    "d0gcT20Z1160r0hI1XW2vXc0IHu7qF33C2211017ldO90BgK11813Wyj6wA1p6pFB251J118FwV1u65"⟩,
  ⟨["lepcha", "lepc"],
    "AA7X13e32",
    ""⟩,
  ⟨["limbu", "limb"],
    "AI6u1b4b403b",
    "FL20wy3u1b4b403b"⟩,
  ⟨["lineara", "lina"],
    "AQB2W99la7",
    "HIA2M1MG1W99la7"⟩,
  ⟨["linearb", "linb"],
    "AAA2b1p1i111e2dC1w3",
    "AAA2b1p1i111e2dC1w3524M138"⟩,
  ⟨["lisu"],
    "QGJ1P1QVu0",
    "yl0g0yJb1EGtP1QVu0"⟩,
  ⟨["lycian", "lyci"],
    "AUA2s",
    "wC80FRY1s"⟩,
  ⟨["lydian", "lydi"],
    "AJC2p50",
    "X50ZLb0OXW1p50"⟩,
  ⟨["mahajani", "mahj"],
    "QKE2G1",
    "X50MF2bAWH19WIqG1"⟩,
  ⟨["makasar", "maka"],
    "AXH2o",
    ""⟩,
  ⟨["malayalam", "mlym"],
    "AI3c121S112154f2p",
    "RK21h1wsc121S112154f2pww30n0zZC12"⟩,
  ⟨["mandaic", "mand"],
    "AC2r20",
    "AS10-fr20"⟩,
  ⟨["manichaean", "mani"],
    "AWC2G14b",
    "AS10-DB2G14b"⟩,
  ⟨["marchen", "marc"],
    "QDH2v2l1d",
    ""⟩,
  ⟨["masaramgondi", "gonm"],
    "AIH26111L130111889",
    "EL21wyE26111L130111889"⟩,
  ⟨["medefaidrin", "medf"],
    "ASx2w2",
    ""⟩,
  ⟨["meeteimayek", "mtei"],
    "AXK1mJ6N129",
    ""⟩,
  ⟨["mendekikakui", "mend"],
    "AAw3E62f",
    ""⟩,
  ⟨["meroiticcursive", "merc"],
    "ANC2n4j2N1",
    ""⟩,
  ⟨["meroitichieroglyphs", "mero"],
    "AMC2v",
    "zC80CJw1v"⟩,
  ⟨["miao", "plrd"],
    "AYx2K24Y17g",
    ""⟩,
  ⟨["modi"],
    "AQF2E2b9",
    "QBK19GOrE2b9"⟩,
  ⟨["mongolian", "mong"],
    "AA61201j6Y27K1VN-1c",
    "AA6p6Y27K1Ey10R+3153USZ1c"⟩,
  ⟨["mro", "mroo"],
    "ASw2u1941",
    ""⟩,
  ⟨["multani", "mult"],
    "AUE2610131e1a",
    "GT29QAC2610131e1a"⟩,
  ⟨["myanmar", "mymr"],
    "AA4-4AKG1uB3vQCrj",
    "AA4-4OEG10R5uB3vQCrj"⟩,
  ⟨["nabataean", "nbat"],
    "AEC2u88",
    ""⟩,
  ⟨["nagmundari", "nagm"],
    "QGZ3J1",
    ""⟩,
  ⟨["nandinagari", "nand"],
    "ANG272N12a",
    "EL21As9Z-308070VZC15KLs72N12a"⟩,
  ⟨["newtailue", "talu"],
    "AM6L14p6a31",
    ""⟩,
  ⟨["newa"],
    "AAF2x214",
    ""⟩,
  ⟨["nko", "nkoo"],
    "A+1w122",
    "MQ10e030Adw122+Jz11"⟩,
  ⟨["nushu", "nshu"],
    "B-x20OMgLc",
    ""⟩,
  ⟨["nyiakengpuachuehmong", "hmnp"],
    "AIY3M13d2941",
    ""⟩,
  ⟨["ogham", "ogam"],
    "AU5s",
    ""⟩,
  ⟨["olchiki", "olck"],
    "QC7P1",
    ""⟩,
  ⟨["olonal", "onao"],
    "QOZ3K140",
    "EL21KDX3K140"⟩,
  ⟨["oldhungarian", "hung"],
    "AED2S1dS175",
    "wC8020TO30f0+RX1S1dS175"⟩,
  ⟨["olditalic", "ital"],
    "AYA2D192",
    ""⟩,
  ⟨["oldnortharabian", "narb"],
    "AUC2v",
    ""⟩,
  ⟨["oldpermic", "perm"],
    "QwA2K1",
    "X50Ii052a0Pb0MW-1K1"⟩,
  ⟨["oldpersian", "xpeo"],
    "AzA2D14d",
    ""⟩,
  ⟨["oldsogdian", "sogo"],
    "AYD2H1",
    ""⟩,
  ⟨["oldsoutharabian", "sarb"],
    "ATC2v",
    ""⟩,
  ⟨["oldturkic", "orkh"],
    "AAD2I2",
    "wC80VO30POX1I2"⟩,
  ⟨["olduyghur", "ougr"],
    "QxD2p",
    "AS10RFB20zD1p"⟩,
  ⟨["oriya", "orya"],
    "BY2217212l1611142821227241142h",
    "RK21h1xc217212l1611142821227241142hCL40n0"⟩,
  ⟨["osage", "osge"],
    "QFB2D14D1",
    "Bo02060M20XKA2D14D1"⟩,
  ⟨["osmanya", "osma"],
    "AEB2t29",
    ""⟩,
  ⟨["pahawhhmong", "hmng"],
    "AYw2F2a9161k5i",
    ""⟩,
  ⟨["palmyrene", "palm"],
    "ADC2v",
    ""⟩,
  ⟨["paucinhau", "pauc"],
    "AWG2Y1",
    ""⟩,
  ⟨["phagspa", "phag"],
    "ACK1X1",
    "CA6110JB20S+30zBuX1"⟩,
  ⟨["phoenician", "phnx"],
    "AIC2r30",
    ""⟩,
  ⟨["psalterpahlavi", "phlp"],
    "AyC2h73c6",
    "AS10-JB2h73c6"⟩,
  ⟨["rejang", "rjng"],
    "QJK1D1b0",
    ""⟩,
  ⟨["runic", "runr"],
    "AV5K23a",
    "AV5Y2"⟩,
  ⟨["samaritan", "samr"],
    "AA2N12e",
    "AA2N12eSP90"⟩,
  ⟨["saurashtra", "saur"],
    "AEK1F28b",
    ""⟩,
  ⟨["sharada", "shrd"],
    "AME2-2",
    "RK20Fy40102120PwC1520HKq-2"⟩,
  ⟨["shavian", "shaw"],
    "QCB2P1",
    "X50YyA2P1"⟩,
  ⟨["siddham", "sidd"],
    "AMF2V12F1",
    ""⟩,
  ⟨["signwriting", "sgnw"],
    "AAW3Lkf41e",
    ""⟩,
  ⟨["sinhala", "sinh"],
    "BM321h3n181026304510176922M-A2j",
    "EL21xA121h3n181026304510176922zX30OHz1j"⟩,
  ⟨["sogdian", "sogd"],
    "QZD2J1",
    "AS10PHC2J1"⟩,
  ⟨["sorasompeng", "sora"],
    "QGE2o79",
    ""⟩,
  ⟨["soyombo", "soyo"],
    "QSG2S2",
    ""⟩,
  ⟨["sundanese", "sund"],
    "Ay6-1A87",
    ""⟩,
  ⟨["sunuwar", "sunu"],
    "A+G2B1e9",
    "Ao1109020s030OEG2B1e9"⟩,
  ⟨["sylotinagri", "sylo"],
    "AAK1M1",
    "EL21A49QQH1M1"⟩,
  ⟨["syriac", "syrc"],
    "AY1d1x122Q8a",
    "Do12110l0227110xm0e120A10aaq0P4d1x122Q8aNM5010"⟩,
  ⟨["tagalog", "tglg"],
    "AY5l90",
    "AY5l90l1"⟩,
  ⟨["tagbanwa", "tagb"],
    "Ax5c1211",
    "VZ51J1c1211"⟩,
  ⟨["taile", "tale"],
    "QK6t24",
    "Ao15130TJ39GI2t24"⟩,
  ⟨["taitham", "lana"],
    "AR6+11s2a696d",
    ""⟩,
  ⟨["taiviet", "tavt"],
    "AUK1C2o4",
    ""⟩,
  ⟨["takri", "takr"],
    "AUF2Z169",
    "EL21KWH19GSrZ169"⟩,
  ⟨["tamil", "taml"],
    "Cy2115321331101131323b4432132060ekF+E2R1d0",
    "RK21h1yg115321331101131323b4432132060ek-G40YAD10NQq010X11DE3R1d0"⟩,
  ⟨["tangsa", "tnsa"],
    "QTw2O219",
    ""⟩,
  ⟨["tangut", "tang"],
    "A-x20vX-58-nAg8",
    "Q-bfPf0QPP20vX-58-nAg8"⟩,
  ⟨["telugu", "telu"],
    "AA3c121m1f281213711220232978",
    "RK21h1wkc121m1f281213711220232978wC40n0"⟩,
  ⟨["thaana", "thaa"],
    "Ay1R1",
    "MQ10e120A29W8R1ASz10a0"⟩,
  ⟨["thai"],
    "BQ3Z15r",
    "yl0q0L10N10PW2Z15r"⟩,
  ⟨["tibetan", "tibt"],
    "AY3H21D14G11D11e1641",
    "AY3H21D14G11D11e1641NB83"⟩,
  ⟨["tifinagh", "tfng"],
    "QJbX171e0",
    "Co0102010GRaX171e0"⟩,
  ⟨["tirhuta", "tirh"],
    "AEF2H289",
    "RK21h1My40zZC19GCrH289"⟩,
  ⟨["todhri", "todr"],
    "AOB2T1",
    "Bo020209010K20BTA2T1"⟩,
  ⟨["toto"],
    "QUY3u",
    "yl0T+X3u"⟩,
  ⟨["tulutigalari", "tutg"],
    "AyE2910201F119102013191181",
    "GH39CA4010xZC15x50OUq910201F119102013191181"⟩,
  ⟨["ugaritic", "ugar"],
    "AyA2t10",
    ""⟩,
  ⟨["vai", "vaii"],
    "AIJ1L9",
    ""⟩,
  ⟨["vithkuqi", "vith"],
    "QLB2a1e16111a1e1611",
    ""⟩,
  ⟨["wancho", "wcho"],
    "AWY3Z150",
    ""⟩,
  ⟨["warangciti", "wara"],
    "AFG2S2c0",
    ""⟩,
  ⟨["yezidi", "yezi"],
    "AUD2J11221",
    "MQ10e030A29WAC2J11221"⟩,
  ⟨["yi", "yiii"],
    "AAI1ME13W1",
    "BAc15927-60EYrME13W1wUm4"⟩,
  ⟨["zanabazarsquare", "zanb"],
    "AQG2H2",
    ""⟩]

/-- The characters whose script has this canonical name. -/
def script? (name : String) : Option CharSet :=
  (scripts.find? (fun entry => name ∈ entry.names)).map (fun entry => RangeTable.decode entry.own)

/-- The characters that are used with the script of this canonical name. -/
def scriptExtensions? (name : String) : Option CharSet :=
  (scripts.find? (fun entry => name ∈ entry.names)).map fun entry =>
    RangeTable.decode (if entry.extended.isEmpty then entry.own else entry.extended)

end Tollgate.Unicode
