import Tollgate.Unicode.RangeTable

/-!
# Ages

The version of Unicode that first assigned each character. A query for an age means "assigned in
that version or before", so it is a union over a prefix of the list.
-/

namespace Tollgate.Unicode

/-- The versions in order, each with the characters it added. -/
def ages : List NamedRanges := [
  ⟨["1.1", "v11"],
    "0Vf4tY1Y27O119mF2q1i1403056101j1L116301010101hdb1B21b1I19U121213r2721X1F1261G110G1918cq54n0e" ++
    "0301p5idd2H2241e1t29Hg21U12h243og217212l161033201621229041142k7025412l1611111120144122b3107e" ++
    "c21610121l16111429121220f059h217212l1611232731228141124ah11532133110113132371244321390fbe217" ++
    "121m1914461213719149i117121m191446121371701149i117121m1f452213908149R4Z14sF11102110206316121" ++
    "010211c122410152921CeF1aG1404Z25D25R2GA3w45Z26l252F125271010101u2U11e1d251i22181O11mD163qhaF" ++
    "1huY1qP1dw2lR7e01Y3F4E1ralK4lV4aP2gj6V2R43132r1C11013301626eu3n1dBC2X1701T2452z26H14z21fA3s3" ++
    "D1sr3R1fb4O11W34C32uBQ6FNkwCgNR6S66c46o141011111L3B1Mbg-12V1I1bE13ck491i1342101G4201z22z2352" ++
    "525223616e2"⟩,
  ⟨["2.0", "v20"],
    "RM1g1ck0xJ2H21A17q45101k3610BX30Pg0UwC1DzawCK21+--11+--11+--11+--11+--11+--11+--11+--11+--11" ++
    "+--11+--11+--11+--1BAA4"⟩,
  ⟨["2.1", "v21"],
    "MF80PwX10"⟩,
  ⟨["3.0", "v30"],
    "Wf3u72hV34R10a4X28j0U3030101010u0c0C20c0K1123y21y40I62C3150f0K141d1t3qV1Q1RO111h3n1810263045" ++
    "1017i2Vb0L10n270121e20Q1B1141116336pGd61+110132610132G110132u101326101326161m1u1013261G11i6r" ++
    "D1U2cVj9s3Q2P4y239me196X28J1Fy10o5-22S11V21I20H38N80Z301tK41Je7B10W21Oc-7AM1p1Y2cV6qby1230Bb" ++
    "nIiVN6KSkME13h2f1b1210WSl0xG12"⟩,
  ⟨["3.1", "v31"],
    "Uv1wO+1vQI1u13cqV5F12F1SzS1V7aG13T5ChU21G2112021231b1013111A21327161r131410361Ra4B94R1AAaWWJ" ++
    "1JJkzgDPBm0u-2"⟩,
  ⟨["3.2", "v32"],
    "Ah0O90jcI31s0T41Z112121R1f+a1Ba0FK21HQ1c16bm9jcc1211TG20644074d0+11S16S2eI5bS7dy30uT1y8jX49Y" ++
    "27m1w2b29+6dw2r4fA8-fxJ12X2181+20Q7fR2eR2eCPs1g0c030KLlw1Rs03fV11M10L71"⟩,
  ⟨["4.0", "v40"],
    "Bh0i2X31-1gQ2752X44Eg398A22V41f0N12t2Ud0Y50D2010I40U22d0D20x10B47B61-Y20i9G8s3b4b403J124L3vA" ++
    "oL3Hn1G70Tk1O90U81U37e1+C1dPY11R10L11O23H53D31v0AO6-1z-L10J21Xdb1p1i111e2dC1w3524M138Ait10G4" ++
    "1G1P229Wq5201L1113020AWS1W2Kb0+BLoP7"⟩,
  ⟨["4.1", "v41"],
    "XhaW84-43W71K50C12D20i0w15R7tPg0Q20Hf0P10Jv1H9110K80-10-10H10v0v0v0f0H10n1vpGP1J16p6941A1r21" ++
    "MqX2Rk116R14t3V10Q20f0Ekayh0F31ia5fO86Hq5M7O11O1B1K3eM1aV190gm9616161616161616B1n41CtfO50HJr" ++
    "lEw1mJ7L1ESkJ3Wp9GpK2VgD14dKR131157121q424888HzR1F2+C11"⟩,
  ⟨["5.0", "v50"],
    "CidL92Ra0K15g3G50Fgw1Ac111Cr1d1NQ3L24M1Hi6T11Mn3z21V10XibKm0U83Jq653y9c73-Uu351+8X1IEop50AX5" ++
    "OrR4C3d3MXL1hYC11"⟩,
  ⟨["5.1", "v51"],
    "Qr321X20X50M4fC74b4A14O9hRf1+60D10O60t1M30M30q181k7z5060t1c536Lf1B3032N2050207245q-141KA20Vm" ++
    "K13bG2X13e3S1LarV53w25Eb0L40+20V13UI10l933I80v3Lp44I134Y821245Cbvo32iyn0C5jYOr7yJ1L9kv2h8rD4" ++
    "42K3O34A4E29bG1T2b0A5W19d2923E+k2JrbU1N1C4s3Q1PS1p50J-R10WW7L14D3"⟩,
  ⟨["5.2", "v52"],
    "EJ11wmN12eB60N2060D11A40ZO13B63y54E24S25Ag0Wj8QhF2U51O10F2+11s2a696dChC1K80Yl2X42W10+i0Vl1t2" ++
    "491i104nX20zv4W80d1L36-90SA1bULr7EI1P1AdX2Y99G5rE3s3N21a41A4r4C2o4A7N129Wzam4Q1PT82SO3l18w51" ++
    "EavA4V13s2q57A4I2XguBgB2+Z7OB1RGP1a5u20b0102030348070p01120a320P30fB1e8XFN1UB4"⟩,
  ⟨["6.0", "v60"],
    "GJ11Y70+10Afr20x61j061r4wf5Rd0g0j0zh3J21Cs1BD2T183yf0Yk7s0Ppawm0j013t041s0D10104291U12o0e0e1" ++
    "AN10e0YB12FFt1L9111e9Q20Go525259616DEkf+B5N24tQylYhHOh1+Ege2d2e1eQ201a1011121257161968102119" ++
    "4119L2p11P18l1O5A1f51F23jcE114lgf+1101V5133z1inT441f1210101012152310231b4aQ1F2w1T3M+P1z6"⟩,
  ⟨["6.1", "v61"],
    "PM10U30xk01aX1qRf0Nv1Hf050P12LV22c5A87L13UW2010EJ11T1050Y11K69QMs0HV17D10S71m0N21GnmXZj1Qw3X" ++
    "161QY1o796U11dy1I279GF1X189WBmE2bO1ggATv31q1110201913101060401010121110201010101011102316131" ++
    "310191g52141gU11Yj1Uu3y50g0301010103061401140"⟩,
  ⟨["6.2", "v62"],
    "wF80"⟩,
  ⟨["6.3", "v63"],
    "yQ10JS63"⟩,
  ⟨["7.0", "v70"],
    "-r0Id7z21W30xk0b5M20Y3070-j0T10M20-30E79BI27Eh1RceZh1N7eFm2Wp6Fo0MC12ap2v2B13b17Kj6VCu5W7bb2" ++
    "21F20Ifuz33Q5P141BWk6zq1j0-9rD10Q1K1FcH18T1b0Q4W99la7Y7+188QevA1G14bJ4h73c6PG10Q6G1W20c06jbh" ++
    "1K1S3w1597217212l16111428212290562634L8H289G5V12hW1E2b9GiS2c0AeY1WD2J1K6b50LOhu1941A3t25aF2a" ++
    "9161k5iQDkK35c387927ywaE62fI-10A1ll1Ugb90G20mbF10535bh6H2010W5041-1146th1I11V2G21dP1G29gc33M" ++
    "4U2L1b4X1896H18t"⟩,
  ⟨["8.0", "v80"],
    "TF21O10Vg0Ab0E80VU1025AG30L61AT23z+s8IW10Q70C15Ea1Cj3cP2OTk1QV2i1154y512f2N1AkS1dS175JG13e4A" ++
    "5610131e1aW20P20ZjjC9p3e4fZC30G7D6yV7GiXyC1aXQ1Lkf41ezD62O21P24E17-70L24T71L40-h8H34x10-SP1B" ++
    "U5"⟩,
  ⟨["9.0", "v90"],
    "WF27mezs0O604216n2HY38Sb0-P13ES21JLu0W80HGm1BpD14D1CK30BeZ21010CgcTM181M11das3v2l1dJZk0vM-5j" ++
    "SnNIl61g261114VG2K25941xB2hO40+p0J10M91B12Ch517802b1b4eG1c"⟩,
  ⟨["10.0", "v100"],
    "AD2aRc1y75Ag0w11wz30+73Fm0-p0S+10Sj4En0HVrkCwo2QW5H28T12m14zi6111L130111889HUk0ABgy8R2LcExf5" ++
    "ND11C11Hgbj08711p0icG15Y1mJGV1QJ7"⟩,
  ⟨["11.0", "v110"],
    "AL10H10G30Ng2T60K90X30Nc0-30T-20XA1K122wX32mo4eLi4An0xVr4-z1081Ea1UJo1i0XlH189GeH18J1Tb0W32U" ++
    "f0C90xl0F7x1Bj0Cm5111E1111579W9oHwjw2SK64OXij+36YH6D2wD10JO10x63Ub2s4233013oad971E1oA3d"⟩,
  ⟨["12.0", "v120"],
    "XD30Og020201540707120d0-R30OW30V10Pi0KLu524-s1YDpmID10Yi0Hn72N12a-41wJ1R1d0QB58MYe540P18w21O" ++
    "A65YKa2h3YybM13d2941QbZ150LS10Vty1OB10IL10E10F7bB92P10R1090J1531a53722Q1T2s34252d5"⟩,
  ⟨["12.1", "v121"],
    "-Xc0"⟩,
  ⟨["13.0", "v130"],
    "+F29Nk0Od0y30zJ31WG40Yl2Ir4W-69QRkcK+13K11V10xp3QRl0DH3J11221+7rxb0G41Kk051+E162027111t112b9" ++
    "9WS10TBk0b1BY6CfK18EAp2z22z10IJ11D11Td1w20F3041K1162t0I50e3fi7692d6J1S41W1F19zWK16CJmKw4"⟩,
  ⟨["14.0", "v140"],
    "zQ10Siu1167l0iaJr0A10-30PR207090P70Rldz30Q11xj0Fm0Ox20P10Tfa-Ms2A+11e11014o2N+k0zbf-30O11Qx1" ++
    "a1e16111a1e1611De51J118Vz1pG75M20WP10G46JrfQG5C3zTeO219GJh31611A93zO7N12m9T3Fh1VI3uRruRJ1613" ++
    "111e+W32Q80Ic0S20O51M13a382h26786H-K11VC43"⟩,
  ⟨["15.0", "v150"],
    "TH30we0OBA22-p2+F29Wvg1I13rVG509syGv0C10KL8jRC35F8z1B10AC1J1CP40X4244Z20xk2f1E12b210e1a1c0e1" ++
    "ACP10WAn-C4"⟩,
  ⟨["15.1", "v151"],
    "y-b3Pf0AQO5Nj"⟩,
  ⟨["16.0", "v160"],
    "XE20WV41P10J81yy12wN31FPt2c2DPnT1Mw1F13s81S92X10DE1910201F119102013191181NnjyG1B1e9Ar0FI5wy3" ++
    "FI7Z1GA3Z1Fy70AYfZ76TdyY5K140SV4941He050O1070l02090B7E1"⟩]

/-- The characters that were assigned in the named version or before. -/
def assignedBy? (name : String) : Option CharSet :=
  match ages.findIdx? (fun entry => name ∈ entry.names) with
  | some i => some ((ages.take (i + 1)).foldl (fun set entry => set.union entry.set) .empty)
  | none => none

end Tollgate.Unicode
