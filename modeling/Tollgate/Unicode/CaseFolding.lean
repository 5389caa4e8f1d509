import Tollgate.Unicode.RangeTable

/-!
# Simple case folding

The classes of characters that simple case folding identifies, and the closure of a character set
under them.
-/

namespace Tollgate.Unicode

/-- The classes with at least two members, ascending by their least member. A class is written as
its size less two, the distance of its least member from that of the class before, and the
distances from each member to the next. -/
def foldingTable : String :=
    "0B2A101A101A101A101A101A101A101A101A101A111A1-F801A101A101A101A101A101A101A111A1M801A101A101" ++
    "A101A101A101A101A11x2HnA10bA101A101A101A101A111A1GC801A101A101A101A101A101A101A101A101A101A1" ++
    "01A101A101A101A101A101A101A102A101A101A101A101A101A101A101-N70A1Z301102102102102102102102102" ++
    "10210210210210210210210210210210210210210210210410210210310210210210210210210210310210210210" ++
    "2102102102102102102102102102102102102102102102102102102103102102103D601S601102102O601102N601" ++
    "N601103P201K601L601102N601P601B301T601R601102D501BSJ101T601V601C401W601102102102w601102w6031" ++
    "02w601102Z601Z601102102x601104103Y1151113111311031021021021021021021021031021021021021021021" ++
    "02102113110310410210210210210210210210210210210210210210210210210210210210410210210210210210" ++
    "2102102108LRa01103IRa01-Ra01-Ra01103F201H201102102102102102-Qa01yQa01+Qa0aPKJ105LKJ103HLJ101" ++
    "IJJ101EKJ104EKJ101XPa01BKJ105zPa0cHPa05DKJ105KJJ10mVIJ101SIJ12H5U2A1FA70L1102104105C401C401C" ++
    "402U307G102F101F101F102A202-101-101DC701A111A1u01A101A111A1A201A101A121A1pD112A1W101A102A101" ++
    "A101A111A1m11A1Q112v101A101A111A1f01A101A111A1zK701A101A105TB70v8091021021021021021021021021" ++
    "02102102104705103106Q201Q201Q201Q201Q201Q201Q201Q201Q201Q201Q201Q201Q201Q201Q201Q201A101A111" ++
    "A1OC601A111A1NC601A101A101A101A101A101A101A101A101A111A1EC601A101A111A1CC621A1CC6101A101A101" ++
    "A101A101A101A101A111A1yB601A101A101A101A101A10R11121EB60210210210210210210210210210210210210" ++
    "210210210a102102102102102102102102102102102102102102102102102102102102102102102102102102102f" ++
    "01102102102102102102103102102102102102102102102102102102102102102102102102102102102102102102" ++
    "102102102102102102102102102102102102102102102102102102102102102102102102103Q101Q101Q101Q101Q" ++
    "101Q101Q101Q101Q101Q101Q101Q101Q101Q101Q101Q101Q101Q101Q101Q101Q101Q101Q101Q101Q101Q101Q101Q" ++
    "101Q101Q101Q101Q101Q101Q101Q101Q101Q101Q10Kw2AD701AD701AD701AD701AD701AD701AD701AD701AD701AD" ++
    "701AD701AD701AD701AD701AD701AD701AD701AD701AD701AD701AD701AD701AD701AD701AD701AD701AD701AD70" ++
    "1AD701AD701AD701AD701AD701AD701AD701AD701AD701AD702AD706AD703A+201A+201A+201A+201A+201A+201A" ++
    "+201A+201A+201A+201A+201A+201A+201A+201A+201A+201A+201A+201A+201A+201A+201A+201A+201A+201A+2" ++
    "01A+201A+201A+201A+201A+201A+201A+201A+201A+201A+201A+201A+201A+201A+201A+201A+201A+201A+203" ++
    "A+201A+201A+20BlQ+F101Q+F101Q+F101Q+F101Q+F101Q+F101Q+F101Q+F101Q+F101Q+F101Q+F101Q+F101Q+F1" ++
    "01Q+F101Q+F101Q+F101Q+F101Q+F101Q+F101Q+F101Q+F101Q+F101Q+F101Q+F101Q+F101Q+F101Q+F101Q+F101" ++
    "Q+F101Q+F101Q+F101Q+F101Q+F101Q+F101Q+F101Q+F101Q+F101Q+F101Q+F101Q+F101Q+F101Q+F101Q+F101Q+" ++
    "F101Q+F101Q+F101Q+F101Q+F101Q+F101Q+F101Q+F101Q+F101Q+F101Q+F101Q+F101Q+F101Q+F101Q+F101Q+F1" ++
    "01Q+F101Q+F101Q+F101Q+F101Q+F101Q+F101Q+F101Q+F101Q+F101Q+F101Q+F101Q+F101Q+F101Q+F101Q+F101" ++
    "Q+F101Q+F101Q+F101Q+F101Q+F101Q+F10180180180180180181TE2COC110110Q7EQC104GX30hYRC10S31021021" ++
    "02102102102102102102102102102102102102102102102102102102102102102102102102102102102102102102" ++
    "1021021021021021021021021021021021021021021121w102102102102102102102102102102102102102102102" ++
    "10210210210210210210210210210210210c10210210210210210210210210210210210210210210210210210210" ++
    "21021021021021021021021021021021021021021021021021021021021021021021021021021021021021028018" ++
    "0180180180180180180980180180180180180b801801801801801801801809801801801801801801801809801801" ++
    "80180180180c802802802809801801801801801801801809K201K201W201W201W201W201E301E301A401A401Q301" ++
    "Q301+301+30380180180180180180180180980180180180180180180180980180180180180180180180980180290" ++
    "g90d80180f80180470e90-9s0O1g01g01g01g01g01g01g01g01g01g01g01g01g01g01g01g0k10Tpq01q01q01q01q" ++
    "01q01q01q01q01q01q01q01q01q01q01q01q01q01q01q01q01q01q01q01q01q0RZ1Q101Q101Q101Q101Q101Q101Q" ++
    "101Q101Q101Q101Q101Q101Q101Q101Q101Q101Q101Q101Q101Q101Q101Q101Q101Q101Q101Q101Q101Q101Q101Q" ++
    "101Q101Q101Q101Q101Q101Q101Q101Q101Q101Q101Q101Q101Q101Q101Q101Q101Q101Q10R11071021021071031" ++
    "0b102102102102102102102102102102102102102102102102102102102102102102102102102102102102102102" ++
    "10210210210210210210210210210210210210210210210210210210210910210510OKu102102102102104102102" ++
    "10210210210210210210210210210210210210210210k10210210210210210210210210210210210210210I41021" ++
    "02102102102102104102102102102102102102102102102102102102102102102102102102102102102102102102" ++
    "10210210210210210b102103102102102102105105102102Q10210210210210210210210210210210bAt01102102" ++
    "10210210210210210510210310410610210210r10QYk10yA1A101A101A101A101A101A101A101A101A101A101A10" ++
    "1A101A101A101A101A101A101A101A101A101A101A101A101A101A101A10GG1I101I101I101I101I101I101I101I" ++
    "101I101I101I101I101I101I101I101I101I101I101I101I101I101I101I101I101I101I101I101I101I101I101I" ++
    "101I101I101I101I101I101I101I101I101I10J4I101I101I101I101I101I101I101I101I101I101I101I101I101" ++
    "I101I101I101I101I101I101I101I101I101I101I101I101I101I101I101I101I101I101I101I101I101I101I10z" ++
    "4H101H101H101H101H101H101H101H101H101H101H102H101H101H101H101H101H101H101H101H101H101H101H10" ++
    "1H101H101H102H101H101H101H101H101H101H102H101H10LX1A201A201A201A201A201A201A201A201A201A201A" ++
    "201A201A201A201A201A201A201A201A201A201A201A201A201A201A201A201A201A201A201A201A201A201A201A" ++
    "201A201A201A201A201A201A201A201A201A201A201A201A201A201A201A201A201A20+4A101A101A101A101A101" ++
    "A101A101A101A101A101A101A101A101A101A101A101A101A101A101A101A101A10xZ2A101A101A101A101A101A1" ++
    "01A101A101A101A101A101A101A101A101A101A101A101A101A101A101A101A101A101A101A101A101A101A101A1" ++
    "01A101A101A10BMlA101A101A101A101A101A101A101A101A101A101A101A101A101A101A101A101A101A101A101" ++
    "A101A101A101A101A101A101A101A101A101A101A101A101A10BVuC101C101C101C101C101C101C101C101C101C1" ++
    "01C101C101C101C101C101C101C101C101C101C101C101C101C101C101C101C101C101C101C101C101C101C101C1" ++
    "01C1"

/-- The first `count` members after `last`, given by their distances, in front of what follows. -/
def readMembers : Nat → Nat → List Nat → List Nat × List Nat
  | 0, _, numbers => ([], numbers)
  | _ + 1, _, [] => ([], [])
  | count + 1, last, step :: numbers =>
    let (members, rest) := readMembers count (last + step) numbers
    ((last + step) :: members, rest)

/-- The classes written by a list of numbers, at most `fuel` of them. -/
def readClasses : Nat → Nat → List Nat → List (List Nat)
  | fuel + 1, previous, size :: step :: numbers =>
    let least := previous + step
    let (members, rest) := readMembers (size + 1) least numbers
    (least :: members) :: readClasses fuel least rest
  | _, _, _ => []

/-- The classes of simple case folding that have at least two members. -/
def foldingClasses : List (List Nat) :=
  let numbers := RangeTable.numbers foldingTable
  readClasses numbers.length 0 numbers

/-- The set with every character that folds to the same as one of its members. -/
def foldCase (set : CharSet) : CharSet :=
  let additions := foldingClasses.filter (fun members => members.any set.containsCode)
  set.union (.ofRanges (additions.flatMap (fun members => members.map (fun c => (c, c)))))

/-- The set with every ASCII letter whose other case is a member. -/
def foldAsciiCase (set : CharSet) : CharSet :=
  let letters := (List.range 26).filter fun i =>
    set.containsCode (0x41 + i) || set.containsCode (0x61 + i)
  set.union (.ofRanges (letters.flatMap (fun i => [(0x41 + i, 0x41 + i), (0x61 + i, 0x61 + i)])))

end Tollgate.Unicode
