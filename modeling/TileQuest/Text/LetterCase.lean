import TileQuest.Text.CaseIgnorable

/-!
# Letter case

The case mappings of the Unicode character database, as ranges of code points that move by the same
amount. `Text.titleCase` writes the first letter of every word large and the others small, and
`Text.lowerAscii` folds case for a search of plain words.
-/

namespace TileQuest.Text

/-- Letters that move together: in every range the code points at multiples of `stride` from the
first one, each by `shift`. -/
structure CaseShift where
  stride : Nat
  shift : Int
  ranges : List (Nat × Nat)

namespace CaseShift

/-- The code point is one of those that move. -/
def moves (s : CaseShift) (n : Nat) : Bool :=
  s.ranges.any fun r => r.1 ≤ n && n ≤ r.2 && (n - r.1) % s.stride == 0

def image? (s : CaseShift) (n : Nat) : Option Nat :=
  if s.moves n then some (n + s.shift).toNat else none

def source? (s : CaseShift) (n : Nat) : Option Nat :=
  let m := (n - s.shift).toNat
  if s.moves m then some m else none

end CaseShift

/-! ## The mappings -/

/-- From the large letters to the small ones, as far as the small letters go back to them. -/
def shifts : List CaseShift :=
  [⟨1,32,[(65,90),(192,214),(216,222),(913,929),(932,939),(1040,1071),(65313,65338),(71840,71871),
    (93760,93791)]⟩,⟨2,1,[(256,302),(306,310),(313,327),(330,374),(377,381),(386,388),(391,391),
    (395,395),(401,401),(408,408),(416,420),(423,423),(428,428),(431,431),(435,437),(440,440),
    (444,444),(453,453),(456,456),(459,475),(478,494),(498,500),(504,542),(546,562),(571,571),
    (577,577),(582,590),(880,882),(886,886),(984,1006),(1015,1015),(1018,1018),(1120,1152),
    (1162,1214),(1217,1229),(1232,1326),(7680,7828),(7840,7934),(8579,8579),(11360,11360),
    (11367,11371),(11378,11378),(11381,11381),(11392,11490),(11499,11501),(11506,11506),
    (42560,42604),(42624,42650),(42786,42798),(42802,42862),(42873,42875),(42878,42886),
    (42891,42891),(42896,42898),(42902,42920),(42932,42946),(42951,42953),(42960,42960),
    (42966,42968),(42997,42997)]⟩,⟨1,-130,[(544,544),(1021,1023)]⟩,⟨1,37,[(904,906)]⟩,⟨1,64,
    [(908,908),(68736,68786)]⟩,⟨1,8,[(975,975),(5104,5109)]⟩,⟨1,80,[(1024,1039)]⟩,⟨1,48,
    [(1329,1366),(11264,11311)]⟩,⟨1,7264,[(4256,4293),(4295,4295),(4301,4301)]⟩,⟨1,38864,
    [(5024,5103)]⟩,⟨1,-8,[(7944,7951),(7960,7965),(7976,7983),(7992,7999),(8008,8013),(8025,8025),
    (8027,8027),(8029,8029),(8031,8031),(8040,8047),(8072,8079),(8088,8095),(8104,8111),(8120,8121),
    (8152,8153),(8168,8169)]⟩,⟨1,-86,[(8136,8139)]⟩,⟨1,16,[(8544,8559)]⟩,⟨1,26,[(9398,9423)]⟩,⟨1,40,
    [(66560,66599),(66736,66771)]⟩,⟨1,39,[(66928,66938),(66940,66954),(66956,66962),(66964,66965)]⟩,
    ⟨1,34,[(125184,125217)]⟩]

/-- The Georgian capitals. The small letters do not go back to them at the start of a word. -/
def georgian : CaseShift := ⟨1, -3008, [(7312, 7354), (7357, 7359)]⟩

/-- The large letters that go to their small ones alone. -/
def smallPairs : List (Nat × Nat) :=
  [(376,255),(385,595),(390,596),(393,598),(394,599),(398,477),(399,601),(400,603),(403,608),
    (404,611),(406,617),(407,616),(412,623),(413,626),(415,629),(422,640),(425,643),(430,648),
    (433,650),(434,651),(439,658),(452,454),(455,457),(458,460),(497,499),(502,405),(503,447),
    (570,11365),(573,410),(574,11366),(579,384),(580,649),(581,652),(895,1011),(902,940),(910,973),
    (911,974),(1012,952),(1017,1010),(1216,1231),(7838,223),(8122,8048),(8123,8049),(8124,8115),
    (8140,8131),(8154,8054),(8155,8055),(8170,8058),(8171,8059),(8172,8165),(8184,8056),(8185,8057),
    (8186,8060),(8187,8061),(8188,8179),(8486,969),(8490,107),(8491,229),(8498,8526),(11362,619),
    (11363,7549),(11364,637),(11373,593),(11374,625),(11375,592),(11376,594),(11390,575),
    (11391,576),(42877,7545),(42893,613),(42922,614),(42923,604),(42924,609),(42925,620),
    (42926,618),(42928,670),(42929,647),(42930,669),(42931,43859),(42948,42900),(42949,642),
    (42950,7566)]

/-- The letters that start a word in a form whose small letter is another one. -/
def largePairs : List (Nat × Nat) :=
  [(181,924),(305,73),(383,83),(452,453),(455,456),(458,459),(497,498),(837,921),(962,931),
    (963,931),(976,914),(977,920),(981,934),(982,928),(1008,922),(1009,929),(1013,917),(7296,1042),
    (7297,1044),(7298,1054),(7299,1057),(7300,1058),(7301,1058),(7302,1066),(7303,1122),
    (7304,42570),(7835,7776),(8126,921)]

/-- The letters that become several at the start of a word. -/
def largeExpansions : List (Nat × List Nat) :=
  [(223,[83,115]),(329,[700,78]),(496,[74,780]),(912,[921,776,769]),(944,[933,776,769]),
    (1415,[1333,1410]),(7830,[72,817]),(7831,[84,776]),(7832,[87,778]),(7833,[89,778]),
    (7834,[65,702]),(8016,[933,787]),(8018,[933,787,768]),(8020,[933,787,769]),(8022,[933,787,834]),
    (8114,[8122,837]),(8116,[902,837]),(8118,[913,834]),(8119,[913,834,837]),(8130,[8138,837]),
    (8132,[905,837]),(8134,[919,834]),(8135,[919,834,837]),(8146,[921,776,768]),
    (8147,[921,776,769]),(8150,[921,834]),(8151,[921,776,834]),(8162,[933,776,768]),
    (8163,[933,776,769]),(8164,[929,787]),(8166,[933,834]),(8167,[933,776,834]),(8178,[8186,837]),
    (8180,[911,837]),(8182,[937,834]),(8183,[937,834,837]),(64256,[70,102]),(64257,[70,105]),
    (64258,[70,108]),(64259,[70,102,105]),(64260,[70,102,108]),(64261,[83,116]),(64262,[83,116]),
    (64275,[1348,1398]),(64276,[1348,1381]),(64277,[1348,1387]),(64278,[1358,1398]),
    (64279,[1348,1389])]

def cased : CharClass :=
  [65,26,6,26,47,1,10,1,4,1,5,23,1,31,1,195,1,4,4,208,1,36,7,2,30,5,96,1,42,4,2,2,2,4,1,1,6,1,1,3,1,
    1,1,20,1,83,1,139,8,166,1,38,9,41,2839,38,1,1,5,1,2,43,2,3,672,86,2,6,2178,9,7,43,2,3,64,192,64,
    278,2,6,2,38,2,6,2,8,1,1,1,1,1,1,1,31,2,53,1,7,1,1,3,3,1,7,3,4,2,6,4,13,5,3,1,7,116,1,13,1,16,
    13,101,1,4,1,2,10,1,1,3,5,6,1,1,1,1,1,1,4,1,6,4,1,2,4,5,5,4,1,17,32,3,2,817,52,1814,229,6,4,3,2,
    12,38,1,1,5,1,30994,46,18,30,132,102,3,4,1,59,5,2,1,1,1,5,27,2,1,3,821,43,1,13,7,80,20288,7,12,
    5,1033,26,6,26,1189,80,96,36,4,36,116,11,1,15,1,7,1,2,1,11,1,15,1,7,1,2,451,1,2,3,1,42,1,9,1221,
    51,13,51,2989,64,21856,64,25984,85,1,71,1,2,2,1,2,2,2,4,1,12,1,1,1,7,1,65,1,4,2,8,1,7,1,28,1,4,
    1,5,1,1,3,7,1,340,2,25,1,25,1,31,1,25,1,31,1,25,1,31,1,25,1,31,1,25,1,8,1844,10,1,20,2529,68,
    2028,26,6,26,6,26]

/-! ## Case of a character -/

/-- The form of a letter at the start of a word: one of its own, or else the letter whose small form
it is. -/
def large (c : Char) : List Char :=
  match largeExpansions.find? (·.1 == c.toNat) with
  | some e => e.2.map Char.ofNat
  | none =>
    match largePairs.find? (·.1 == c.toNat) with
    | some p => [Char.ofNat p.2]
    | none =>
      match shifts.findSome? (·.source? c.toNat) with
      | some n => [Char.ofNat n]
      | none => [((smallPairs.find? (·.2 == c.toNat)).map (Char.ofNat ·.1)).getD c]

/-- The first character that letter case does not look past has case. -/
def casedComes (cs : List Char) : Bool :=
  ((cs.find? fun c => !caseIgnorable.holds c).map cased.holds).getD false

/-- The small form of a capital sigma: one of its own at the end of a word, where a letter comes
before it and none after it. -/
def smallSigma (before after : List Char) : Char :=
  Char.ofNat (if casedComes before && !casedComes after then 0x3c2 else 0x3c3)

/-- The form of a letter inside a word, between the characters before it, the nearest first, and
those after it. -/
def small (before : List Char) (c : Char) (after : List Char) : List Char :=
  if c.toNat = 0x130 then ['i', Char.ofNat 0x307]
  else if c.toNat = 0x3a3 then [smallSigma before after]
  else
    match (georgian :: shifts).findSome? (·.image? c.toNat) with
    | some n => [Char.ofNat n]
    | none => [((smallPairs.find? (·.1 == c.toNat)).map (Char.ofNat ·.2)).getD c]

/-! ## Case of a text -/

/-- Title case, after the characters `before`, the nearest first. -/
def titleChars (before : List Char) : List Char → List Char
  | [] => []
  | c :: rest =>
    (if (before.head?.map cased.holds).getD false then small before c rest else large c) ++
      titleChars (c :: before) rest

/-- A letter is large when no letter stands right before it, and small otherwise. -/
def titleCase (s : String) : String := String.ofList (titleChars [] s.toList)

/-- The small form of a character, as far as plain letters can result: the two other characters
with a plain small letter are the Kelvin sign and the dotted capital I. -/
def lowerAsciiChar (c : Char) : List Char :=
  if c.toNat = 0x212a then ['k']
  else if c.toNat = 0x130 then ['i', Char.ofNat 0x307]
  else [c.toLower]

/-- A text folded for a search of plain small words. -/
def lowerAscii (s : String) : List Char := s.toList.flatMap lowerAsciiChar

def underscoresToBlanks (s : String) : String :=
  String.ofList (s.toList.map fun c => if c = '_' then ' ' else c)

end TileQuest.Text
