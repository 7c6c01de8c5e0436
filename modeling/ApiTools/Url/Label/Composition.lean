import ApiTools.Url.Label.Mark

/-!
# Composed labels

A letter with a mark can be one character or two. A label is composed if it is written by the
composed characters where there are any, with the other marks of a letter in the order of their
classes. What is composed is found by taking all characters apart, ordering the marks and putting
together what belongs together; a mark cannot reach its letter past one of its own class.

## Main definitions

* `Label.compositions` — the composed characters of labels.
* `Label.composed` — the composed form of a text.
* `Label.isComposed` — whether a text is in that form.
-/

namespace ApiTools

namespace Label

/-! ### Composed characters -/

/-- The composed characters by their second parts: each first part with the composed character after
it. -/
def compositions : List (Nat × String) :=
  [(0x300, "aàeèiìoòuùüǜnǹеѐиѝēḕōṑwẁâầăằêềôồơờưừyỳἀἂἁἃἐἒἑἓἠἢἡἣἰἲἱἳὀὂὁὃὐὒὑὓὠὢὡὣαὰεὲηὴιὶοὸυὺωὼϊῒϋῢ"),
   (0x301, "aáeéiíoóuúyýcćlĺnńrŕsśzźüǘgǵåǻæǽøǿϊΐαάεέηήιίϋΰοόυύωώгѓкќçḉēḗïḯkḱmḿõṍōṓpṕũṹwẃâấăắêếôố"),
   (0x301, "ơớưứἀἄἁἅἐἔἑἕἠἤἡἥἰἴἱἵὀὄὁὅὐὔὑὕὠὤὡὥ"),
   (0x302, "aâeêiîoôuûcĉgĝhĥjĵsŝwŵyŷzẑạậẹệọộ"),
   (0x303, "aãnñoõiĩuũvṽâẫăẵeẽêễôỗơỡưữyỹ"),
   (0x304, "aāeēiīoōuūüǖäǟȧǡæǣǫǭöȫõȭȯȱyȳиӣуӯgḡḷḹṛṝαᾱιῑυῡ"),
   (0x306, "aăeĕgğiĭoŏuŭийуўжӂаӑеӗȩḝạặαᾰιῐυῠ"),
   (0x307, "cċeėgġzżaȧoȯbḃdḋfḟhḣmṁnṅpṗrṙsṡśṥšṧṣṩtṫwẇxẋyẏ"),
   (0x308, "aäeëiïoöuüyÿιϊυϋеёіїаӓәӛжӝзӟиӥоӧөӫэӭуӱчӵыӹhḧõṏūṻwẅxẍtẗ"),
   (0x309, "aảâẩăẳeẻêểiỉoỏôổơởuủưửyỷ"),
   (0x30A, "aåuůwẘyẙ"),
   (0x30B, "oőuűуӳ"),
   (0x30C, "cčdďeělľnňrřsštťzžaǎiǐoǒuǔüǚgǧkǩʒǯjǰhȟ"),
   (0x30F, "aȁeȅiȉoȍrȑuȕѵѷ"),
   (0x311, "aȃeȇiȋoȏrȓuȗ"),
   (0x313, "αἀεἐηἠιἰοὀυὐωὠρῤ"),
   (0x314, "αἁεἑηἡιἱοὁυὑωὡρῥ"),
   (0x31B, "oơuư"),
   (0x323, "bḅdḍhḥkḳlḷmṃnṇrṛsṣtṭvṿwẉzẓaạeẹiịoọơợuụưựyỵ"),
   (0x324, "uṳ"),
   (0x325, "aḁ"),
   (0x326, "sștț"),
   (0x327, "cçgģkķlļnņrŗsştţeȩdḑhḩ"),
   (0x328, "aąeęiįuųoǫ"),
   (0x32D, "dḓeḙlḽnṋtṱuṷ"),
   (0x32E, "hḫ"),
   (0x330, "eḛiḭuṵ"),
   (0x331, "bḇdḏkḵlḻnṉrṟtṯzẕhẖ"),
   (0x342, "ἀἆἁἇἠἦἡἧἰἶἱἷὐὖὑὗὠὦὡὧαᾶηῆιῖϊῗυῦϋῧωῶ"),
   (0x653, "اآ"),
   (0x654, "اأوؤيئەۀہۂےۓ"),
   (0x655, "اإ"),
   (0x93C, "\u0928\u0929\u0930\u0931\u0933\u0934"),
   (0x9BE, "\u09c7\u09cb"),
   (0x9D7, "\u09c7\u09cc"),
   (0xB3E, "\u0b47\u0b4b"),
   (0xB56, "\u0b47\u0b48"),
   (0xB57, "\u0b47\u0b4c"),
   (0xBBE, "\u0bc6\u0bca\u0bc7\u0bcb"),
   (0xBD7, "\u0b92\u0b94\u0bc6\u0bcc"),
   (0xC56, "\u0c46\u0c48"),
   (0xCC2, "\u0cc6\u0cca"),
   (0xCD5, "\u0cbf\u0cc0\u0cc6\u0cc7\u0cca\u0ccb"),
   (0xCD6, "\u0cc6\u0cc8"),
   (0xD3E, "\u0d46\u0d4a\u0d47\u0d4b"),
   (0xD57, "\u0d46\u0d4c"),
   (0xDCA, "\u0dd9\u0dda\u0ddc\u0ddd"),
   (0xDCF, "\u0dd9\u0ddc"),
   (0xDDF, "\u0dd9\u0dde"),
   (0x102E, "\u1025\u1026"),
   (0x1B35, "\u1b05\u1b06\u1b07\u1b08\u1b09\u1b0a\u1b0b\u1b0c\u1b0d\u1b0e\u1b11\u1b12"),
   (0x1B35, "\u1b3a\u1b3b\u1b3c\u1b3d\u1b3e\u1b40\u1b3f\u1b41\u1b42\u1b43"),
   (0x3099, "かがきぎくぐけげこごさざしじすずせぜそぞただちぢつづてでとどはばひびふぶへべほぼうゔゝゞカガキギクグケゲコゴサザシジスズセゼソゾタダチヂツヅテデトドハバヒビフブヘベ"),
   (0x3099, "ホボウヴワヷヰヸヱヹヲヺヽヾ"),
   (0x309A, "はぱひぴふぷへぺほぽハパヒピフプヘペホポ"),
   (0x110BA, "𑂙𑂚𑂛𑂜𑂥𑂫"),
   (0x11127, "𑄱𑄮𑄲𑄯"),
   (0x1133E, "𑍇𑍋"),
   (0x11357, "𑍇𑍌"),
   (0x114B0, "𑒹𑒼"),
   (0x114BA, "𑒹𑒻"),
   (0x114BD, "𑒹𑒾"),
   (0x115AF, "𑖸𑖺𑖹𑖻"),
   (0x11930, "𑤵𑤸")]

/-- Characters in pairs. -/
def pairsOf : List Char → List (Char × Char)
  | a :: b :: rest => (a, b) :: pairsOf rest
  | _ => []

/-- The composed character of two. -/
def whole? (first second : Char) : Option Char :=
  ((compositions.filter (·.1 == second.toNat)).flatMap (pairsOf ·.2.toList)).lookup first

/-- The two parts of a composed character. -/
def parts? (c : Char) : Option (Char × Char) :=
  compositions.findSome? fun (second, pairs) =>
    ((pairsOf pairs.toList).find? (·.2 == c)).map fun pair => (pair.1, Char.ofNat second)

/-! ### The composed form -/

/-- A character taken apart, as often as there are steps. -/
def apart : Nat → Char → List Char
  | 0, c => [c]
  | steps + 1, c =>
    match parts? c with
    | some (first, second) => apart steps first ++ [second]
    | none => [c]

/-- How often a character can be taken apart. -/
def depth : Nat := 4

/-- A mark in front of ordered characters is put behind the marks of lower classes. -/
def placed (c : Char) : List Char → List Char
  | [] => [c]
  | d :: rest =>
    if 0 < combiningClass d ∧ combiningClass d < combiningClass c then d :: placed c rest
    else c :: d :: rest

/-- A text with the marks of each letter in the order of their classes. -/
def ordered (s : List Char) : List Char := s.foldr placed []

/-- A letter with the marks after it that were kept, and the rest of a text put together with it. -/
def joined (letter : Char) (kept : List Char) : List Char → List Char
  | [] => letter :: kept
  | c :: rest =>
    let isBlocked := kept.getLast?.any fun last => combiningClass c ≤ combiningClass last
    match if isBlocked then none else whole? letter c with
    | some whole => joined whole kept rest
    | none =>
      if combiningClass c = 0 then letter :: (kept ++ joined c [] rest)
      else joined letter (kept ++ [c]) rest

/-- The composed form of a text. -/
def composed (s : List Char) : List Char :=
  match ordered (s.flatMap (apart depth)) with
  | [] => []
  | c :: rest => joined c [] rest

/-- Whether a text is composed. -/
def isComposed (s : List Char) : Bool := composed s == s

end Label

end ApiTools
