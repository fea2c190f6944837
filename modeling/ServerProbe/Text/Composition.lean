import ServerProbe.Text.Mark

/-! The composed form of a text.

Two characters that mean the same as one become that one. The text is first
taken apart as far as possible, then its marks are put in the order of their
classes, and then each character is joined with the marks behind it. Syllables
of Korean are composed by arithmetic, the other characters by a table, which
holds those that may stand in a domain name.
-/

set_option autoImplicit false

namespace ServerProbe.Text

-- A second character with first ones, each followed by what the two become. A second character
-- with many pairs has several rows.
def compositionRows : List (Nat × String) :=
  [(0x300, "aàeèiìoòuùüǜnǹеѐиѝēḕōṑwẁâầăằêềôồơờưừyỳἀἂἁἃἐἒἑἓἠἢἡἣἰἲἱἳὀὂὁὃὐὒὑὓὠὢὡὣαὰεὲηὴιὶοὸ"),
   (0x300, "υὺωὼϊῒϋῢ"),
   (0x301, "aáeéiíoóuúyýcćlĺnńrŕsśzźüǘgǵåǻæǽøǿϊΐαάεέηήιίϋΰοόυύωώгѓкќçḉēḗïḯkḱmḿõṍōṓpṕũṹwẃ"),
   (0x301, "âấăắêếôốơớưứἀἄἁἅἐἔἑἕἠἤἡἥἰἴἱἵὀὄὁὅὐὔὑὕὠὤὡὥ"),
   (0x302, "aâeêiîoôuûcĉgĝhĥjĵsŝwŵyŷzẑạậẹệọộ"), (0x303, "aãnñoõiĩuũvṽâẫăẵeẽêễôỗơỡưữyỹ"),
   (0x304, "aāeēiīoōuūüǖäǟȧǡæǣǫǭöȫõȭȯȱyȳиӣуӯgḡḷḹṛṝαᾱιῑυῡ"),
   (0x306, "aăeĕgğiĭoŏuŭийуўжӂаӑеӗȩḝạặαᾰιῐυῠ"),
   (0x307, "cċeėgġzżaȧoȯbḃdḋfḟhḣmṁnṅpṗrṙsṡśṥšṧṣṩtṫwẇxẋyẏ"),
   (0x308, "aäeëiïoöuüyÿιϊυϋеёіїаӓәӛжӝзӟиӥоӧөӫэӭуӱчӵыӹhḧõṏūṻwẅxẍtẗ"),
   (0x309, "aảâẩăẳeẻêểiỉoỏôổơởuủưửyỷ"), (0x30A, "aåuůwẘyẙ"), (0x30B, "oőuűуӳ"),
   (0x30C, "cčdďeělľnňrřsštťzžaǎiǐoǒuǔüǚgǧkǩʒǯjǰhȟ"), (0x30F, "aȁeȅiȉoȍrȑuȕѵѷ"),
   (0x311, "aȃeȇiȋoȏrȓuȗ"), (0x313, "αἀεἐηἠιἰοὀυὐωὠρῤ"), (0x314, "αἁεἑηἡιἱοὁυὑωὡρῥ"),
   (0x31B, "oơuư"), (0x323, "bḅdḍhḥkḳlḷmṃnṇrṛsṣtṭvṿwẉzẓaạeẹiịoọơợuụưựyỵ"), (0x324, "uṳ"),
   (0x325, "aḁ"), (0x326, "sștț"), (0x327, "cçgģkķlļnņrŗsştţeȩdḑhḩ"), (0x328, "aąeęiįuųoǫ"),
   (0x32D, "dḓeḙlḽnṋtṱuṷ"), (0x32E, "hḫ"), (0x330, "eḛiḭuṵ"), (0x331, "bḇdḏkḵlḻnṉrṟtṯzẕhẖ"),
   (0x338, "←↚→↛↔↮⇐⇍⇔⇎⇒⇏∃∄∈∉∋∌∣∤∥∦∼≁≃≄≅≇≈≉=≠≡≢≍≭<≮>≯≤≰≥≱≲≴≳≵≶≸≷≹≺⊀≻⊁⊂⊄⊃⊅⊆⊈⊇⊉⊢⊬⊨⊭⊩⊮⊫⊯≼⋠≽⋡"),
   (0x338, "⊑⋢⊒⋣⊲⋪⊳⋫⊴⋬⊵⋭"), (0x342, "ἀἆἁἇἠἦἡἧἰἶἱἷὐὖὑὗὠὦὡὧαᾶηῆιῖϊῗυῦϋῧωῶ"), (0x653, "اآ"),
   (0x654, "اأوؤيئەۀہۂےۓ"), (0x655, "اإ"), (0x93C, "नऩरऱळऴ"), (0x9BE, "\u09c7\u09cb"),
   (0x9D7, "\u09c7\u09cc"), (0xB3E, "\u0b47\u0b4b"), (0xB56, "\u0b47\u0b48"),
   (0xB57, "\u0b47\u0b4c"), (0xBBE, "\u0bc6\u0bca\u0bc7\u0bcb"), (0xBD7, "ஒஔ\u0bc6\u0bcc"),
   (0xC56, "\u0c46\u0c48"), (0xCC2, "\u0cc6\u0cca"),
   (0xCD5, "\u0cbf\u0cc0\u0cc6\u0cc7\u0cca\u0ccb"), (0xCD6, "\u0cc6\u0cc8"),
   (0xD3E, "\u0d46\u0d4a\u0d47\u0d4b"), (0xD57, "\u0d46\u0d4c"),
   (0xDCA, "\u0dd9\u0dda\u0ddc\u0ddd"), (0xDCF, "\u0dd9\u0ddc"), (0xDDF, "\u0dd9\u0dde"),
   (0x102E, "ဥဦ"),
   (0x1B35, "ᬅᬆᬇᬈᬉᬊᬋᬌᬍᬎᬑᬒ\u1b3a\u1b3b\u1b3c\u1b3d\u1b3e\u1b40\u1b3f\u1b41\u1b42\u1b43"),
   (0x3099, "かがきぎくぐけげこごさざしじすずせぜそぞただちぢつづてでとどはばひびふぶへべほぼうゔゝゞカガキギクグケゲコゴサザシジスズセゼソゾタダチヂツヅテデトドハバ"),
   (0x3099, "ヒビフブヘベホボウヴワヷヰヸヱヹヲヺヽヾ"), (0x309A, "はぱひぴふぷへぺほぽハパヒピフプヘペホポ"), (0x110BA, "𑂙𑂚𑂛𑂜𑂥𑂫"),
   (0x11127, "𑄱𑄮𑄲𑄯"), (0x1133E, "𑍇𑍋"), (0x11357, "𑍇𑍌"), (0x114B0, "𑒹𑒼"), (0x114BA, "𑒹𑒻"),
   (0x114BD, "𑒹𑒾"), (0x115AF, "𑖸𑖺𑖹𑖻"), (0x11930, "𑤵𑤸")]

def pairsOf : List Char → List (Char × Char)
  | first :: composed :: rest => (first, composed) :: pairsOf rest
  | _ => []

def compositions : List (Char × List (Char × Char)) :=
  compositionRows.map fun row => (Char.ofNat row.1, pairsOf row.2.toList)

/-! Syllables of Korean: a leading consonant, a vowel and perhaps a trailing consonant. -/

/-- Joins two letters, or a syllable and a trailing consonant. -/
def composeSyllable? (first second : Char) : Option Char :=
  let lead := first.toNat - 0x1100
  let vowel := second.toNat - 0x1161
  let index := first.toNat - 0xAC00
  let trail := second.toNat - 0x11A7
  if 0x1100 ≤ first.toNat ∧ lead < 19 ∧ 0x1161 ≤ second.toNat ∧ vowel < 21 then
    some (Char.ofNat (0xAC00 + (lead * 21 + vowel) * 28))
  else if 0xAC00 ≤ first.toNat ∧ index < 11172 ∧ index % 28 = 0 ∧ 0x11A7 < second.toNat ∧
      trail < 28 then
    some (Char.ofNat (first.toNat + trail))
  else none

def splitSyllable? (c : Char) : Option (Char × Char) :=
  let index := c.toNat - 0xAC00
  if 0xAC00 ≤ c.toNat ∧ index < 11172 then
    if index % 28 = 0 then
      some (Char.ofNat (0x1100 + index / 588), Char.ofNat (0x1161 + index / 28 % 21))
    else some (Char.ofNat (c.toNat - index % 28), Char.ofNat (0x11A7 + index % 28))
  else none

def compose? (first second : Char) : Option Char :=
  (composeSyllable? first second).or <|
    compositions.findSome? fun row =>
      if row.1 = second then (row.2.find? fun pair => pair.1 == first).map Prod.snd else none

def decompose? (c : Char) : Option (Char × Char) :=
  if c.toNat < 0xC0 then none
  else
    (splitSyllable? c).or <|
      compositions.findSome? fun row =>
        (row.2.find? fun pair => pair.2 == c).map fun pair => (pair.1, row.1)

/-- Takes a character apart in up to `depth` steps, of which no character needs more than four. -/
def decomposed : Nat → Char → List Char
  | 0, c => [c]
  | depth + 1, c =>
    match decompose? c with
    | some (first, second) => decomposed depth first ++ [second]
    | none => [c]

-- Puts a character in front of marks that are in order. It moves behind those of lower class.
def insertMark (c : Char) : List Char → List Char
  | [] => [c]
  | other :: rest =>
    if 0 < combiningClass other ∧ combiningClass other < combiningClass c then
      other :: insertMark c rest
    else c :: other :: rest

-- Puts all runs of marks in order. Marks of one class keep theirs.
def orderMarks : List Char → List Char
  | [] => []
  | c :: rest => insertMark c (orderMarks rest)

-- Joins a character with what follows it. What could not be joined is in `kept`, latest first; a
-- character is joined only past kept marks of lower class.
def composeFrom (base : Char) (kept : List Char) : List Char → List Char
  | [] => base :: kept.reverse
  | c :: rest =>
    let isBlocked : Bool :=
      match kept with
      | [] => false
      | last :: _ => combiningClass c ≤ combiningClass last
    match if isBlocked then none else compose? base c with
    | some joined => composeFrom joined kept rest
    | none =>
      if combiningClass c = 0 then base :: (kept.reverse ++ composeFrom c [] rest)
      else composeFrom base (c :: kept) rest

-- Composes a text whose marks are in order. Marks in front of all else stay as they are.
def composeAll : List Char → List Char
  | [] => []
  | c :: rest =>
    if combiningClass c = 0 then composeFrom c [] rest else c :: composeAll rest

def composed (text : List Char) : List Char :=
  composeAll (orderMarks (text.flatMap (decomposed 4)))

end ServerProbe.Text
