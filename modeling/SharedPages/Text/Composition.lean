import SharedPages.Text.CombiningClass

/-! # Composed characters

Many letters with marks can be written as one character or as a letter and its marks.  `compose`
takes every text to the one form in which marks are in canonical order and are part of their
letters where such letters exist.  A syllable of Hangul is composed of two or three letters.

The tables have no capital letters and no characters that are only another way to write others. -/

namespace SharedPages.Text

/-- Composed characters.  For the code point of what comes second, the texts have pairs of what
    comes first and what they compose. -/
def compositions : List (Nat × String) :=
  [(0x300, "aàeèiìoòuùüǜnǹеѐиѝēḕōṑwẁâầăằêềôồơờưừyỳἀἂἁἃἐἒἑἓἠἢἡἣἰἲἱἳὀὂὁὃὐὒὑὓὠὢὡὣαὰεὲηὴιὶοὸυὺ"),
   (0x300, "ωὼϊῒϋῢ"),
   (0x301, "aáeéiíoóuúyýcćlĺnńrŕsśzźüǘgǵåǻæǽøǿϊΐαάεέηήιίϋΰοόυύωώгѓкќçḉēḗïḯkḱmḿõṍōṓpṕũṹwẃâấ"),
   (0x301, "ăắêếôốơớưứἀἄἁἅἐἔἑἕἠἤἡἥἰἴἱἵὀὄὁὅὐὔὑὕὠὤὡὥ"), (0x302, "aâeêiîoôuûcĉgĝhĥjĵsŝwŵyŷzẑạậẹệọộ"),
   (0x303, "aãnñoõiĩuũvṽâẫăẵeẽêễôỗơỡưữyỹ"), (0x304, "aāeēiīoōuūüǖäǟȧǡæǣǫǭöȫõȭȯȱyȳиӣуӯgḡḷḹṛṝαᾱιῑυῡ"),
   (0x306, "aăeĕgğiĭoŏuŭийуўжӂаӑеӗȩḝạặαᾰιῐυῠ"),
   (0x307, "cċeėgġzżaȧoȯbḃdḋfḟhḣmṁnṅpṗrṙsṡśṥšṧṣṩtṫwẇxẋyẏ𐗒𐗉𐗚𐗤"),
   (0x308, "aäeëiïoöuüyÿιϊυϋеёіїаӓәӛжӝзӟиӥоӧөӫэӭуӱчӵыӹhḧõṏūṻwẅxẍtẗ"),
   (0x309, "aảâẩăẳeẻêểiỉoỏôổơởuủưửyỷ"), (0x30a, "aåuůwẘyẙ"), (0x30b, "oőuűуӳ"),
   (0x30c, "cčdďeělľnňrřsštťzžaǎiǐoǒuǔüǚgǧkǩʒǯjǰhȟ"), (0x30f, "aȁeȅiȉoȍrȑuȕѵѷ"),
   (0x311, "aȃeȇiȋoȏrȓuȗ"), (0x313, "αἀεἐηἠιἰοὀυὐωὠρῤ"), (0x314, "αἁεἑηἡιἱοὁυὑωὡρῥ"),
   (0x31b, "oơuư"), (0x323, "bḅdḍhḥkḳlḷmṃnṇrṛsṣtṭvṿwẉzẓaạeẹiịoọơợuụưựyỵ"), (0x324, "uṳ"),
   (0x325, "aḁ"), (0x326, "sștț"), (0x327, "cçgģkķlļnņrŗsştţeȩdḑhḩ"), (0x328, "aąeęiįuųoǫ"),
   (0x32d, "dḓeḙlḽnṋtṱuṷ"), (0x32e, "hḫ"), (0x330, "eḛiḭuṵ"), (0x331, "bḇdḏkḵlḻnṉrṟtṯzẕhẖ"),
   (0x338, "←↚→↛↔↮⇐⇍⇔⇎⇒⇏∃∄∈∉∋∌∣∤∥∦∼≁≃≄≅≇≈≉=≠≡≢≍≭<≮>≯≤≰≥≱≲≴≳≵≶≸≷≹≺⊀≻⊁⊂⊄⊃⊅⊆⊈⊇⊉⊢⊬⊨⊭⊩⊮⊫⊯≼⋠≽⋡⊑⋢"),
   (0x338, "⊒⋣⊲⋪⊳⋫⊴⋬⊵⋭"), (0x342, "ἀἆἁἇἠἦἡἧἰἶἱἷὐὖὑὗὠὦὡὧαᾶηῆιῖϊῗυῦϋῧωῶ"), (0x653, "اآ"),
   (0x654, "اأوؤيئەۀہۂےۓ"), (0x655, "اإ"), (0x93c, "नऩरऱळऴ"), (0x9be, "\u09c7\u09cb"),
   (0x9d7, "\u09c7\u09cc"), (0xb3e, "\u0b47\u0b4b"), (0xb56, "\u0b47\u0b48"),
   (0xb57, "\u0b47\u0b4c"), (0xbbe, "\u0bc6\u0bca\u0bc7\u0bcb"), (0xbd7, "ஒஔ\u0bc6\u0bcc"),
   (0xc56, "\u0c46\u0c48"), (0xcc2, "\u0cc6\u0cca"),
   (0xcd5, "\u0cbf\u0cc0\u0cc6\u0cc7\u0cca\u0ccb"), (0xcd6, "\u0cc6\u0cc8"),
   (0xd3e, "\u0d46\u0d4a\u0d47\u0d4b"), (0xd57, "\u0d46\u0d4c"),
   (0xdca, "\u0dd9\u0dda\u0ddc\u0ddd"), (0xdcf, "\u0dd9\u0ddc"), (0xddf, "\u0dd9\u0dde"),
   (0x102e, "ဥဦ"),
   (0x1b35, "ᬅᬆᬇᬈᬉᬊᬋᬌᬍᬎᬑᬒ\u1b3a\u1b3b\u1b3c\u1b3d\u1b3e\u1b40\u1b3f\u1b41\u1b42\u1b43"),
   (0x3099, "かがきぎくぐけげこごさざしじすずせぜそぞただちぢつづてでとどはばひびふぶへべほぼうゔゝゞカガキギクグケゲコゴサザシジスズセゼソゾタダチヂツヅテデトドハバヒビ"),
   (0x3099, "フブヘベホボウヴワヷヰヸヱヹヲヺヽヾ"), (0x309a, "はぱひぴふぷへぺほぽハパヒピフプヘペホポ")]

/-- More composed characters, each after the code points that compose it. -/
def rareCompositions : List (Nat × Nat × Nat) :=
  [(0x11099, 0x110ba, 0x1109a), (0x1109b, 0x110ba, 0x1109c), (0x110a5, 0x110ba, 0x110ab),
   (0x11131, 0x11127, 0x1112e), (0x11132, 0x11127, 0x1112f), (0x11347, 0x1133e, 0x1134b),
   (0x11347, 0x11357, 0x1134c), (0x113c2, 0x113b8, 0x113c7), (0x11384, 0x113bb, 0x11385),
   (0x1138b, 0x113c2, 0x1138e), (0x113c2, 0x113c2, 0x113c5), (0x11382, 0x113c9, 0x11383),
   (0x11390, 0x113c9, 0x11391), (0x113c2, 0x113c9, 0x113c8), (0x114b9, 0x114b0, 0x114bc),
   (0x114b9, 0x114ba, 0x114bb), (0x114b9, 0x114bd, 0x114be), (0x115b8, 0x115af, 0x115ba),
   (0x115b9, 0x115af, 0x115bb), (0x11935, 0x11930, 0x11938), (0x1611e, 0x1611e, 0x16121),
   (0x1611e, 0x1611f, 0x16123), (0x16129, 0x1611f, 0x16124), (0x16121, 0x1611f, 0x16126),
   (0x16122, 0x1611f, 0x16127), (0x1611e, 0x16120, 0x16125), (0x16121, 0x16120, 0x16128),
   (0x1611e, 0x16129, 0x16122), (0x16d67, 0x16d67, 0x16d68), (0x16d63, 0x16d67, 0x16d69),
   (0x16d69, 0x16d67, 0x16d6a)]

/-- The first pairs of `cs`, those after them, and so on. -/
def pairsOf : (cs : List Char) → List (Char × Char)
  | a :: b :: rest => (a, b) :: pairsOf rest
  | _ => []

/-- The syllable of Hangul that two code points compose. -/
def syllable? (first second : Nat) : Option Nat :=
  if 0x1100 ≤ first ∧ first ≤ 0x1112 ∧ 0x1161 ≤ second ∧ second ≤ 0x1175 then
    some (0xac00 + ((first - 0x1100) * 21 + (second - 0x1161)) * 28)
  else if 0xac00 ≤ first ∧ first ≤ 0xd7a3 ∧ (first - 0xac00) % 28 = 0 ∧
      0x11a8 ≤ second ∧ second ≤ 0x11c2 then
    some (first + (second - 0x11a7))
  else none

/-- The character that two characters compose. -/
def composed? (first second : Char) : Option Char :=
  match syllable? first.toNat second.toNat with
  | some n => some (Char.ofNat n)
  | none =>
    (compositions.findSome? fun (n, text) =>
      if n = second.toNat then (pairsOf text.toList).lookup first else none).or
      ((rareCompositions.find? fun (a, b, _) => a = first.toNat ∧ b = second.toNat).map
        fun (_, _, n) => Char.ofNat n)

/-- The letters of a syllable of Hangul. -/
def lettersOf (syllable : Nat) : List Char :=
  let n := syllable - 0xac00
  let last := n % 28
  [Char.ofNat (0x1100 + n / 588), Char.ofNat (0x1161 + n % 588 / 28)] ++
    if last = 0 then [] else [Char.ofNat (0x11a7 + last)]

/-- The two characters that compose `c`, or `c` if there are none. -/
def splitChar (c : Char) : List Char :=
  if c.toNat < 0xc0 then [c]
  else if 0xac00 ≤ c.toNat ∧ c.toNat ≤ 0xd7a3 then lettersOf c.toNat
  else
    match compositions.findSome? fun (second, text) =>
        ((pairsOf text.toList).find? (·.2 == c)).map fun p => [p.1, Char.ofNat second] with
    | some cs => cs
    | none =>
      match rareCompositions.find? fun (_, _, n) => n = c.toNat with
      | some (first, second, _) => [Char.ofNat first, Char.ofNat second]
      | none => [c]

/-- Splits composed characters, which have at most three marks. -/
def decompose (cs : List Char) : List Char :=
  Nat.repeat (fun cs => cs.flatMap splitChar) 3 cs

/-- Adds a character to a text that ends with `before`, nearest first.  A mark goes before those of
    higher classes. -/
def addInOrder (before : List Char) (c : Char) : List Char :=
  match before with
  | [] => [c]
  | d :: rest =>
    if combiningClass c ≠ 0 ∧ combiningClass c < combiningClass d then d :: addInOrder rest c
    else c :: before

/-- Puts marks in canonical order. -/
def inOrder (cs : List Char) : List Char := (cs.foldl addInOrder []).reverse

/-- Composes the base `base` with what follows it, where `kept` are marks after the base that it was
    not composed with, nearest first.  A mark is out of reach behind one of its own class. -/
def composeAfter (base : Char) (kept : List Char) : List Char → List Char
  | [] => base :: kept.reverse
  | c :: rest =>
    let reached := kept.all fun d => combiningClass d < combiningClass c
    match if reached then composed? base c else none with
    | some d => composeAfter d kept rest
    | none =>
      if combiningClass c = 0 then base :: kept.reverse ++ composeAfter c [] rest
      else composeAfter base (c :: kept) rest

/-- Composes characters whose marks are in canonical order. -/
def composeOrdered : List Char → List Char
  | [] => []
  | c :: rest =>
    if combiningClass c = 0 then composeAfter c [] rest else c :: composeOrdered rest

/-- The composed form of a text. -/
def compose (cs : List Char) : List Char :=
  if cs.all fun c => c.toNat < 0xc0 then cs else composeOrdered (inOrder (decompose cs))

end SharedPages.Text
