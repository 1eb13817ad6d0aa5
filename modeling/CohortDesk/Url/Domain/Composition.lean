import CohortDesk.Url.Domain.Mark
/-!
# Composed letters

A letter with its marks can be written as one character or as several. `normalForm` takes every
letter apart, orders the marks by their place, and joins them again, so that all ways of writing
the same text become one. Korean syllables are counted; all others are in a table, which holds the
letters that a folded name may have.
-/
namespace CohortDesk.Url.Domain

/-- A mark, the letters that it joins, and the composed letters in the same order. -/
def composed : List (Nat × String × String) :=
  [(0x300, "aeinouwyâêôüăēōơưαεηιουωϊϋеиἀἁἐἑἠἡἰἱὀὁὐὑὠὡ",
      "àèìǹòùẁỳầềồǜằḕṑờừὰὲὴὶὸὺὼῒῢѐѝἂἃἒἓἢἣἲἳὂὃὒὓὢὣ"),
    (0x301, "acegiklmnoprsuwyzâåæçêïôõøüăēōũơưαεηιουωϊϋгкἀἁἐἑἠἡἰἱὀὁὐὑὠὡ",
      "áćéǵíḱĺḿńóṕŕśúẃýźấǻǽḉếḯốṍǿǘắḗṓṹớứάέήίόύώΐΰѓќἄἅἔἕἤἥἴἵὄὅὔὕὤὥ"),
    (0x302, "aceghijosuwyzạẹọ", "âĉêĝĥîĵôŝûŵŷẑậệộ"), (0x303, "aeinouvyâêôăơư", "ãẽĩñõũṽỹẫễỗẵỡữ"),
    (0x304, "aegiouyäæõöüǫȧȯαιυиуḷṛ", "āēḡīōūȳǟǣȭȫǖǭǡȱᾱῑῡӣӯḹṝ"),
    (0x306, "aegiouȩαιυаежиуạ", "ăĕğĭŏŭḝᾰῐῠӑӗӂйўặ"),
    (0x307, "abcdefghmnoprstwxyzśšṣ𐗒𐗚", "ȧḃċḋėḟġḣṁṅȯṗṙṡṫẇẋẏżṥṧṩ𐗉𐗤"),
    (0x308, "aehiotuwxyõūιυаежзиоучыэіәө", "äëḧïöẗüẅẍÿṏṻϊϋӓёӝӟӥӧӱӵӹӭїӛӫ"),
    (0x309, "aeiouyâêôăơư", "ảẻỉỏủỷẩểổẳởử"), (0x30a, "auwy", "åůẘẙ"), (0x30b, "ouу", "őűӳ"),
    (0x30c, "acdeghijklnorstuzüʒ", "ǎčďěǧȟǐǰǩľňǒřšťǔžǚǯ"), (0x30f, "aeioruѵ", "ȁȅȉȍȑȕѷ"),
    (0x311, "aeioru", "ȃȇȋȏȓȗ"), (0x313, "αεηιορυω", "ἀἐἠἰὀῤὐὠ"), (0x314, "αεηιορυω", "ἁἑἡἱὁῥὑὡ"),
    (0x31b, "ou", "ơư"), (0x323, "abdehiklmnorstuvwyzơư", "ạḅḍẹḥịḳḷṃṇọṛṣṭụṿẉỵẓợự"),
    (0x324, "u", "ṳ"), (0x325, "a", "ḁ"), (0x326, "st", "șț"),
    (0x327, "cdeghklnrst", "çḑȩģḩķļņŗşţ"), (0x328, "aeiou", "ąęįǫų"), (0x32d, "delntu", "ḓḙḽṋṱṷ"),
    (0x32e, "h", "ḫ"), (0x330, "eiu", "ḛḭṵ"), (0x331, "bdhklnrtz", "ḇḏẖḵḻṉṟṯẕ"),
    (0x338, "<=>←→↔⇐⇒⇔∃∈∋∣∥∼≃≅≈≍≡≤≥≲≳≶≷≺≻≼≽⊂⊃⊆⊇⊑⊒⊢⊨⊩⊫⊲⊳⊴⊵",
      "≮≠≯↚↛↮⇍⇏⇎∄∉∌∤∦≁≄≇≉≭≢≰≱≴≵≸≹⊀⊁⋠⋡⊄⊅⊈⊉⋢⋣⊬⊭⊮⊯⋪⋫⋬⋭"),
    (0x342, "αηιυωϊϋἀἁἠἡἰἱὐὑὠὡ", "ᾶῆῖῦῶῗῧἆἇἦἧἶἷὖὗὦὧ"), (0x653, "ا", "آ"),
    (0x654, "اويہےە", "أؤئۂۓۀ"), (0x655, "ا", "إ"), (0x93c, "नरळ", "ऩऱऴ"), (0x9be, "ে", "ো"),
    (0x9d7, "ে", "ৌ"), (0xb3e, "େ", "ୋ"), (0xb56, "େ", "ୈ"), (0xb57, "େ", "ୌ"), (0xbbe, "ெே", "ொோ"),
    (0xbd7, "ஒெ", "ஔௌ"), (0xc56, "ె", "ై"), (0xcc2, "ೆ", "ೊ"), (0xcd5, "ಿೆೊ", "ೀೇೋ"),
    (0xcd6, "ೆ", "ೈ"), (0xd3e, "െേ", "ൊോ"), (0xd57, "െ", "ൌ"), (0xdca, "ෙො", "ේෝ"),
    (0xdcf, "ෙ", "ො"), (0xddf, "ෙ", "ෞ"), (0x102e, "ဥ", "ဦ"),
    (0x1b35, "ᬅᬇᬉᬋᬍᬑᬺᬼᬾᬿᭂ", "ᬆᬈᬊᬌᬎᬒᬻᬽᭀᭁᭃ"),
    (0x3099, "うかきくけこさしすせそたちつてとはひふへほゝウカキクケコサシスセソタチツテトハヒフヘホワヰヱヲヽ",
      "ゔがぎぐげござじずぜぞだぢづでどばびぶべぼゞヴガギグゲゴザジズゼゾダヂヅデドバビブベボヷヸヹヺヾ"),
    (0x309a, "はひふへほハヒフヘホ", "ぱぴぷぺぽパピプペポ"), (0x110ba, "𑂙𑂛𑂥", "𑂚𑂜𑂫"), (0x11127, "𑄱𑄲", "𑄮𑄯"),
    (0x1133e, "𑍇", "𑍋"), (0x11357, "𑍇", "𑍌"), (0x113b8, "𑏂", "𑏇"), (0x113bb, "𑎄", "𑎅"),
    (0x113c2, "𑎎", "𑎎𑏅"), (0x113c9, "𑎂𑎐𑏂", "𑎃𑎑𑏈"), (0x114b0, "𑒹", "𑒼"), (0x114ba, "𑒹", "𑒻"),
    (0x114bd, "𑒹", "𑒾"), (0x115af, "𑖸𑖹", "𑖺𑖻"), (0x11930, "𑤵", "𑤸"), (0x1611e, "𖄞", "𖄡"),
    (0x1611f, "𖄡𖄡𖄩𖄩", "𖄣𖄦𖄧𖄤"), (0x16120, "𖄡𖄞", "𖄥𖄨"), (0x16129, "𖄞", "𖄢"), (0x16d67, "𖵩𖵩", "𖵪𖵧𖵪")]

/-- The syllable of a first sound and a vowel, or of an open syllable and a last sound. -/
def joinSyllable? (first next : Char) : Option Char :=
  let start := first.toNat
  let sound := next.toNat
  if 0x1100 ≤ start ∧ start ≤ 0x1112 ∧ 0x1161 ≤ sound ∧ sound ≤ 0x1175 then
    some (Char.ofNat (0xAC00 + ((start - 0x1100) * 21 + (sound - 0x1161)) * 28))
  else if 0xAC00 ≤ start ∧ start ≤ 0xD7A3 ∧ (start - 0xAC00) % 28 = 0 ∧
      0x11A8 ≤ sound ∧ sound ≤ 0x11C2 then
    some (Char.ofNat (start + (sound - 0x11A7)))
  else none

/-- The sounds of a syllable. -/
def openSyllable? (c : Char) : Option (List Char) :=
  if 0xAC00 ≤ c.toNat ∧ c.toNat ≤ 0xD7A3 then
    let number := c.toNat - 0xAC00
    let sounds := [Char.ofNat (0x1100 + number / 588), Char.ofNat (0x1161 + number % 588 / 28)]
    some (if number % 28 = 0 then sounds else sounds ++ [Char.ofNat (0x11A7 + number % 28)])
  else none

def join? (letter mark : Char) : Option Char :=
  (joinSyllable? letter mark).or do
    let (_, letters, joined) ← composed.find? (·.1 == mark.toNat)
    (letters.toList.zip joined.toList).lookup letter

/-- The letter and the mark that a composed letter joins. -/
def parts? (c : Char) : Option (Char × Char) :=
  composed.findSome? fun (mark, letters, joined) =>
    ((joined.toList.zip letters.toList).lookup c).map fun letter => (letter, Char.ofNat mark)

/-- The letter and the marks that a character is made of. A composed letter joins at most two marks
to a plain one. -/
def takeApart (c : Char) : List Char :=
  match openSyllable? c, parts? c with
  | some sounds, _ => sounds
  | none, none => [c]
  | none, some (letter, mark) =>
    match parts? letter with
    | none => [letter, mark]
    | some (plain, inner) => [plain, inner, mark]

/-- Puts a mark before those at the front that have a lower place. -/
def putMark (mark : Char) : List Char → List Char
  | [] => [mark]
  | c :: rest =>
    if 0 < Mark.place c ∧ Mark.place c < Mark.place mark then c :: putMark mark rest
    else mark :: c :: rest

def orderMarks (text : List Char) : List Char := text.foldr putMark []

/-- Joins to a letter the marks that follow it. A mark cannot reach the letter past one that was
kept and has the same or a higher place. -/
def joinFrom (letter : Char) (kept : List Char) : List Char → List Char
  | [] => letter :: kept
  | c :: rest =>
    let free := kept.getLast?.all fun last => Mark.place last < Mark.place c
    match if free then join? letter c else none with
    | some joined => joinFrom joined kept rest
    | none =>
      if Mark.place c = 0 then letter :: kept ++ joinFrom c [] rest
      else joinFrom letter (kept ++ [c]) rest

def compose : List Char → List Char
  | [] => []
  | c :: rest => joinFrom c [] rest

def normalForm (text : List Char) : List Char := compose (orderMarks (text.flatMap takeApart))

end CohortDesk.Url.Domain
