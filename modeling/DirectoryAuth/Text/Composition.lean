import DirectoryAuth.Text.CombiningClass

/-! The composed form of text (NFC): a letter and its marks are one character where there is one
for them. It is meant for text without the characters that no composed text holds. -/
namespace DirectoryAuth.Text.Composition

/-- Second characters of pairs. The text beside each holds, in turn, the first character of a pair
and the one that the two compose. -/
def compositions : List (Char × String) :=
  [('\u0300', "AÀEÈIÌOÒUÙaàeèiìoòuùÜǛüǜNǸnǹЕЀИЍеѐиѝĒḔēḕŌṐōṑWẀwẁÂẦâầĂẰăằÊỀêềÔỒôồƠỜơờƯỪưừYỲyỳἀἂἁἃἈἊ"),
   ('\u0300', "ἉἋἐἒἑἓἘἚἙἛἠἢἡἣἨἪἩἫἰἲἱἳἸἺἹἻὀὂὁὃὈὊὉὋὐὒὑὓὙὛὠὢὡὣὨὪὩὫαὰεὲηὴιὶοὸυὺωὼΑᾺΕῈΗῊ᾿῍ϊῒΙῚ῾῝ϋῢΥῪ¨῭"),
   ('\u0300', "ΟῸΩῺ"),
   ('\u0301', "AÁEÉIÍOÓUÚYÝaáeéiíoóuúyýCĆcćLĹlĺNŃnńRŔrŕSŚsśZŹzźÜǗüǘGǴgǵÅǺåǻÆǼæǽØǾøǿ¨΅ΑΆΕΈΗΉΙΊΟΌΥΎ"),
   ('\u0301', "ΩΏϊΐαάεέηήιίϋΰοόυύωώϒϓГЃКЌгѓкќÇḈçḉĒḖēḗÏḮïḯKḰkḱMḾmḿÕṌõṍŌṒōṓPṔpṕŨṸũṹWẂwẃÂẤâấĂẮăắÊẾêế"),
   ('\u0301', "ÔỐôốƠỚơớƯỨưứἀἄἁἅἈἌἉἍἐἔἑἕἘἜἙἝἠἤἡἥἨἬἩἭἰἴἱἵἸἼἹἽὀὄὁὅὈὌὉὍὐὔὑὕὙὝὠὤὡὥὨὬὩὭ᾿῎῾῞"),
   ('\u0302', "AÂEÊIÎOÔUÛaâeêiîoôuûCĈcĉGĜgĝHĤhĥJĴjĵSŜsŝWŴwŵYŶyŷZẐzẑẠẬạậẸỆẹệỌỘọộ"),
   ('\u0303', "AÃNÑOÕaãnñoõIĨiĩUŨuũVṼvṽÂẪâẫĂẴăẵEẼeẽÊỄêễÔỖôỗƠỠơỡƯỮưữYỸyỹ"),
   ('\u0304', "AĀaāEĒeēIĪiīOŌoōUŪuūÜǕüǖÄǞäǟȦǠȧǡÆǢæǣǪǬǫǭÖȪöȫÕȬõȭȮȰȯȱYȲyȳИӢиӣУӮуӯGḠgḡḶḸḷḹṚṜṛṝαᾱΑᾹιῑ"),
   ('\u0304', "ΙῙυῡΥῩ"),
   ('\u0306', "AĂaăEĔeĕGĞgğIĬiĭOŎoŏUŬuŭУЎИЙийуўЖӁжӂАӐаӑЕӖеӗȨḜȩḝẠẶạặαᾰΑᾸιῐΙῘυῠΥῨ"),
   ('\u0307', "CĊcċEĖeėGĠgġIİZŻzżAȦaȧOȮoȯBḂbḃDḊdḋFḞfḟHḢhḣMṀmṁNṄnṅPṖpṗRṘrṙSṠsṡŚṤśṥŠṦšṧṢṨṣṩTṪtṫWẆwẇ"),
   ('\u0307', "XẊxẋYẎyẏſẛ𐗒𐗉𐗚𐗤"),
   ('\u0308', "AÄEËIÏOÖUÜaäeëiïoöuüyÿYŸΙΪΥΫιϊυϋϒϔЕЁІЇеёіїАӒаӓӘӚәӛЖӜжӝЗӞзӟИӤиӥОӦоӧӨӪөӫЭӬэӭУӰуӱЧӴчӵ"),
   ('\u0308', "ЫӸыӹHḦhḧÕṎõṏŪṺūṻWẄwẅXẌxẍtẗ"),
   ('\u0309', "AẢaảÂẨâẩĂẲăẳEẺeẻÊỂêểIỈiỉOỎoỏÔỔôổƠỞơởUỦuủƯỬưửYỶyỷ"), ('\u030a', "AÅaåUŮuůwẘyẙ"),
   ('\u030b', "OŐoőUŰuűУӲуӳ"),
   ('\u030c', "CČcčDĎdďEĚeěLĽlľNŇnňRŘrřSŠsšTŤtťZŽzžAǍaǎIǏiǐOǑoǒUǓuǔÜǙüǚGǦgǧKǨkǩƷǮʒǯjǰHȞhȟ"),
   ('\u030f', "AȀaȁEȄeȅIȈiȉOȌoȍRȐrȑUȔuȕѴѶѵѷ"), ('\u0311', "AȂaȃEȆeȇIȊiȋOȎoȏRȒrȓUȖuȗ"),
   ('\u0313', "αἀΑἈεἐΕἘηἠΗἨιἰΙἸοὀΟὈυὐωὠΩὨρῤ"), ('\u0314', "αἁΑἉεἑΕἙηἡΗἩιἱΙἹοὁΟὉυὑΥὙωὡΩὩρῥΡῬ"),
   ('\u031b', "OƠoơUƯuư"),
   ('\u0323', "BḄbḅDḌdḍHḤhḥKḲkḳLḶlḷMṂmṃNṆnṇRṚrṛSṢsṣTṬtṭVṾvṿWẈwẉZẒzẓAẠaạEẸeẹIỊiịOỌoọƠỢơợUỤuụƯỰưựYỴ"),
   ('\u0323', "yỵ"), ('\u0324', "UṲuṳ"), ('\u0325', "AḀaḁ"), ('\u0326', "SȘsșTȚtț"),
   ('\u0327', "CÇcçGĢgģKĶkķLĻlļNŅnņRŖrŗSŞsşTŢtţEȨeȩDḐdḑHḨhḩ"), ('\u0328', "AĄaąEĘeęIĮiįUŲuųOǪoǫ"),
   ('\u032d', "DḒdḓEḘeḙLḼlḽNṊnṋTṰtṱUṶuṷ"), ('\u032e', "HḪhḫ"), ('\u0330', "EḚeḛIḬiḭUṴuṵ"),
   ('\u0331', "BḆbḇDḎdḏKḴkḵLḺlḻNṈnṉRṞrṟTṮtṯZẔzẕhẖ"),
   ('\u0338', "←↚→↛↔↮⇐⇍⇔⇎⇒⇏∃∄∈∉∋∌∣∤∥∦∼≁≃≄≅≇≈≉=≠≡≢≍≭<≮>≯≤≰≥≱≲≴≳≵≶≸≷≹≺⊀≻⊁⊂⊄⊃⊅⊆⊈⊇⊉⊢⊬⊨⊭⊩⊮⊫⊯≼⋠≽⋡⊑⋢⊒⋣⊲⋪"),
   ('\u0338', "⊳⋫⊴⋬⊵⋭"), ('\u0342', "ἀἆἁἇἈἎἉἏἠἦἡἧἨἮἩἯἰἶἱἷἸἾἹἿὐὖὑὗὙὟὠὦὡὧὨὮὩὯαᾶ¨῁ηῆ᾿῏ιῖϊῗ῾῟υῦϋῧωῶ"),
   ('\u0345', "ἀᾀἁᾁἂᾂἃᾃἄᾄἅᾅἆᾆἇᾇἈᾈἉᾉἊᾊἋᾋἌᾌἍᾍἎᾎἏᾏἠᾐἡᾑἢᾒἣᾓἤᾔἥᾕἦᾖἧᾗἨᾘἩᾙἪᾚἫᾛἬᾜἭᾝἮᾞἯᾟὠᾠὡᾡὢᾢὣᾣὤᾤὥᾥὦᾦὧᾧὨᾨ"),
   ('\u0345', "ὩᾩὪᾪὫᾫὬᾬὭᾭὮᾮὯᾯὰᾲαᾳάᾴᾶᾷΑᾼὴῂηῃήῄῆῇΗῌὼῲωῳώῴῶῷΩῼ"), ('\u0653', "\u0627\u0622"),
   ('\u0654', "\u0627\u0623\u0648\u0624\u064a\u0626\u06d5\u06c0\u06c1\u06c2\u06d2\u06d3"),
   ('\u0655', "\u0627\u0625"), ('\u093c', "नऩरऱळऴ"), ('\u09be', "\u09c7\u09cb"),
   ('\u09d7', "\u09c7\u09cc"), ('\u0b3e', "\u0b47\u0b4b"), ('\u0b56', "\u0b47\u0b48"),
   ('\u0b57', "\u0b47\u0b4c"), ('\u0bbe', "\u0bc6\u0bca\u0bc7\u0bcb"), ('\u0bd7', "ஒஔ\u0bc6\u0bcc"),
   ('\u0c56', "\u0c46\u0c48"), ('\u0cc2', "\u0cc6\u0cca"),
   ('\u0cd5', "\u0cbf\u0cc0\u0cc6\u0cc7\u0cca\u0ccb"), ('\u0cd6', "\u0cc6\u0cc8"),
   ('\u0d3e', "\u0d46\u0d4a\u0d47\u0d4b"), ('\u0d57', "\u0d46\u0d4c"),
   ('\u0dca', "\u0dd9\u0dda\u0ddc\u0ddd"), ('\u0dcf', "\u0dd9\u0ddc"), ('\u0ddf', "\u0dd9\u0dde"),
   ('\u102e', "ဥဦ"),
   ('\u1b35', "ᬅᬆᬇᬈᬉᬊᬋᬌᬍᬎᬑᬒ\u1b3a\u1b3b\u1b3c\u1b3d\u1b3e\u1b40\u1b3f\u1b41\u1b42\u1b43"),
   ('\u3099', "かがきぎくぐけげこごさざしじすずせぜそぞただちぢつづてでとどはばひびふぶへべほぼうゔゝゞカガキギクグケゲコゴサザシジスズセゼソゾタダチヂツヅテデトドハバヒビフブヘベ"),
   ('\u3099', "ホボウヴワヷヰヸヱヹヲヺヽヾ"), ('\u309a', "はぱひぴふぷへぺほぽハパヒピフプヘペホポ"), ('𑂺', "𑂙𑂚𑂛𑂜𑂥𑂫"), ('𑄧', "𑄱𑄮𑄲𑄯"),
   ('𑌾', "𑍇𑍋"), ('𑍗', "𑍇𑍌"), ('𑎸', "𑏅𑎸"), ('𑎻', "𑎄𑎅"), ('𑏂', "𑎋𑎎𑏅𑏂"), ('𑏉', "𑎂𑎃𑎐𑎑𑏅𑏉"), ('𑒰', "𑒹𑒼"),
   ('𑒺', "𑒹𑒻"), ('𑒽', "𑒹𑒾"), ('𑖯', "𑖸𑖺𑖹𑖻"), ('𑤰', "𑤵𑤸"), ('𖄞', "𖄡𖄞"), ('𖄟', "𖄦𖄩𖄤𖄡𖄦𖄢𖄧"),
   ('𖄠', "𖄨𖄡𖄨"), ('𖄩', "𖄡𖄩"), ('𖵧', "𖵨𖵧𖵣𖵩𖵩𖵪")]

def pairs : List Char → List (Char × Char)
  | a :: b :: rest => (a, b) :: pairs rest
  | _ => []

/-! ### Syllables of Hangul

A syllable is composed of one of 19 leading consonants, one of 21 vowels and, unless there is none,
one of 27 trailing consonants. -/

/-- The two parts of a syllable: what stands before its trailing consonant, or before its vowel, and
that letter. -/
def splitSyllable? (c : Char) : Option (Char × Char) :=
  let n := c.toNat - 0xAC00
  if c.toNat < 0xAC00 ∨ 11172 ≤ n then none
  else if n % 28 = 0 then some (Char.ofNat (0x1100 + n / 588), Char.ofNat (0x1161 + n % 588 / 28))
  else some (Char.ofNat (c.toNat - n % 28), Char.ofNat (0x11A7 + n % 28))

def joinSyllable? (a b : Char) : Option Char :=
  let lead := a.toNat - 0x1100
  let vowel := b.toNat - 0x1161
  let trail := b.toNat - 0x11A7
  if 0x1100 ≤ a.toNat ∧ lead < 19 ∧ 0x1161 ≤ b.toNat ∧ vowel < 21 then
    some (Char.ofNat (0xAC00 + (lead * 21 + vowel) * 28))
  else if 0xAC00 ≤ a.toNat ∧ a.toNat < 0xAC00 + 11172 ∧ (a.toNat - 0xAC00) % 28 = 0 ∧
      0x11A7 < b.toNat ∧ trail < 28 then
    some (Char.ofNat (a.toNat + trail))
  else none

/-! ### Letters and marks -/

/-- The two characters that a composed one stands for. The first may be composed itself. -/
def split? (c : Char) : Option (Char × Char) :=
  if c.toNat < 0xC0 then none
  else
    match splitSyllable? c with
    | some p => some p
    | none => compositions.findSome? fun e =>
      ((pairs e.2.toList).find? (·.2 == c)).map fun p => (p.1, e.1)

/-- The character composed of two. -/
def join? (a b : Char) : Option Char :=
  match joinSyllable? a b with
  | some c => some c
  | none => compositions.findSome? fun e =>
    if e.1 = b then (pairs e.2.toList).lookup a else none

def expand (cs : List Char) : List Char :=
  cs.flatMap fun c =>
    match split? c with
    | some (a, b) => [a, b]
    | none => [c]

/-- Puts a character before others, but after the marks of a smaller class among the first. -/
def insertMark (c : Char) : List Char → List Char
  | [] => [c]
  | d :: rest =>
    if 0 < combiningClass d ∧ combiningClass d < combiningClass c then d :: insertMark c rest
    else c :: d :: rest

/-- Takes characters apart, and sorts the marks between two characters without a class by theirs.
No character is composed more than three times. -/
def decompose (cs : List Char) : List Char :=
  (expand (expand (expand cs))).foldr insertMark []

/-- Whether a mark of the same or a higher class, the last of `marks`, keeps a character apart
from what stands before the marks. -/
def isBlocked (marks : List Char) (c : Char) : Bool :=
  match marks.getLast? with
  | some d => combiningClass c ≤ combiningClass d
  | none => false

/-- Composes the character `base` with those of the characters that follow it and `marks`, which
stay apart from it. -/
def composeAfter (base : Char) (marks : List Char) : List Char → List Char
  | [] => base :: marks
  | c :: rest =>
    match if isBlocked marks c then none else join? base c with
    | some d => composeAfter d marks rest
    | none =>
      if combiningClass c = 0 then base :: marks ++ composeAfter c [] rest
      else composeAfter base (marks ++ [c]) rest

def compose (cs : List Char) : List Char :=
  match decompose cs with
  | [] => []
  | c :: rest => composeAfter c [] rest

end DirectoryAuth.Text.Composition
