import DesignTokens.Text.CombiningClass

/-!
The canonical composition of a text. A character with its marks may be written as one character or
as several, and the marks in more than one order. `composed` takes all apart, puts the marks in
order, and puts together what can be. The characters are those that small letters and other
characters without case are composed to.
-/

namespace DesignTokens.Text

def compositionRows : List (Nat × String × String) :=
  [(0x300, "aeinouwyâêôüăēōơưαεηιουωϊϋеиἀἁἐἑἠἡἰἱὀὁὐ", "àèìǹòùẁỳầềồǜằḕṑờừὰὲὴὶὸὺὼῒῢѐѝἂἃἒἓἢἣἲἳὂὃὒ"),
   (0x300, "ὑὠὡ", "ὓὢὣ"),
   (0x301, "acegiklmnoprsuwyzâåæçêïôõøüăēōũơưαεηιου", "áćéǵíḱĺḿńóṕŕśúẃýźấǻǽḉếḯốṍǿǘắḗṓṹớứάέήίόύ"),
   (0x301, "ωϊϋгкἀἁἐἑἠἡἰἱὀὁὐὑὠὡ", "ώΐΰѓќἄἅἔἕἤἥἴἵὄὅὔὕὤὥ"),
   (0x302, "aceghijosuwyzạẹọ", "âĉêĝĥîĵôŝûŵŷẑậệộ"), (0x303, "aeinouvyâêôăơư", "ãẽĩñõũṽỹẫễỗẵỡữ"),
   (0x304, "aegiouyäæõöüǫȧȯαιυиуḷṛ", "āēḡīōūȳǟǣȭȫǖǭǡȱᾱῑῡӣӯḹṝ"),
   (0x306, "aegiouȩαιυаежиуạ", "ăĕğĭŏŭḝᾰῐῠӑӗӂйўặ"),
   (0x307, "abcdefghmnoprstwxyzśšṣ𐗒𐗚", "ȧḃċḋėḟġḣṁṅȯṗṙṡṫẇẋẏżṥṧṩ𐗉𐗤"),
   (0x308, "aehiotuwxyõūιυаежзиоучыэіәө", "äëḧïöẗüẅẍÿṏṻϊϋӓёӝӟӥӧӱӵӹӭїӛӫ"),
   (0x309, "aeiouyâêôăơư", "ảẻỉỏủỷẩểổẳởử"), (0x30a, "auwy", "åůẘẙ"), (0x30b, "ouу", "őűӳ"),
   (0x30c, "acdeghijklnorstuzüʒ", "ǎčďěǧȟǐǰǩľňǒřšťǔžǚǯ"), (0x30f, "aeioruѵ", "ȁȅȉȍȑȕѷ"),
   (0x311, "aeioru", "ȃȇȋȏȓȗ"), (0x313, "αεηιορυω", "ἀἐἠἰὀῤὐὠ"), (0x314, "αεηιορυω", "ἁἑἡἱὁῥὑὡ"),
   (0x31b, "ou", "ơư"), (0x323, "abdehiklmnorstuvwyzơư", "ạḅḍẹḥịḳḷṃṇọṛṣṭụṿẉỵẓợự"),
   (0x324, "u", "ṳ"), (0x325, "a", "ḁ"), (0x326, "st", "șț"),
   (0x327, "cdeghklnrst", "çḑȩģḩķļņŗşţ"), (0x328, "aeiou", "ąęįǫų"), (0x32d, "delntu", "ḓḙḽṋṱṷ"),
   (0x32e, "h", "ḫ"), (0x330, "eiu", "ḛḭṵ"), (0x331, "bdhklnrtz", "ḇḏẖḵḻṉṟṯẕ"),
   (0x338, "<=>←→↔⇐⇒⇔∃∈∋∣∥∼≃≅≈≍≡≤≥≲≳≶≷≺≻≼≽⊂⊃⊆⊇⊑⊒⊢⊨⊩", "≮≠≯↚↛↮⇍⇏⇎∄∉∌∤∦≁≄≇≉≭≢≰≱≴≵≸≹⊀⊁⋠⋡⊄⊅⊈⊉⋢⋣⊬⊭⊮"),
   (0x338, "⊫⊲⊳⊴⊵", "⊯⋪⋫⋬⋭"), (0x342, "αηιυωϊϋἀἁἠἡἰἱὐὑὠὡ", "ᾶῆῖῦῶῗῧἆἇἦἧἶἷὖὗὦὧ"),
   (0x653, "\u0627", "\u0622"),
   (0x654, "\u0627\u0648\u064a\u06c1\u06d2\u06d5", "\u0623\u0624\u0626\u06c2\u06d3\u06c0"),
   (0x655, "\u0627", "\u0625"), (0x93c, "नरळ", "ऩऱऴ"), (0x9be, "\u09c7", "\u09cb"),
   (0x9d7, "\u09c7", "\u09cc"), (0xb3e, "\u0b47", "\u0b4b"), (0xb56, "\u0b47", "\u0b48"),
   (0xb57, "\u0b47", "\u0b4c"), (0xbbe, "\u0bc6\u0bc7", "\u0bca\u0bcb"),
   (0xbd7, "ஒ\u0bc6", "ஔ\u0bcc"), (0xc56, "\u0c46", "\u0c48"), (0xcc2, "\u0cc6", "\u0cca"),
   (0xcd5, "\u0cbf\u0cc6\u0cca", "\u0cc0\u0cc7\u0ccb"), (0xcd6, "\u0cc6", "\u0cc8"),
   (0xd3e, "\u0d46\u0d47", "\u0d4a\u0d4b"), (0xd57, "\u0d46", "\u0d4c"),
   (0xdca, "\u0dd9\u0ddc", "\u0dda\u0ddd"), (0xdcf, "\u0dd9", "\u0ddc"),
   (0xddf, "\u0dd9", "\u0dde"), (0x102e, "ဥ", "ဦ"),
   (0x1b35, "ᬅᬇᬉᬋᬍᬑ\u1b3a\u1b3c\u1b3e\u1b3f\u1b42", "ᬆᬈᬊᬌᬎᬒ\u1b3b\u1b3d\u1b40\u1b41\u1b43"),
   (0x3099, "うかきくけこさしすせそたちつてとはひふへほゝウカキクケコサシスセソタチツテトハ", "ゔがぎぐげござじずぜぞだぢづでどばびぶべぼゞヴガギグゲゴザジズゼゾダヂヅデドバ"),
   (0x3099, "ヒフヘホワヰヱヲヽ", "ビブベボヷヸヹヺヾ"), (0x309a, "はひふへほハヒフヘホ", "ぱぴぷぺぽパピプペポ"),
   (0x110ba, "𑂙𑂛𑂥", "𑂚𑂜𑂫"), (0x11127, "𑄱𑄲", "𑄮𑄯"), (0x1133e, "𑍇", "𑍋"), (0x11357, "𑍇", "𑍌"),
   (0x113b8, "𑏂", "𑏇"), (0x113bb, "𑎄", "𑎅"), (0x113c2, "𑎎", "𑎎𑏅"), (0x113c9, "𑎂𑎐𑏂", "𑎃𑎑𑏈"),
   (0x114b0, "𑒹", "𑒼"), (0x114ba, "𑒹", "𑒻"), (0x114bd, "𑒹", "𑒾"), (0x115af, "𑖸𑖹", "𑖺𑖻"),
   (0x11930, "𑤵", "𑤸"), (0x1611e, "𖄞", "𖄡"), (0x1611f, "𖄡𖄡𖄩𖄩", "𖄣𖄦𖄧𖄤"), (0x16120, "𖄡𖄞", "𖄥𖄨"),
   (0x16129, "𖄞", "𖄢"), (0x16d67, "𖵩𖵩", "𖵪𖵧𖵪")]

def compositions : List (Char × Char × Char) :=
  compositionRows.flatMap fun (mark, bases, wholes) =>
    List.zipWith (fun base whole => (whole, base, .ofNat mark)) bases.toList wholes.toList

namespace Hangul

def split? (c : Char) : Option (Char × Char) :=
  let n := c.toNat - 0xac00
  if c.toNat < 0xac00 ∨ 11172 ≤ n then none
  else if n % 28 = 0 then some (.ofNat (0x1100 + n / 588), .ofNat (0x1161 + n % 588 / 28))
  else some (.ofNat (c.toNat - n % 28), .ofNat (0x11a7 + n % 28))

def join? (a b : Char) : Option Char :=
  if 0x1100 ≤ a.toNat ∧ a.toNat < 0x1113 ∧ 0x1161 ≤ b.toNat ∧ b.toNat < 0x1176 then
    some (.ofNat (0xac00 + 588 * (a.toNat - 0x1100) + 28 * (b.toNat - 0x1161)))
  else if 0xac00 ≤ a.toNat ∧ a.toNat < 0xd7a4 ∧ (a.toNat - 0xac00) % 28 = 0 ∧
      0x11a8 ≤ b.toNat ∧ b.toNat < 0x11c3 then
    some (.ofNat (a.toNat + (b.toNat - 0x11a7)))
  else none

end Hangul

def split? (c : Char) : Option (Char × Char) := (Hangul.split? c).or (compositions.lookup c)

def join? (a b : Char) : Option Char :=
  (Hangul.join? a b).or
    ((compositions.find? fun (_, base, mark) => base = a && mark = b).map (·.1))

def decomposed : Nat → Char → List Char
  | 0, c => [c]
  | n + 1, c =>
    match split? c with
    | some (a, b) => decomposed n a ++ [b]
    | none => [c]

/-- Puts a mark behind those that are there, the last first, but in front of those of a higher
    class. -/
def placeMark (c : Char) : List Char → List Char
  | [] => [c]
  | d :: rest =>
    if 0 < combiningClass c ∧ combiningClass c < combiningClass d then d :: placeMark c rest
    else c :: d :: rest

def ordered (s : List Char) : List Char := (s.foldl (fun before c => placeMark c before) []).reverse

structure Composition where
  out : List Char
  base : Option Char
  marks : List Char

namespace Composition

def isNear (p : Composition) (c : Char) : Bool :=
  match p.marks with
  | [] => true
  | mark :: _ => combiningClass mark < combiningClass c

def text (p : Composition) : List Char := p.marks ++ p.base.toList ++ p.out

def add (p : Composition) (c : Char) : Composition :=
  match if p.isNear c then p.base.bind (join? · c) else none with
  | some whole => { p with base := some whole }
  | none =>
    if combiningClass c = 0 then ⟨p.text, some c, []⟩ else { p with marks := c :: p.marks }

end Composition

def composed (s : List Char) : List Char :=
  ((ordered (s.flatMap (decomposed 2))).foldl Composition.add ⟨[], none, []⟩).text.reverse

end DesignTokens.Text
