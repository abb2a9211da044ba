import Tenancy.Text.Mark

/-!
# Composed text

Texts that look the same can be written with composed characters or with a character and its marks.
The composed form puts marks in the order of their combining classes and then composes as much as it
can. Syllables of Hangul are composed by arithmetic, all else by a table.
-/

namespace Tenancy.Text

/-- The composed characters, each followed by the two that it is composed of. -/
def compositions : List String :=
  ["ÀÀÁÁÂÂÃÃÄÄÅÅÇÇÈÈÉÉÊÊËËÌÌÍÍÎÎÏÏÑÑÒÒÓÓÔÔÕÕÖÖÙÙÚÚÛÛÜÜ",
    "ÝÝààááââããääååççèèééêêëëììííîîïïññòòóóôôõõööùùúúûû",
    "üüýýÿÿĀĀāāĂĂăăĄĄąąĆĆććĈĈĉĉĊĊċċČČččĎĎďďĒĒēēĔĔĕĕĖĖėė",
    "ĘĘęęĚĚěěĜĜĝĝĞĞğğĠĠġġĢĢģģĤĤĥĥĨĨĩĩĪĪīīĬĬĭĭĮĮįįİİĴĴĵĵ",
    "ĶĶķķĹĹĺĺĻĻļļĽĽľľŃŃńńŅŅņņŇŇňňŌŌōōŎŎŏŏŐŐőőŔŔŕŕŖŖŗŗŘŘ",
    "řřŚŚśśŜŜŝŝŞŞşşŠŠššŢŢţţŤŤťťŨŨũũŪŪūūŬŬŭŭŮŮůůŰŰűűŲŲųų",
    "ŴŴŵŵŶŶŷŷŸŸŹŹźźŻŻżżŽŽžžƠƠơơƯƯưưǍǍǎǎǏǏǐǐǑǑǒǒǓǓǔǔǕǕǖǖ",
    "ǗǗǘǘǙǙǚǚǛǛǜǜǞǞǟǟǠǠǡǡǢǢǣǣǦǦǧǧǨǨǩǩǪǪǫǫǬǬǭǭǮǮǯǯǰǰǴǴǵǵ",
    "ǸǸǹǹǺǺǻǻǼǼǽǽǾǾǿǿȀȀȁȁȂȂȃȃȄȄȅȅȆȆȇȇȈȈȉȉȊȊȋȋȌȌȍȍȎȎȏȏȐȐ",
    "ȑȑȒȒȓȓȔȔȕȕȖȖȗȗȘȘșșȚȚțțȞȞȟȟȦȦȧȧȨȨȩȩȪȪȫȫȬȬȭȭȮȮȯȯȰȰȱȱ",
    "ȲȲȳȳ΅΅ΆΆΈΈΉΉΊΊΌΌΎΎΏΏΐΐΪΪΫΫάάέέήήίίΰΰϊϊϋϋόόύύώώϓϓϔϔ",
    "ЀЀЁЁЃЃЇЇЌЌЍЍЎЎЙЙййѐѐёёѓѓїїќќѝѝўўѶѶѷѷӁӁӂӂӐӐӑӑӒӒӓӓӖӖ",
    "ӗӗӚӚӛӛӜӜӝӝӞӞӟӟӢӢӣӣӤӤӥӥӦӦӧӧӪӪӫӫӬӬӭӭӮӮӯӯӰӰӱӱӲӲӳӳӴӴӵӵ",
    "ӸӸӹӹآآأأؤؤإإئئۀۀۂۂۓۓऩऩऱऱऴऴোোৌৌୈୈୋୋୌୌஔஔொொோோௌௌైైೀೀೇೇ",
    "ೈೈೊೊೋೋൊൊോോൌൌේේොොෝෝෞෞဦဦᬆᬆᬈᬈᬊᬊᬌᬌᬎᬎᬒᬒᬻᬻᬽᬽᭀᭀᭁᭁᭃᭃḀḀḁḁḂḂ",
    "ḃḃḄḄḅḅḆḆḇḇḈḈḉḉḊḊḋḋḌḌḍḍḎḎḏḏḐḐḑḑḒḒḓḓḔḔḕḕḖḖḗḗḘḘḙḙḚḚḛḛ",
    "ḜḜḝḝḞḞḟḟḠḠḡḡḢḢḣḣḤḤḥḥḦḦḧḧḨḨḩḩḪḪḫḫḬḬḭḭḮḮḯḯḰḰḱḱḲḲḳḳḴḴ",
    "ḵḵḶḶḷḷḸḸḹḹḺḺḻḻḼḼḽḽḾḾḿḿṀṀṁṁṂṂṃṃṄṄṅṅṆṆṇṇṈṈṉṉṊṊṋṋṌṌṍṍ",
    "ṎṎṏṏṐṐṑṑṒṒṓṓṔṔṕṕṖṖṗṗṘṘṙṙṚṚṛṛṜṜṝṝṞṞṟṟṠṠṡṡṢṢṣṣṤṤṥṥṦṦ",
    "ṧṧṨṨṩṩṪṪṫṫṬṬṭṭṮṮṯṯṰṰṱṱṲṲṳṳṴṴṵṵṶṶṷṷṸṸṹṹṺṺṻṻṼṼṽṽṾṾṿṿ",
    "ẀẀẁẁẂẂẃẃẄẄẅẅẆẆẇẇẈẈẉẉẊẊẋẋẌẌẍẍẎẎẏẏẐẐẑẑẒẒẓẓẔẔẕẕẖẖẗẗẘẘ",
    "ẙẙẛẛẠẠạạẢẢảảẤẤấấẦẦầầẨẨẩẩẪẪẫẫẬẬậậẮẮắắẰẰằằẲẲẳẳẴẴẵẵẶẶ",
    "ặặẸẸẹẹẺẺẻẻẼẼẽẽẾẾếếỀỀềềỂỂểểỄỄễễỆỆệệỈỈỉỉỊỊịịỌỌọọỎỎỏỏ",
    "ỐỐốốỒỒồồỔỔổổỖỖỗỗỘỘộộỚỚớớỜỜờờỞỞởởỠỠỡỡỢỢợợỤỤụụỦỦủủỨỨ",
    "ứứỪỪừừỬỬửửỮỮữữỰỰựựỲỲỳỳỴỴỵỵỶỶỷỷỸỸỹỹἀἀἁἁἂἂἃἃἄἄἅἅἆἆἇἇ",
    "ἈἈἉἉἊἊἋἋἌἌἍἍἎἎἏἏἐἐἑἑἒἒἓἓἔἔἕἕἘἘἙἙἚἚἛἛἜἜἝἝἠἠἡἡἢἢἣἣἤἤ",
    "ἥἥἦἦἧἧἨἨἩἩἪἪἫἫἬἬἭἭἮἮἯἯἰἰἱἱἲἲἳἳἴἴἵἵἶἶἷἷἸἸἹἹἺἺἻἻἼἼἽἽ",
    "ἾἾἿἿὀὀὁὁὂὂὃὃὄὄὅὅὈὈὉὉὊὊὋὋὌὌὍὍὐὐὑὑὒὒὓὓὔὔὕὕὖὖὗὗὙὙὛὛὝὝ",
    "ὟὟὠὠὡὡὢὢὣὣὤὤὥὥὦὦὧὧὨὨὩὩὪὪὫὫὬὬὭὭὮὮὯὯὰὰὲὲὴὴὶὶὸὸὺὺὼὼᾀᾀ",
    "ᾁᾁᾂᾂᾃᾃᾄᾄᾅᾅᾆᾆᾇᾇᾈᾈᾉᾉᾊᾊᾋᾋᾌᾌᾍᾍᾎᾎᾏᾏᾐᾐᾑᾑᾒᾒᾓᾓᾔᾔᾕᾕᾖᾖᾗᾗᾘᾘᾙᾙ",
    "ᾚᾚᾛᾛᾜᾜᾝᾝᾞᾞᾟᾟᾠᾠᾡᾡᾢᾢᾣᾣᾤᾤᾥᾥᾦᾦᾧᾧᾨᾨᾩᾩᾪᾪᾫᾫᾬᾬᾭᾭᾮᾮᾯᾯᾰᾰᾱᾱᾲᾲ",
    "ᾳᾳᾴᾴᾶᾶᾷᾷᾸᾸᾹᾹᾺᾺᾼᾼ῁῁ῂῂῃῃῄῄῆῆῇῇῈῈῊῊῌῌ῍῍῎῎῏῏ῐῐῑῑῒῒῖῖῗῗ",
    "ῘῘῙῙῚῚ῝῝῞῞῟῟ῠῠῡῡῢῢῤῤῥῥῦῦῧῧῨῨῩῩῪῪῬῬ῭῭ῲῲῳῳῴῴῶῶῷῷῸῸῺῺ",
    "ῼῼ↚↚↛↛↮↮⇍⇍⇎⇎⇏⇏∄∄∉∉∌∌∤∤∦∦≁≁≄≄≇≇≉≉≠≠≢≢≭≭≮≮≯≯≰≰≱≱≴≴≵≵",
    "≸≸≹≹⊀⊀⊁⊁⊄⊄⊅⊅⊈⊈⊉⊉⊬⊬⊭⊭⊮⊮⊯⊯⋠⋠⋡⋡⋢⋢⋣⋣⋪⋪⋫⋫⋬⋬⋭⋭ががぎぎぐぐげげごご",
    "ざざじじずずぜぜぞぞだだぢぢづづででどどばばぱぱびびぴぴぶぶぷぷべべぺぺぼぼぽぽゔゔゞゞガガギギググ",
    "ゲゲゴゴザザジジズズゼゼゾゾダダヂヂヅヅデデドドババパパビビピピブブププベベペペボボポポヴヴヷヷヸヸ",
    "ヹヹヺヺヾヾ𑂚𑂚𑂜𑂜𑂫𑂫𑄮𑄮𑄯𑄯𑍋𑍋𑍌𑍌𑒻𑒻𑒼𑒼𑒾𑒾𑖺𑖺𑖻𑖻𑤸𑤸"]

def triples : List Char → List (Char × Char × Char)
  | c :: a :: b :: rest => (c, a, b) :: triples rest
  | _ => []

def compositionTable : List (Char × Char × Char) :=
  triples (compositions.flatMap String.toList)

namespace Hangul

/-- The first of the syllables. -/
def firstSyllable : Nat := 0xAC00

/-- The first of the leading consonants. -/
def firstLeading : Nat := 0x1100

/-- The first of the vowels. -/
def firstVowel : Nat := 0x1161

/-- The number before the first of the trailing consonants. -/
def noTrailing : Nat := 0x11A7

def leadings : Nat := 19

def vowels : Nat := 21

/-- The number of trailing consonants, none included. -/
def trailings : Nat := 28

def decompose? (c : Char) : Option (List Char) :=
  let n := c.toNat - firstSyllable
  if c.toNat < firstSyllable ∨ leadings * vowels * trailings ≤ n then none
  else
    let core := [Char.ofNat (firstLeading + n / (vowels * trailings)),
      Char.ofNat (firstVowel + n / trailings % vowels)]
    some (if n % trailings = 0 then core else core ++ [Char.ofNat (noTrailing + n % trailings)])

/-- The syllable of a consonant and a vowel, or of an open syllable and a consonant. -/
def compose? (a b : Char) : Option Char :=
  let l := a.toNat - firstLeading
  let v := b.toNat - firstVowel
  let s := a.toNat - firstSyllable
  let t := b.toNat - noTrailing
  if firstLeading ≤ a.toNat ∧ l < leadings ∧ firstVowel ≤ b.toNat ∧ v < vowels then
    some (Char.ofNat (firstSyllable + (l * vowels + v) * trailings))
  else if firstSyllable ≤ a.toNat ∧ s < leadings * vowels * trailings ∧ s % trailings = 0 ∧
      0 < t ∧ t < trailings then
    some (Char.ofNat (a.toNat + t))
  else none

end Hangul

/-- The character and the mark of which a composed character consists. -/
def decomposition? (c : Char) : Option (Char × Char) :=
  if c.toNat < 0xC0 then none
  else (compositionTable.find? fun e => e.1 = c).map (·.2)

/-- The composed character of a character and a mark. -/
def composite? (a b : Char) : Option Char :=
  (Hangul.compose? a b).or ((compositionTable.find? fun e => e.2 = (a, b)).map (·.1))

/-- A character in parts that are not composed; compositions are at most `depth` deep. -/
def decomposeChar : Nat → Char → List Char
  | 0, c => [c]
  | depth + 1, c =>
    match Hangul.decompose? c with
    | some cs => cs
    | none =>
      match decomposition? c with
      | some (a, b) => decomposeChar depth a ++ [b]
      | none => [c]

/-- Puts a character in front of a text whose marks are in order, and behind the marks that belong
in front of it. -/
def insertMark (c : Char) : List Char → List Char
  | [] => [c]
  | d :: cs =>
    if combiningClass d ≠ 0 ∧ combiningClass d < combiningClass c then d :: insertMark c cs
    else c :: d :: cs

/-- A text in parts that are not composed, its marks in the order of their classes. -/
def decompose (cs : List Char) : List Char :=
  (cs.flatMap (decomposeChar 4)).foldr insertMark []

/-- Composes what follows the character `a`, from which the marks `between` stand apart, the last of
them first. A mark of the same or a higher class in between keeps a mark from `a`. -/
def composeFrom (a : Char) (between : List Char) : List Char → List Char
  | [] => a :: between.reverse
  | c :: cs =>
    let apart := between.head?.any fun m => combiningClass c ≤ combiningClass m
    match if apart then none else composite? a c with
    | some x => composeFrom x between cs
    | none =>
      if combiningClass c = 0 then a :: between.reverse ++ composeFrom c [] cs
      else composeFrom a (c :: between) cs

def compose : List Char → List Char
  | [] => []
  | c :: cs => if combiningClass c = 0 then composeFrom c [] cs else c :: compose cs

def composed (cs : List Char) : List Char :=
  compose (decompose cs)

end Tenancy.Text
