import Daybook.Unicode.CodeSet
import Daybook.Unicode.Table.Script
import Daybook.Unicode.Table.Shared

set_option relaxedAutoImplicit false
set_option autoImplicit false

/-!
# Scripts by name

Every character belongs to one script, and may be used in others, too.

## Main definitions

* `scriptNamed?` — the characters that belong to a script.
* `scriptUsersNamed?` — the characters that are used in a script.

## Design

A script has a code of four letters, and the names are lists of spellings that begin with it. A
character that several scripts use belongs to the common or to the inherited ones, or to one of
them; the table of shared characters decides in which scripts it is used.
-/

namespace Daybook.Unicode

/-- What stands beside a name in a list of names with several spellings. -/
def lookUp {α : Type} (names : List (List String × α)) (name : String) : Option (List String × α) :=
  names.find? fun entry => entry.1.contains name

/-- The scripts by name. -/
def scriptNames : List (List String × Table) :=
  [(["adlm", "adlam"], Table.Script.adlam), (["ahom"], Table.Script.ahom),
    (["hluw", "anatolianhieroglyphs"], Table.Script.anatolianHieroglyphs),
    (["arab", "arabic"], Table.Script.arabic), (["armn", "armenian"], Table.Script.armenian),
    (["avst", "avestan"], Table.Script.avestan), (["bali", "balinese"], Table.Script.balinese),
    (["bamu", "bamum"], Table.Script.bamum), (["bass", "bassavah"], Table.Script.bassaVah),
    (["batk", "batak"], Table.Script.batak), (["beng", "bengali"], Table.Script.bengali),
    (["bhks", "bhaiksuki"], Table.Script.bhaiksuki),
    (["bopo", "bopomofo"], Table.Script.bopomofo), (["brah", "brahmi"], Table.Script.brahmi),
    (["brai", "braille"], Table.Script.braille), (["bugi", "buginese"], Table.Script.buginese),
    (["buhd", "buhid"], Table.Script.buhid),
    (["cans", "canadianaboriginal"], Table.Script.canadianAboriginal),
    (["cari", "carian"], Table.Script.carian),
    (["aghb", "caucasianalbanian"], Table.Script.caucasianAlbanian),
    (["cakm", "chakma"], Table.Script.chakma), (["cham"], Table.Script.cham),
    (["cher", "cherokee"], Table.Script.cherokee),
    (["chrs", "chorasmian"], Table.Script.chorasmian), (["zyyy", "common"], Table.Script.common),
    (["copt", "coptic", "qaac"], Table.Script.coptic),
    (["xsux", "cuneiform"], Table.Script.cuneiform), (["cprt", "cypriot"], Table.Script.cypriot),
    (["cpmn", "cyprominoan"], Table.Script.cyproMinoan),
    (["cyrl", "cyrillic"], Table.Script.cyrillic), (["dsrt", "deseret"], Table.Script.deseret),
    (["deva", "devanagari"], Table.Script.devanagari),
    (["diak", "divesakuru"], Table.Script.divesAkuru), (["dogr", "dogra"], Table.Script.dogra),
    (["dupl", "duployan"], Table.Script.duployan),
    (["egyp", "egyptianhieroglyphs"], Table.Script.egyptianHieroglyphs),
    (["elba", "elbasan"], Table.Script.elbasan), (["elym", "elymaic"], Table.Script.elymaic),
    (["ethi", "ethiopic"], Table.Script.ethiopic), (["gara", "garay"], Table.Script.garay),
    (["geor", "georgian"], Table.Script.georgian),
    (["glag", "glagolitic"], Table.Script.glagolitic), (["goth", "gothic"], Table.Script.gothic),
    (["gran", "grantha"], Table.Script.grantha), (["grek", "greek"], Table.Script.greek),
    (["gujr", "gujarati"], Table.Script.gujarati),
    (["gong", "gunjalagondi"], Table.Script.gunjalaGondi),
    (["guru", "gurmukhi"], Table.Script.gurmukhi),
    (["gukh", "gurungkhema"], Table.Script.gurungKhema), (["hani", "han"], Table.Script.han),
    (["hang", "hangul"], Table.Script.hangul),
    (["rohg", "hanifirohingya"], Table.Script.hanifiRohingya),
    (["hano", "hanunoo"], Table.Script.hanunoo), (["hatr", "hatran"], Table.Script.hatran),
    (["hebr", "hebrew"], Table.Script.hebrew), (["hira", "hiragana"], Table.Script.hiragana),
    (["armi", "imperialaramaic"], Table.Script.imperialAramaic),
    (["zinh", "inherited", "qaai"], Table.Script.inherited),
    (["phli", "inscriptionalpahlavi"], Table.Script.inscriptionalPahlavi),
    (["prti", "inscriptionalparthian"], Table.Script.inscriptionalParthian),
    (["java", "javanese"], Table.Script.javanese), (["kthi", "kaithi"], Table.Script.kaithi),
    (["knda", "kannada"], Table.Script.kannada), (["kana", "katakana"], Table.Script.katakana),
    (["kawi"], Table.Script.kawi), (["kali", "kayahli"], Table.Script.kayahLi),
    (["khar", "kharoshthi"], Table.Script.kharoshthi),
    (["kits", "khitansmallscript"], Table.Script.khitanSmallScript),
    (["khmr", "khmer"], Table.Script.khmer), (["khoj", "khojki"], Table.Script.khojki),
    (["sind", "khudawadi"], Table.Script.khudawadi),
    (["krai", "kiratrai"], Table.Script.kiratRai), (["laoo", "lao"], Table.Script.lao),
    (["latn", "latin"], Table.Script.latin), (["lepc", "lepcha"], Table.Script.lepcha),
    (["limb", "limbu"], Table.Script.limbu), (["lina", "lineara"], Table.Script.linearA),
    (["linb", "linearb"], Table.Script.linearB), (["lisu"], Table.Script.lisu),
    (["lyci", "lycian"], Table.Script.lycian), (["lydi", "lydian"], Table.Script.lydian),
    (["mahj", "mahajani"], Table.Script.mahajani), (["maka", "makasar"], Table.Script.makasar),
    (["mlym", "malayalam"], Table.Script.malayalam), (["mand", "mandaic"], Table.Script.mandaic),
    (["mani", "manichaean"], Table.Script.manichaean),
    (["marc", "marchen"], Table.Script.marchen),
    (["gonm", "masaramgondi"], Table.Script.masaramGondi),
    (["medf", "medefaidrin"], Table.Script.medefaidrin),
    (["mtei", "meeteimayek"], Table.Script.meeteiMayek),
    (["mend", "mendekikakui"], Table.Script.mendeKikakui),
    (["merc", "meroiticcursive"], Table.Script.meroiticCursive),
    (["mero", "meroitichieroglyphs"], Table.Script.meroiticHieroglyphs),
    (["plrd", "miao"], Table.Script.miao), (["modi"], Table.Script.modi),
    (["mong", "mongolian"], Table.Script.mongolian), (["mroo", "mro"], Table.Script.mro),
    (["mult", "multani"], Table.Script.multani), (["mymr", "myanmar"], Table.Script.myanmar),
    (["nbat", "nabataean"], Table.Script.nabataean),
    (["nagm", "nagmundari"], Table.Script.nagMundari),
    (["nand", "nandinagari"], Table.Script.nandinagari),
    (["talu", "newtailue"], Table.Script.newTaiLue), (["newa"], Table.Script.newa),
    (["nkoo", "nko"], Table.Script.nko), (["nshu", "nushu"], Table.Script.nushu),
    (["hmnp", "nyiakengpuachuehmong"], Table.Script.nyiakengPuachueHmong),
    (["ogam", "ogham"], Table.Script.ogham), (["olck", "olchiki"], Table.Script.olChiki),
    (["onao", "olonal"], Table.Script.olOnal),
    (["hung", "oldhungarian"], Table.Script.oldHungarian),
    (["ital", "olditalic"], Table.Script.oldItalic),
    (["narb", "oldnortharabian"], Table.Script.oldNorthArabian),
    (["perm", "oldpermic"], Table.Script.oldPermic),
    (["xpeo", "oldpersian"], Table.Script.oldPersian),
    (["sogo", "oldsogdian"], Table.Script.oldSogdian),
    (["sarb", "oldsoutharabian"], Table.Script.oldSouthArabian),
    (["orkh", "oldturkic"], Table.Script.oldTurkic),
    (["ougr", "olduyghur"], Table.Script.oldUyghur), (["orya", "oriya"], Table.Script.oriya),
    (["osge", "osage"], Table.Script.osage), (["osma", "osmanya"], Table.Script.osmanya),
    (["hmng", "pahawhhmong"], Table.Script.pahawhHmong),
    (["palm", "palmyrene"], Table.Script.palmyrene),
    (["pauc", "paucinhau"], Table.Script.pauCinHau), (["phag", "phagspa"], Table.Script.phagsPa),
    (["phnx", "phoenician"], Table.Script.phoenician),
    (["phlp", "psalterpahlavi"], Table.Script.psalterPahlavi),
    (["rjng", "rejang"], Table.Script.rejang), (["runr", "runic"], Table.Script.runic),
    (["samr", "samaritan"], Table.Script.samaritan),
    (["saur", "saurashtra"], Table.Script.saurashtra),
    (["shrd", "sharada"], Table.Script.sharada), (["shaw", "shavian"], Table.Script.shavian),
    (["sidd", "siddham"], Table.Script.siddham),
    (["sgnw", "signwriting"], Table.Script.signWriting),
    (["sinh", "sinhala"], Table.Script.sinhala), (["sogd", "sogdian"], Table.Script.sogdian),
    (["sora", "sorasompeng"], Table.Script.soraSompeng),
    (["soyo", "soyombo"], Table.Script.soyombo), (["sund", "sundanese"], Table.Script.sundanese),
    (["sunu", "sunuwar"], Table.Script.sunuwar),
    (["sylo", "sylotinagri"], Table.Script.sylotiNagri),
    (["syrc", "syriac"], Table.Script.syriac), (["tglg", "tagalog"], Table.Script.tagalog),
    (["tagb", "tagbanwa"], Table.Script.tagbanwa), (["tale", "taile"], Table.Script.taiLe),
    (["lana", "taitham"], Table.Script.taiTham), (["tavt", "taiviet"], Table.Script.taiViet),
    (["takr", "takri"], Table.Script.takri), (["taml", "tamil"], Table.Script.tamil),
    (["tnsa", "tangsa"], Table.Script.tangsa), (["tang", "tangut"], Table.Script.tangut),
    (["telu", "telugu"], Table.Script.telugu), (["thaa", "thaana"], Table.Script.thaana),
    (["thai"], Table.Script.thai), (["tibt", "tibetan"], Table.Script.tibetan),
    (["tfng", "tifinagh"], Table.Script.tifinagh), (["tirh", "tirhuta"], Table.Script.tirhuta),
    (["todr", "todhri"], Table.Script.todhri), (["toto"], Table.Script.toto),
    (["tutg", "tulutigalari"], Table.Script.tuluTigalari),
    (["ugar", "ugaritic"], Table.Script.ugaritic), (["vaii", "vai"], Table.Script.vai),
    (["vith", "vithkuqi"], Table.Script.vithkuqi), (["wcho", "wancho"], Table.Script.wancho),
    (["wara", "warangciti"], Table.Script.warangCiti), (["yezi", "yezidi"], Table.Script.yezidi),
    (["yiii", "yi"], Table.Script.yi),
    (["zanb", "zanabazarsquare"], Table.Script.zanabazarSquare)]

/-- The characters that belong to a script. -/
def scriptNamed? (name : String) : Option CodeSet :=
  (lookUp scriptNames name).map fun entry => .ofTable entry.2

/-- The characters that are shared by the scripts which a test accepts. -/
def sharedBy (test : List String → Bool) : CodeSet :=
  .ofTable ((Table.sharings.filter fun s => test s.scripts).map fun s => s.stretch)

/-- The characters that are used in a script: those that belong to it and are not shared by others
alone, and those that it shares. -/
def scriptUsersNamed? (name : String) : Option CodeSet := do
  let (spellings, table) ← lookUp scriptNames name
  let code ← spellings.head?
  let own := (CodeSet.ofTable table).diff (sharedBy fun scripts => !scripts.contains code)
  return own.union (sharedBy fun scripts => scripts.contains code)

end Daybook.Unicode
