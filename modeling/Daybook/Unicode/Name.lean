import Daybook.Unicode.LetterCase
import Daybook.Unicode.Script
import Daybook.Unicode.Segment
import Daybook.Unicode.Table.Age

set_option relaxedAutoImplicit false
set_option autoImplicit false

/-!
# Properties by name

A class of characters is asked for by the name of a property that a character has or has not, of a
general category, or of a script; or else by the name of a property that has several values, and
one of them. Names are compared loosely, without regard to case, blanks, hyphens, underscores and a
leading `is`.

## Main definitions

* `looseName` — what is compared of a name.
* `categoryNamed?`, `binaryNamed?`, `ageNamed?` — the classes that have a name.
* `classNamed?` — the class of a name of any kind.
* `classOf?` — the class of a value of a property that is named, too.
-/

namespace Daybook.Unicode

/-! ## Names -/

/-- What is compared of a name: its ASCII characters in lower case, without blanks, hyphens and
underscores, and without a leading `is`. The name of a code for other characters begins like that
by accident. -/
def looseName (name : String) : String :=
  let kept (cs : List Char) : List Char :=
    (cs.filter fun c => isAscii c && c != ' ' && c != '_' && c != '-').map Char.toLower
  match name.toList with
  | i :: s :: rest =>
    if i.toLower = 'i' && s.toLower = 's' then
      let others := kept rest
      if others = ['c'] then "isc" else String.ofList others
    else String.ofList (kept name.toList)
  | _ => String.ofList (kept name.toList)

/-! ## General categories -/

/-- The general categories and their groups by name. -/
def categoryNames : List (List String × List Category) :=
  [(["lu", "uppercaseletter"], [.upperCaseLetter]),
    (["ll", "lowercaseletter"], [.lowerCaseLetter]),
    (["lt", "titlecaseletter"], [.titleCaseLetter]),
    (["lc", "casedletter"], Category.casedLetters),
    (["lm", "modifierletter"], [.modifierLetter]),
    (["lo", "otherletter"], [.otherLetter]),
    (["l", "letter"], Category.letters),
    (["mn", "nonspacingmark"], [.nonspacingMark]),
    (["mc", "spacingmark"], [.spacingMark]),
    (["me", "enclosingmark"], [.enclosingMark]),
    (["m", "mark", "combiningmark"], Category.marks),
    (["nd", "decimalnumber", "digit"], [.decimalNumber]),
    (["nl", "letternumber"], [.letterNumber]),
    (["no", "othernumber"], [.otherNumber]),
    (["n", "number"], Category.numbers),
    (["pc", "connectorpunctuation"], [.connectorPunctuation]),
    (["pd", "dashpunctuation"], [.dashPunctuation]),
    (["ps", "openpunctuation"], [.openPunctuation]),
    (["pe", "closepunctuation"], [.closePunctuation]),
    (["pi", "initialpunctuation"], [.initialPunctuation]),
    (["pf", "finalpunctuation"], [.finalPunctuation]),
    (["po", "otherpunctuation"], [.otherPunctuation]),
    (["p", "punctuation", "punct"], Category.punctuation),
    (["sm", "mathsymbol"], [.mathSymbol]),
    (["sc", "currencysymbol"], [.currencySymbol]),
    (["sk", "modifiersymbol"], [.modifierSymbol]),
    (["so", "othersymbol"], [.otherSymbol]),
    (["s", "symbol"], Category.symbols),
    (["zs", "spaceseparator"], [.spaceSeparator]),
    (["zl", "lineseparator"], [.lineSeparator]),
    (["zp", "paragraphseparator"], [.paragraphSeparator]),
    (["z", "separator"], Category.separators),
    (["cc", "control", "cntrl"], [.control]),
    (["cf", "format"], [.format]),
    (["co", "privateuse"], [.privateUse]),
    (["cn", "unassigned"], [.unassigned]),
    (["c", "other"], Category.others)]

/-- The class of a general category. Three names stand for classes that are no categories. -/
def categoryNamed? (name : String) : Option CodeSet :=
  match name with
  | "any" => some .full
  | "assigned" => some (Category.members .unassigned).compl
  | "ascii" => some CharClass.ascii
  | _ => (lookUp categoryNames name).map fun entry => Category.unionOf entry.2

/-! ## Versions -/

/-- The versions of the character database by name, each with the code points it assigned. -/
def ageNames : List (List String × Table) :=
  [(["1.1", "v11"], Table.Age.version1_1), (["2.0", "v20"], Table.Age.version2_0),
    (["2.1", "v21"], Table.Age.version2_1), (["3.0", "v30"], Table.Age.version3_0),
    (["3.1", "v31"], Table.Age.version3_1), (["3.2", "v32"], Table.Age.version3_2),
    (["4.0", "v40"], Table.Age.version4_0), (["4.1", "v41"], Table.Age.version4_1),
    (["5.0", "v50"], Table.Age.version5_0), (["5.1", "v51"], Table.Age.version5_1),
    (["5.2", "v52"], Table.Age.version5_2), (["6.0", "v60"], Table.Age.version6_0),
    (["6.1", "v61"], Table.Age.version6_1), (["6.2", "v62"], Table.Age.version6_2),
    (["6.3", "v63"], Table.Age.version6_3), (["7.0", "v70"], Table.Age.version7_0),
    (["8.0", "v80"], Table.Age.version8_0), (["9.0", "v90"], Table.Age.version9_0),
    (["10.0", "v100"], Table.Age.version10_0), (["11.0", "v110"], Table.Age.version11_0),
    (["12.0", "v120"], Table.Age.version12_0), (["12.1", "v121"], Table.Age.version12_1),
    (["13.0", "v130"], Table.Age.version13_0), (["14.0", "v140"], Table.Age.version14_0),
    (["15.0", "v150"], Table.Age.version15_0), (["15.1", "v151"], Table.Age.version15_1),
    (["16.0", "v160"], Table.Age.version16_0)]

/-- The code points that a version and those before it assigned. -/
def ageNamed? (name : String) : Option CodeSet :=
  (ageNames.findIdx? fun entry => entry.1.contains name).map fun n =>
    .ofTables ((ageNames.take (n + 1)).map fun entry => entry.2)

/-! ## Properties that a character has or has not -/

/-- The properties that are simply listed, by name. -/
def listedNames : List (List String × Table) :=
  [(["asciihexdigit", "ahex"], Table.Listed.asciiHexDigit),
    (["bidicontrol", "bidic"], Table.Listed.bidiControl),
    (["bidimirrored", "bidim"], Table.Listed.bidiMirrored),
    (["changeswhencasefolded", "cwcf"], Table.Listed.changesWhenCasefolded),
    (["changeswhencasemapped", "cwcm"], Table.Listed.changesWhenCasemapped),
    (["changeswhenlowercased", "cwl"], Table.Listed.changesWhenLowercased),
    (["changeswhentitlecased", "cwt"], Table.Listed.changesWhenTitlecased),
    (["changeswhenuppercased", "cwu"], Table.Listed.changesWhenUppercased),
    (["dash"], Table.Listed.dash),
    (["defaultignorablecodepoint", "di"], Table.Listed.defaultIgnorableCodePoint),
    (["deprecated", "dep"], Table.Listed.deprecated),
    (["diacritic", "dia"], Table.Listed.diacritic), (["emoji"], Table.Listed.emoji),
    (["emojicomponent", "ecomp"], Table.Listed.emojiComponent),
    (["emojimodifier", "emod"], Table.Listed.emojiModifier),
    (["emojimodifierbase", "ebase"], Table.Listed.emojiModifierBase),
    (["emojipresentation", "epres"], Table.Listed.emojiPresentation),
    (["extendedpictographic", "extpict"], Table.Listed.extendedPictographic),
    (["extender", "ext"], Table.Listed.extender),
    (["graphemelink", "grlink"], Table.Listed.graphemeLink),
    (["hexdigit", "hex"], Table.Listed.hexDigit), (["hyphen"], Table.Listed.hyphen),
    (["idcompatmathcontinue"], Table.Listed.idCompatMathContinue),
    (["idcompatmathstart"], Table.Listed.idCompatMathStart),
    (["idsbinaryoperator", "idsb"], Table.Listed.idsBinaryOperator),
    (["idstrinaryoperator", "idst"], Table.Listed.idsTrinaryOperator),
    (["idsunaryoperator", "idsu"], Table.Listed.idsUnaryOperator),
    (["ideographic", "ideo"], Table.Listed.ideographic),
    (["joincontrol", "joinc"], Table.Listed.joinControl),
    (["logicalorderexception", "loe"], Table.Listed.logicalOrderException),
    (["modifiercombiningmark", "mcm"], Table.Listed.modifierCombiningMark),
    (["noncharactercodepoint", "nchar"], Table.Listed.noncharacterCodePoint),
    (["patternsyntax", "patsyn"], Table.Listed.patternSyntax),
    (["patternwhitespace", "patws"], Table.Listed.patternWhiteSpace),
    (["prependedconcatenationmark", "pcm"], Table.Listed.prependedConcatenationMark),
    (["quotationmark", "qmark"], Table.Listed.quotationMark), (["radical"], Table.Listed.radical),
    (["regionalindicator", "ri"], Table.Listed.regionalIndicator),
    (["sentenceterminal", "sterm"], Table.Listed.sentenceTerminal),
    (["softdotted", "sd"], Table.Listed.softDotted),
    (["terminalpunctuation", "term"], Table.Listed.terminalPunctuation),
    (["unifiedideograph", "uideo"], Table.Listed.unifiedIdeograph),
    (["variationselector", "vs"], Table.Listed.variationSelector),
    (["otheralphabetic", "oalpha"], Table.otherAlphabetic),
    (["otherdefaultignorablecodepoint", "odi"], Table.otherDefaultIgnorable),
    (["othergraphemeextend", "ogrext"], Table.otherGraphemeExtend),
    (["otheridcontinue", "oidc"], Table.otherContinue),
    (["otheridstart", "oids"], Table.otherStart),
    (["otherlowercase", "olower"], Table.otherLowerCase),
    (["othermath", "omath"], Table.otherMath),
    (["otheruppercase", "oupper"], Table.otherUpperCase),
    (["whitespace", "wspace", "space"], Table.whiteSpace)]

/-- The properties that are made from categories, by name. -/
def derivedNamed? (name : String) : Option CodeSet :=
  match name with
  | "alphabetic" | "alpha" => some CharClass.alphabetic
  | "caseignorable" | "ci" => some CharClass.caseIgnorable
  | "cased" => some CharClass.cased
  | "graphemebase" | "grbase" => some CharClass.graphemeBase
  | "graphemeextend" | "grext" => some CharClass.graphemeExtend
  | "idcontinue" | "idc" => some CharClass.identifierContinue
  | "idstart" | "ids" => some CharClass.identifierStart
  | "lowercase" | "lower" => some CharClass.lowerCase
  | "math" => some CharClass.math
  | "uppercase" | "upper" => some CharClass.upperCase
  | "xidcontinue" | "xidc" => some CharClass.normalIdentifierContinue
  | "xidstart" | "xids" => some CharClass.normalIdentifierStart
  | _ => none

/-- The class of a property that a character has or has not. -/
def binaryNamed? (name : String) : Option CodeSet :=
  (derivedNamed? name).or ((lookUp listedNames name).map fun entry => .ofTable entry.2)

/-! ## Any name -/

/-- The class with a name of any kind. Where a name is both a property's and a category's, the
property is meant. -/
def classNamed? (name : String) : Option CodeSet :=
  let loose := looseName name
  (binaryNamed? loose).or ((categoryNamed? loose).or (scriptNamed? loose))

/-- The class with a value of a property that has several. -/
def classOf? (property value : String) : Option CodeSet :=
  let loose := looseName value
  match looseName property with
  | "gc" | "generalcategory" => categoryNamed? loose
  | "sc" | "script" => scriptNamed? loose
  | "scx" | "scriptextensions" => scriptUsersNamed? loose
  | "age" => ageNamed? loose
  | "gcb" | "graphemeclusterbreak" => Segment.graphemeBreak? loose
  | "wb" | "wordbreak" => Segment.wordBreak? loose
  | "sb" | "sentencebreak" => Segment.sentenceBreak? loose
  | _ => none

end Daybook.Unicode
