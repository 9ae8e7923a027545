import Daybook.Unicode.Class
import Daybook.Unicode.Table.Script
import Daybook.Unicode.Table.Segment

set_option relaxedAutoImplicit false
set_option autoImplicit false

/-!
# Classes of segmentation

The classes of characters that decide where graphemes, words and sentences end. Every character has
one class of each of the three kinds, or none.

## Main definitions

* `graphemeBreak?` — the classes for graphemes, by name.
* `wordBreak?` — the classes for words, by name.
* `sentenceBreak?` — the classes for sentences, by name.

## Design

The names are in lower case and without underscores, the short one first.
-/

namespace Daybook.Unicode.Segment

/-! ## Shared classes -/

/-- The joiner of zero width. -/
def joiner : CodeSet :=
  .single '\u200d'

/-- Marks that enclose the digits behind them. -/
def concatenating : CodeSet :=
  .ofTable Table.Listed.prependedConcatenationMark

/-- Characters that go with the one before them in a word. -/
def wordExtend : CodeSet :=
  CodeSet.unions
    [CharClass.graphemeExtend, .ofTable Table.spacingMark, .ofTable Table.Listed.emojiModifier]

/-- Characters that go with the one before them in a sentence. -/
def sentenceExtend : CodeSet :=
  CodeSet.unions [CharClass.graphemeExtend, .ofTable Table.spacingMark, joiner]

/-- The characters of numbers in a sentence. -/
def sentenceNumber : CodeSet :=
  .ofTables [Table.decimalNumber, Table.Segment.numericAdded]

/-! ## Graphemes -/

/-- Characters that are graphemes by themselves. -/
def graphemeControl : CodeSet :=
  let ignorable := (Category.members .unassigned).inter
    (.ofTable Table.Listed.defaultIgnorableCodePoint)
  let controls := (Category.unionOf
    [.lineSeparator, .paragraphSeparator, .control, .format]).union ignorable
  controls.diff (CodeSet.unions
    [CharClass.graphemeExtend, concatenating, joiner, .single '\r', .single '\n'])

/-- Marks that take room and go with the character before them. -/
def graphemeSpacingMark : CodeSet :=
  let marks := (CodeSet.ofTable Table.spacingMark).diff CharClass.graphemeExtend
  (marks.diff (.ofTable Table.Segment.spacingMarkRemoved)).union
    (.ofTable Table.Segment.spacingMarkAdded)

/-- The class for graphemes that has a name. -/
def graphemeBreak? (name : String) : Option CodeSet :=
  match name with
  | "cn" | "control" => some graphemeControl
  | "cr" => some (.single '\r')
  | "lf" => some (.single '\n')
  | "ex" | "extend" =>
    some (CharClass.graphemeExtend.union (.ofTable Table.Listed.emojiModifier))
  | "pp" | "prepend" => some (concatenating.union (.ofTable Table.Segment.prepended))
  | "sm" | "spacingmark" => some graphemeSpacingMark
  | "l" => some (.ofTable Table.Segment.leadingConsonant)
  | "v" => some (.ofTable Table.Segment.vowel)
  | "t" => some (.ofTable Table.Segment.trailingConsonant)
  | "lv" => some (.ofTable Table.Segment.openSyllable)
  | "lvt" =>
    some ((CodeSet.ofTable Table.Segment.syllable).diff (.ofTable Table.Segment.openSyllable))
  | "ri" | "regionalindicator" => some (.ofTable Table.Listed.regionalIndicator)
  | "zwj" => some joiner
  | _ => none

/-! ## Words -/

/-- Katakana and the marks that are used with it. -/
def katakana : CodeSet :=
  .ofTables [Table.Script.katakana, Table.Segment.katakanaAdded]

/-- Hebrew letters, which take a quotation mark inside a word. -/
def hebrewLetter : CodeSet :=
  (CodeSet.ofTable Table.Script.hebrew).inter (.ofTable Table.otherLetter)

/-- The characters of numbers in a word. -/
def wordNumber : CodeSet :=
  sentenceNumber.diff (.single '\u066c')

/-- The letters of words that are divided by blanks. -/
def wordLetter : CodeSet :=
  let others := CodeSet.unions
    [.ofTable Table.Listed.ideographic, katakana, .ofTable Table.Script.hiragana, wordExtend,
      hebrewLetter, .ofTable Table.Segment.unspaced]
  (CharClass.alphabetic.diff others).union (.ofTable Table.Segment.letterLike)

/-- Format characters that are passed over in words. -/
def wordFormat : CodeSet :=
  (CodeSet.ofTable Table.format).diff (CodeSet.unions
    [wordNumber, wordLetter, wordExtend, joiner, .ofTable Table.Segment.zeroWidth])

/-- The class for words that has a name. -/
def wordBreak? (name : String) : Option CodeSet :=
  match name with
  | "cr" => some (.single '\r')
  | "lf" => some (.single '\n')
  | "nl" | "newline" => some (.ofTable Table.Segment.breaking)
  | "extend" => some wordExtend
  | "zwj" => some joiner
  | "ri" | "regionalindicator" => some (.ofTable Table.Listed.regionalIndicator)
  | "fo" | "format" => some wordFormat
  | "ka" | "katakana" => some katakana
  | "hl" | "hebrewletter" => some hebrewLetter
  | "le" | "aletter" => some wordLetter
  | "sq" | "singlequote" => some (.single '\'')
  | "dq" | "doublequote" => some (.single '"')
  | "mb" | "midnumlet" => some (.ofTable Table.Segment.midBoth)
  | "ml" | "midletter" => some (.ofTable Table.Segment.midLetter)
  | "mn" | "midnum" => some (.ofTable Table.Segment.midNumber)
  | "nu" | "numeric" => some wordNumber
  | "ex" | "extendnumlet" =>
    some ((CodeSet.ofTable Table.connectorPunctuation).union (.single '\u202f'))
  | "wsegspace" =>
    some ((CodeSet.ofTable Table.spaceSeparator).diff
      (CodeSet.unions [.single '\u00a0', .single '\u2007', .single '\u202f']))
  | _ => none

/-! ## Sentences -/

/-- Small letters in a sentence. -/
def sentenceLower : CodeSet :=
  (CharClass.lowerCase.diff CharClass.graphemeExtend).diff
    (.ofTable Table.Segment.caselessGeorgian)

/-- Capitals in a sentence. -/
def sentenceUpper : CodeSet :=
  (CharClass.upperCase.union (.ofTable Table.titleCaseLetter)).diff
    (.ofTable Table.Segment.caselessGeorgian)

/-- Letters without case in a sentence. -/
def sentenceLetter : CodeSet :=
  (CharClass.alphabetic.diff (CodeSet.unions [sentenceLower, sentenceUpper, sentenceExtend])).union
    (.single '\u05f3')

/-- Separators that end a sentence. -/
def sentenceSeparator : CodeSet :=
  (CodeSet.ofTables [Table.lineSeparator, Table.paragraphSeparator]).union (.single '\u0085')

/-- The class for sentences that has a name. -/
def sentenceBreak? (name : String) : Option CodeSet :=
  match name with
  | "cr" => some (.single '\r')
  | "lf" => some (.single '\n')
  | "ex" | "extend" => some sentenceExtend
  | "se" | "sep" => some sentenceSeparator
  | "fo" | "format" =>
    some ((CodeSet.ofTable Table.format).diff (sentenceNumber.union sentenceExtend))
  | "sp" =>
    some (CharClass.whiteSpace.diff
      (CodeSet.unions [sentenceSeparator, .single '\r', .single '\n']))
  | "lo" | "lower" => some sentenceLower
  | "up" | "upper" => some sentenceUpper
  | "le" | "oletter" => some sentenceLetter
  | "nu" | "numeric" => some sentenceNumber
  | "at" | "aterm" => some (.ofTable Table.Segment.abbreviating)
  | "sc" | "scontinue" => some (.ofTable Table.Segment.continuing)
  | "st" | "sterm" =>
    some ((CodeSet.ofTable Table.Listed.sentenceTerminal).diff
      (.ofTable Table.Segment.abbreviating))
  | "cl" | "close" =>
    some ((Category.unionOf [.openPunctuation, .closePunctuation, .initialPunctuation,
      .finalPunctuation]).union (.ofTable Table.Segment.closing))
  | _ => none

end Daybook.Unicode.Segment
