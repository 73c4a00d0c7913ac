import Criteria.Unicode.Category
import Criteria.Unicode.PropertyTable
import Criteria.Unicode.ScriptTable

/-!
# Breaking text

The classes by which text is broken into grapheme clusters, words and sentences. Each class is given
by the categories and properties that it is made of, plus or minus a few code points. Whatever is in
no class breaks by default; that remainder has no class of its own.

* `GraphemeBreak`, `WordBreak`, `SentenceBreak` — the classes.
* `ofName?` — a class by one of its names, which are in the form in which names are compared.
* `members` — the code points of a class.
-/

set_option autoImplicit false

namespace Criteria.Unicode

def Property.set (p : Property) : CodeSet := CodeSet.ofTable p.members

/-- The code points that belong to a script alone. -/
def Script.ownSet (s : Script) : CodeSet := CodeSet.ofTable s.own

/-- The code points used with a script, shared ones included. -/
def Script.extendedSet (s : Script) : CodeSet :=
  CodeSet.ofTable (if s.extended.isEmpty then s.own else s.extended)

/-- The joiner of emoji. -/
def zeroWidthJoiner : CodeSet := .single 0x200d

/-! ## Grapheme clusters -/

/-- The classes of code points in grapheme clusters. -/
inductive GraphemeBreak where
  | carriageReturn
  | lineFeed
  | control
  | extend
  | joiner
  | regionalIndicator
  | prepend
  | spacingMark
  /-- The jamos, and the syllables without and with a trailing consonant. -/
  | leadingJamo
  | vowelJamo
  | trailingJamo
  | openSyllable
  | closedSyllable
  deriving DecidableEq, Repr

namespace GraphemeBreak

def ofName? : String → Option GraphemeBreak
  | "cr" => some carriageReturn
  | "lf" => some lineFeed
  | "cn" | "control" => some control
  | "ex" | "extend" => some extend
  | "zwj" => some joiner
  | "ri" | "regionalindicator" => some regionalIndicator
  | "pp" | "prepend" => some prepend
  | "sm" | "spacingmark" => some spacingMark
  | "l" => some leadingJamo
  | "v" => some vowelJamo
  | "t" => some trailingJamo
  | "lv" => some openSyllable
  | "lvt" => some closedSyllable
  | _ => none

/-- How many syllables share their leading consonant and vowel. -/
def syllablesPerVowel : Nat := 28

/-- The pairs of a leading consonant and a vowel. -/
def syllableBlocks : List Nat := List.range 399

/-- The first syllable of a block, which has no trailing consonant. -/
def openCode (block : Nat) : Nat := 0xac00 + syllablesPerVowel * block

/-- The code points of a class. -/
def members : GraphemeBreak → CodeSet
  | carriageReturn => .single 0x0d
  | lineFeed => .single 0x0a
  | control =>
    let invisible := CodeSet.unions
      [categorySet "zl", categorySet "zp", categorySet "cc", categorySet "cf",
        unassigned.intersection PropertyTable.defaultIgnorableCodePoint.set]
    let elsewhere := CodeSet.unions
      [.single 0x0d, .single 0x0a, zeroWidthJoiner, PropertyTable.prependedConcatenationMark.set,
        PropertyTable.graphemeExtend.set]
    invisible.difference elsewhere
  | extend => PropertyTable.graphemeExtend.set.union PropertyTable.emojiModifier.set
  | joiner => zeroWidthJoiner
  | regionalIndicator => PropertyTable.regionalIndicator.set
  | prepend =>
    PropertyTable.prependedConcatenationMark.set.union
      (.ofTable "d4e 111c2-111c3 113d1 1193f 11941 11a3a 11a84-11a89 11d46 11f02")
  | spacingMark =>
    let marks := (categorySet "mc").union (.ofTable "e33 eb3")
    let elsewhere := PropertyTable.graphemeExtend.set.union
      (.ofTable
        "102b-102c 1038 1062-1064 1067-106d 1083 1087-108c 108f 109a-109c 1a61 1a63-1a64 aa7b
         aa7d 11720-11721")
    marks.difference elsewhere
  | leadingJamo => .ofTable "1100-115f a960-a97c"
  | vowelJamo => .ofTable "1160-11a7 d7b0-d7c6 16d63 16d67-16d6a"
  | trailingJamo => .ofTable "11a8-11ff d7cb-d7fb"
  | openSyllable => ⟨syllableBlocks.map fun b => (openCode b, openCode b)⟩
  | closedSyllable =>
    ⟨syllableBlocks.map fun b => (openCode b + 1, openCode b + (syllablesPerVowel - 1))⟩

end GraphemeBreak

/-- Marks and other code points that go on with what stands before them. -/
def continuingSet : CodeSet := PropertyTable.graphemeExtend.set.union (categorySet "mc")

/-- Format controls that text is broken around, but for the numeric ones. -/
def formatSet : CodeSet :=
  (categorySet "cf").difference
    (CodeSet.unions
      [PropertyTable.prependedConcatenationMark.set, .ofTable "200c-200d e0020-e007f"])

/-- Decimal digits, the signs that stand before numbers, and the decimal separator. -/
def numericSet : CodeSet :=
  (CodeSet.unions
    [categorySet "nd", PropertyTable.prependedConcatenationMark.set, .ofTable "66b 19da"]).difference
    (.single 0x70f)

/-! ## Words -/

/-- The classes of code points in words. -/
inductive WordBreak where
  | carriageReturn
  | lineFeed
  | newline
  | extend
  | joiner
  | regionalIndicator
  | format
  | katakana
  | hebrewLetter
  | letter
  | singleQuote
  | doubleQuote
  | midNumberOrLetter
  | midLetter
  | midNumber
  | numeric
  | connector
  | space
  deriving DecidableEq, Repr

namespace WordBreak

def ofName? : String → Option WordBreak
  | "cr" => some carriageReturn
  | "lf" => some lineFeed
  | "nl" | "newline" => some newline
  | "extend" => some extend
  | "zwj" => some joiner
  | "ri" | "regionalindicator" => some regionalIndicator
  | "fo" | "format" => some format
  | "ka" | "katakana" => some katakana
  | "hl" | "hebrewletter" => some hebrewLetter
  | "le" | "aletter" => some letter
  | "sq" | "singlequote" => some singleQuote
  | "dq" | "doublequote" => some doubleQuote
  | "mb" | "midnumlet" => some midNumberOrLetter
  | "ml" | "midletter" => some midLetter
  | "mn" | "midnum" => some midNumber
  | "nu" | "numeric" => some numeric
  | "ex" | "extendnumlet" => some connector
  | "wsegspace" => some space
  | _ => none

/-- The scripts that are written without spaces and broken by a dictionary. -/
def unspacedScripts : List Script :=
  [ScriptTable.thai, ScriptTable.lao, ScriptTable.myanmar, ScriptTable.khmer, ScriptTable.taiLe,
    ScriptTable.newTaiLue, ScriptTable.taiTham, ScriptTable.taiViet, ScriptTable.ahom]

def katakanaSet : CodeSet :=
  ScriptTable.katakana.ownSet.union (.ofTable "3031-3035 309b-309c 30a0 30fc ff70")

def hebrewLetterSet : CodeSet := ScriptTable.hebrew.ownSet.intersection (categorySet "lo")

/-- Letters of scripts with spaces between words. -/
def letterSet : CodeSet :=
  let elsewhere := CodeSet.unions
    ([PropertyTable.ideographic.set, katakanaSet, ScriptTable.hiragana.ownSet, continuingSet,
      hebrewLetterSet] ++ unspacedScripts.map Script.ownSet)
  (PropertyTable.alphabetic.set.difference elsewhere).union
    (.ofTable
      "b8 2c2-2c5 2d2-2d7 2de-2df 2e5-2eb 2ed 2ef-2ff 55a-55c 55e 58a 5f3 70f a708-a716
       a720-a721 a789-a78a ab5b")

/-- The code points of a class. -/
def members : WordBreak → CodeSet
  | carriageReturn => .single 0x0d
  | lineFeed => .single 0x0a
  | newline => .ofTable "b-c 85 2028-2029"
  | extend =>
    (continuingSet.union PropertyTable.emojiModifier.set).difference zeroWidthJoiner
  | joiner => zeroWidthJoiner
  | regionalIndicator => PropertyTable.regionalIndicator.set
  | format => formatSet.difference (.single 0x200b)
  | katakana => katakanaSet
  | hebrewLetter => hebrewLetterSet
  | letter => letterSet
  | singleQuote => .single 0x27
  | doubleQuote => .single 0x22
  | midNumberOrLetter => .ofTable "2e 2018-2019 2024 fe52 ff07 ff0e"
  | midLetter => .ofTable "3a b7 387 55f 5f4 2027 fe13 fe55 ff1a"
  | midNumber => .ofTable "2c 3b 37e 589 60c-60d 66c 7f8 2044 fe50 fe54 ff0c ff1b"
  | numeric => numericSet
  | connector => (categorySet "pc").union (.single 0x202f)
  | space => .ofTable "20 1680 2000-2006 2008-200a 205f 3000"

end WordBreak

/-! ## Sentences -/

/-- The classes of code points in sentences. -/
inductive SentenceBreak where
  | carriageReturn
  | lineFeed
  | separator
  | extend
  | format
  | space
  | lower
  | upper
  | letter
  | numeric
  | fullStop
  | terminal
  | continuation
  | close
  deriving DecidableEq, Repr

namespace SentenceBreak

def ofName? : String → Option SentenceBreak
  | "cr" => some carriageReturn
  | "lf" => some lineFeed
  | "se" | "sep" => some separator
  | "ex" | "extend" => some extend
  | "fo" | "format" => some format
  | "sp" => some space
  | "lo" | "lower" => some lower
  | "up" | "upper" => some upper
  | "le" | "oletter" => some letter
  | "nu" | "numeric" => some numeric
  | "at" | "aterm" => some fullStop
  | "st" | "sterm" => some terminal
  | "sc" | "scontinue" => some continuation
  | "cl" | "close" => some close
  | _ => none

def extendSet : CodeSet := continuingSet.union zeroWidthJoiner

/-- Lower-case letters. Georgian does not start its sentences in capitals, so its letters are of no
case here. -/
def lowerSet : CodeSet :=
  PropertyTable.lowercase.set.difference
    (PropertyTable.graphemeExtend.set.union (.ofTable "10d0-10fa 10fd-10ff"))

/-- Upper-case and title-case letters, but for the Georgian ones. -/
def upperSet : CodeSet :=
  (PropertyTable.uppercase.set.union (categorySet "lt")).difference
    (.ofTable "1c90-1cba 1cbd-1cbf")

/-- Full stops, which may end a sentence or an abbreviation. -/
def fullStopSet : CodeSet := .ofTable "2e 2024 fe52 ff0e"

/-- The code points of a class. -/
def members : SentenceBreak → CodeSet
  | carriageReturn => .single 0x0d
  | lineFeed => .single 0x0a
  | separator => .ofTable "85 2028-2029"
  | extend => extendSet
  | format => formatSet.union (.single 0x70f)
  | space => PropertyTable.whiteSpace.set.difference (.ofTable "a d 85 2028-2029")
  | lower => lowerSet
  | upper => upperSet
  | letter =>
    (PropertyTable.alphabetic.set.union (.single 0x5f3)).difference
      (CodeSet.unions [lowerSet, upperSet, extendSet])
  | numeric => numericSet.union (.single 0x66c)
  | fullStop => fullStopSet
  | terminal => PropertyTable.sentenceTerminal.set.difference fullStopSet
  | continuation =>
    .ofTable
      "2c-2d 3a-3b 37e 55d 60c-60d 7f8 1802 1808 2013-2014 3001 fe10-fe11 fe13-fe14 fe31-fe32
       fe50-fe51 fe54-fe55 fe58 fe63 ff0c-ff0d ff1a-ff1b ff64"
  | close =>
    let brackets := CodeSet.unions
      [categorySet "ps", categorySet "pe", categorySet "pi", categorySet "pf",
        PropertyTable.quotationMark.set, .ofTable "275b-2760 2e00-2e01 2e06-2e08 2e0b 1f676-1f678"]
    brackets.difference (.ofTable "ff02 ff07")

end SentenceBreak

end Criteria.Unicode
