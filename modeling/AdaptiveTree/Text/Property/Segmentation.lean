import AdaptiveTree.Text.Property.Derived
import AdaptiveTree.Text.Property.Script

/-!
# Segmentation

The classes of characters by which a text is divided into what a reader takes for one character,
into words and into sentences. Most of them follow from other properties.
-/

set_option autoImplicit false

namespace AdaptiveTree.Text.Property

/-- Signs that stand before the digits or letters that they span. -/
def spanningSigns : Ranges :=
  listed "pcm"

/-- The one of the spanning signs that goes with letters. -/
def letterSign : Ranges := #[(0x70F, 0x70F)]

/-! ## Characters as a reader sees them -/

/-- Marks and modifiers that extend the character before them. -/
def extending : Ranges :=
  graphemeExtend.union (listed "emod")

/-- Controls, line ends and invisible formats, which stand apart. -/
def apart : Ranges :=
  (Ranges.unionAll
    [categories ["Zl", "Zp", "Cc", "Cf"], unassigned.intersection defaultIgnorable]).difference
    (Ranges.unionAll [Ranges.ofText "A D 200C-200D", spanningSigns, extending])

/-- Spacing marks that do not extend the character before them. -/
def looseMarks : Ranges :=
  Ranges.ofText
    "102B-102C 1038 1062-1064 1067-106D 1083 1087-108C 108F 109A-109C 1A61 1A63-1A64 AA7B AA7D
     11720-11721"

/-- Syllables of two letters, every twenty-eighth of the block of syllables. -/
def openSyllables : Ranges :=
  ((List.range 399).map fun i => (0xAC00 + 28 * i, 0xAC00 + 28 * i)).toArray

/-- The class of characters for dividing a text into characters that a loose name means. -/
def characterBreak? (name : String) : Option Ranges :=
  match name with
  | "control" | "cn" => some apart
  | "cr" => some #[(0xD, 0xD)]
  | "extend" | "ex" => some extending
  | "l" => some (Ranges.ofText "1100-115F A960-A97C")
  | "lf" => some #[(0xA, 0xA)]
  | "lv" => some openSyllables
  | "lvt" => some ((Ranges.ofText "AC00-D7A3").difference openSyllables)
  | "prepend" | "pp" =>
    some (spanningSigns.union
      (Ranges.ofText "D4E 111C2-111C3 113D1 1193F 11941 11A3A 11A84-11A89 11D46 11F02"))
  | "regionalindicator" | "ri" => some (listed "ri")
  | "spacingmark" | "sm" =>
    some (((category "Mc").difference (extending.union looseMarks)).union
      (Ranges.ofText "E33 EB3"))
  | "t" => some (Ranges.ofText "11A8-11FF D7CB-D7FB")
  | "v" => some (Ranges.ofText "1160-11A7 D7B0-D7C6 16D63 16D67-16D6A")
  | "zwj" => some #[(0x200D, 0x200D)]
  | _ => none

/-! ## Words -/

/-- Marks and modifiers inside a word. -/
def wordExtending : Ranges :=
  (extending.union (category "Mc")).difference #[(0x200D, 0x200D)]

/-- Signs of the one script whose words are runs of its own. -/
def katakana : Ranges :=
  ((script? "kana").getD #[]).union (Ranges.ofText "3031-3035 309B-309C 30A0 30FC FF70")

/-- Letters of the script in which a quotation mark may stand inside a word. -/
def hebrewLetter : Ranges :=
  ((script? "hebr").getD #[]).intersection (category "Lo")

/-- Letters of scripts that are written without spaces between words. -/
def unspaced : Ranges :=
  Ranges.ofText
    "E01-E30 E32-E33 E40-E46 E81-E82 E84 E86-E8A E8C-EA3 EA5 EA7-EB0 EB2-EB3 EBD EC0-EC4 EC6
     EDC-EDF 1000-102A 103F 1050-1055 105A-105D 1061 1065-1066 106E-1070 1075-1081 108E 1780-17B3
     17D7 17DC 1950-196D 1970-1974 1980-19AB 19B0-19C9 1A20-1A54 1AA7 A9E0-A9E4 A9E6-A9EF A9FA-A9FE
     AA60-AA76 AA7A AA7E-AAAF AAB1 AAB5-AAB6 AAB9-AABD AAC0 AAC2 AADB-AADD 11700-1171A 11740-11746"

/-- Letters of words. -/
def wordLetter : Ranges :=
  Ranges.unionAll
    [alphabetic.difference (Ranges.unionAll
      [listed "ideo", katakana, unspaced, (script? "hira").getD #[], wordExtending, hebrewLetter]),
      letterSign,
      Ranges.ofText
        "2C2-2C5 2D2-2D7 2DE-2DF 2E5-2EB 2ED 2EF-2FF 55A-55C 55E 58A 5F3 A708-A716 A720-A721
         A789-A78A AB5B"]

/-- Invisible formats inside a word. -/
def wordFormat : Ranges :=
  (category "Cf").difference
    (Ranges.unionAll [Ranges.ofText "200B-200D", wordExtending, spanningSigns])

/-- Digits and the signs that span them. -/
def wordNumeric : Ranges :=
  Ranges.unionAll
    [category "Nd", Ranges.ofText "66B", spanningSigns.difference letterSign]

/-- The class of characters for dividing a text into words that a loose name means. -/
def wordBreak? (name : String) : Option Ranges :=
  match name with
  | "aletter" | "le" => some wordLetter
  | "cr" => some #[(0xD, 0xD)]
  | "doublequote" | "dq" => some #[(0x22, 0x22)]
  | "extend" => some wordExtending
  | "extendnumlet" | "ex" => some ((category "Pc").union #[(0x202F, 0x202F)])
  | "format" | "fo" => some wordFormat
  | "hebrewletter" | "hl" => some hebrewLetter
  | "katakana" | "ka" => some katakana
  | "lf" => some #[(0xA, 0xA)]
  | "midletter" | "ml" => some (Ranges.ofText "3A B7 387 55F 5F4 2027 FE13 FE55 FF1A")
  | "midnum" | "mn" =>
    some (Ranges.ofText "2C 3B 37E 589 60C-60D 66C 7F8 2044 FE10 FE14 FE50 FE54 FF0C FF1B")
  | "midnumlet" | "mb" => some (Ranges.ofText "2E 2018-2019 2024 FE52 FF07 FF0E")
  | "newline" | "nl" => some (Ranges.ofText "B-C 85 2028-2029")
  | "numeric" | "nu" => some wordNumeric
  | "regionalindicator" | "ri" => some (listed "ri")
  | "singlequote" | "sq" => some #[(0x27, 0x27)]
  | "wsegspace" => some (Ranges.ofText "20 1680 2000-2006 2008-200A 205F 3000")
  | "zwj" => some #[(0x200D, 0x200D)]
  | _ => none

/-! ## Sentences -/

/-- Marks inside a sentence. -/
def sentenceExtending : Ranges :=
  Ranges.unionAll [graphemeExtend, category "Mc", #[(0x200D, 0x200D)]]

/-- Small letters that can go on with a sentence. One script has small letters that are its common
ones, and they do not count. -/
def sentenceLower : Ranges :=
  lowercase.difference (graphemeExtend.union (Ranges.ofText "10D0-10FA 10FD-10FF"))

/-- Capital letters that can start a sentence. -/
def sentenceUpper : Ranges :=
  (uppercase.union (category "Lt")).difference #[(0x1C90, 0x1CBF)]

/-- Stops that also mark an abbreviation. -/
def sentenceStop : Ranges :=
  Ranges.ofText "2E 2024 FE52 FF0E"

/-- The class of characters for dividing a text into sentences that a loose name means. -/
def sentenceBreak? (name : String) : Option Ranges :=
  match name with
  | "aterm" | "at" => some sentenceStop
  | "close" | "cl" =>
    some ((categories ["Ps", "Pe", "Pi", "Pf"]).union
      (Ranges.ofText "22 27 275B-2760 2E00-2E01 2E06-2E08 2E0B 1F676-1F678"))
  | "cr" => some #[(0xD, 0xD)]
  | "extend" | "ex" => some sentenceExtending
  | "format" | "fo" =>
    some ((category "Cf").difference
      (Ranges.unionAll [Ranges.ofText "200C-200D", sentenceExtending, spanningSigns]))
  | "lf" => some #[(0xA, 0xA)]
  | "lower" | "lo" => some sentenceLower
  | "numeric" | "nu" =>
    some (Ranges.unionAll
      [category "Nd", Ranges.ofText "66B-66C", spanningSigns.difference letterSign])
  | "oletter" | "le" =>
    some ((Ranges.unionAll [alphabetic, letterSign, #[(0x5F3, 0x5F3)]]).difference
      (Ranges.unionAll [sentenceLower, sentenceUpper, sentenceExtending]))
  | "scontinue" | "sc" =>
    some (Ranges.ofText
      "2C-2D 3A-3B 37E 55D 60C-60D 7F8 1802 1808 2013-2014 3001 FE10-FE11 FE13-FE14 FE31-FE32
       FE50-FE51 FE54-FE55 FE58 FE63 FF0C-FF0D FF1A-FF1B FF64")
  | "sep" | "se" => some (Ranges.ofText "85 2028-2029")
  | "sp" => some ((listed "wspace").difference (Ranges.ofText "A D 85 2028-2029"))
  | "sterm" | "st" => some ((listed "sterm").difference sentenceStop)
  | "upper" | "up" => some sentenceUpper
  | _ => none

end AdaptiveTree.Text.Property
