import FormRules.Unicode.Script
import FormRules.Unicode.Property

/-!
The classes by which the Unicode standard divides texts into graphemes, words and
sentences. Each table pairs the names of a class, without separators and in lower
case, with its characters; the characters of no class are in no table.
-/

namespace FormRules.Unicode

/-- Emoji modifiers extend a grapheme as marks do. -/
def extending : CharSet :=
  graphemeExtend.union (listed "emojimodifier")

/-- Spacing marks that do not belong to the grapheme before them. -/
def detachedMarks : CharSet := .ofHex
  "102B-102C 1038 1062-1064 1067-106D 1083 1087-108C 108F 109A-109C 1A61 1A63-1A64 AA7B AA7D
  11720-11721"

/-- Letters and signs that belong to the grapheme after them. -/
def prepended : CharSet := .ofHex
  "600-605 6DD 70F 890-891 8E2 D4E 110BD 110CD 111C2-111C3 113D1 1193F 11941 11A3A 11A84-11A89
  11D46 11F02"

/-- Controls, formats without a grapheme of their own, and ignored code points that
are not assigned. -/
def graphemeControls : CharSet :=
  (CharSet.unions [category "zl", category "zp", category "cc", category "cf",
    (listed "defaultignorablecodepoint").difference assigned]).difference
    (CharSet.unions [.ofHex "A D 200C-200D", prepended, extending])

/-- The Hangul syllables without a final consonant: one for each 28 code points. -/
def openSyllables : CharSet :=
  CharSet.ofPoints ((List.range 399).map fun i => 0xAC00 + 28 * i)

/-- The classes for the division into graphemes. -/
def graphemeBreaks : List (List String × CharSet) := [
  (["cr"], .ofHex "D"),
  (["lf"], .ofHex "A"),
  (["cn", "control"], graphemeControls),
  (["ex", "extend"], extending),
  (["zwj"], .ofHex "200D"),
  (["ri", "regionalindicator"], listed "regionalindicator"),
  (["pp", "prepend"], prepended),
  (["sm", "spacingmark"],
    ((category "mc").union (.ofHex "E33 EB3")).difference (extending.union detachedMarks)),
  (["l"], .ofHex "1100-115F A960-A97C"),
  (["v"], .ofHex "1160-11A7 D7B0-D7C6 16D63 16D67-16D6A"),
  (["t"], .ofHex "11A8-11FF D7CB-D7FB"),
  (["lv"], openSyllables),
  (["lvt"], (CharSet.range 0xAC00 0xD7A3).difference openSyllables)]

/-- Signs that form words like letters. -/
def wordSigns : CharSet := .ofHex
  "B8 2C2-2C5 2D2-2D7 2DE-2DF 2E5-2EB 2ED 2EF-2FF 55A-55C 55E 58A 5F3 70F A708-A716 A720-A721
  A789-A78A AB5B"

/-- Letters of the scripts that are written without spaces between words. -/
def unspacedLetters : CharSet := .ofHex
  "E01-E30 E32-E33 E40-E46 E81-E82 E84 E86-E8A E8C-EA3 EA5 EA7-EB0 EB2-EB3 EBD EC0-EC4 EC6
  EDC-EDF 1000-102A 103F 1050-1055 105A-105D 1061 1065-1066 106E-1070 1075-1081 108E
  1780-17B3 17D7 17DC 1950-196D 1970-1974 1980-19AB 19B0-19C9 1A20-1A54 1AA7 A9E0-A9E4
  A9E6-A9EF A9FA-A9FE AA60-AA76 AA7A AA7E-AAAF AAB1 AAB5-AAB6 AAB9-AABD AAC0 AAC2 AADB-AADD
  11700-1171A 11740-11746"

def katakanaWords : CharSet :=
  (((script? "kana").getD .empty).union (.ofHex "3031-3035 309B-309C 30A0 30FC FF70")).difference
    extending

def hebrewLetters : CharSet :=
  ((script? "hebr").getD .empty).inter (category "lo")

def wordExtending : CharSet :=
  extending.union (category "mc")

/-- The letters of words in scripts with spaces between words. -/
def wordLetters : CharSet :=
  (alphabetic.union wordSigns).difference
    (CharSet.unions [listed "ideographic", katakanaWords, unspacedLetters, hebrewLetters,
      (script? "hira").getD .empty, wordExtending])

/-- Digits, and signs that stand with numbers. -/
def numeric : CharSet :=
  decimalDigits.union (.ofHex "600-605 66B 6DD 890-891 8E2 110BD 110CD")

/-- The classes for the division into words. -/
def wordBreaks : List (List String × CharSet) := [
  (["cr"], .ofHex "D"),
  (["lf"], .ofHex "A"),
  (["nl", "newline"], .ofHex "B-C 85 2028-2029"),
  (["extend"], wordExtending),
  (["zwj"], .ofHex "200D"),
  (["ri", "regionalindicator"], listed "regionalindicator"),
  (["fo", "format"],
    (category "cf").difference
      (CharSet.unions [.ofHex "200B-200D", listed "prependedconcatenationmark", extending])),
  (["ka", "katakana"], katakanaWords),
  (["hl", "hebrewletter"], hebrewLetters),
  (["le", "aletter"], wordLetters),
  (["sq", "singlequote"], .ofHex "27"),
  (["dq", "doublequote"], .ofHex "22"),
  (["mb", "midnumlet"], .ofHex "2E 2018-2019 2024 FE52 FF07 FF0E"),
  (["ml", "midletter"], .ofHex "3A B7 387 55F 5F4 2027 FE13 FE55 FF1A"),
  (["mn", "midnum"], .ofHex
    "2C 3B 37E 589 60C-60D 66C 7F8 2044 FE10 FE14 FE50 FE54 FF0C FF1B"),
  (["nu", "numeric"], numeric),
  (["ex", "extendnumlet"], (category "pc").union (.ofHex "202F")),
  (["wsegspace"], (category "zs").difference (.ofHex "A0 2007 202F"))]

def sentenceExtending : CharSet :=
  CharSet.unions [graphemeExtend, .ofHex "200D", category "mc"]

/-- Full stops, which may also end abbreviations. -/
def fullStops : CharSet := .ofHex "2E 2024 FE52 FF0E"

/-- Lower-case letters, without the Georgian ones, which begin sentences too. -/
def sentenceLower : CharSet :=
  lowercase.difference (graphemeExtend.union (.ofHex "10D0-10FA 10FD-10FF"))

def sentenceUpper : CharSet :=
  ((category "lt").union uppercase).difference (.ofHex "1C90-1CBA 1CBD-1CBF")

/-- Numbers in sentences: the thousands separator belongs to them. -/
def sentenceNumeric : CharSet :=
  numeric.union (.ofHex "66C")

/-- The classes for the division into sentences. -/
def sentenceBreaks : List (List String × CharSet) := [
  (["cr"], .ofHex "D"),
  (["lf"], .ofHex "A"),
  (["se", "sep"], .ofHex "85 2028-2029"),
  (["ex", "extend"], sentenceExtending),
  (["fo", "format"],
    (category "cf").difference
      (CharSet.unions [.ofHex "200C-200D", graphemeExtend, sentenceNumeric])),
  (["sp"], whiteSpace.difference (.ofHex "A D 85 2028-2029")),
  (["lo", "lower"], sentenceLower),
  (["up", "upper"], sentenceUpper),
  (["le", "oletter"],
    (alphabetic.union (.ofHex "5F3")).difference
      (CharSet.unions [sentenceLower, sentenceUpper, sentenceExtending])),
  (["nu", "numeric"], sentenceNumeric),
  (["at", "aterm"], fullStops),
  (["st", "sterm"], (listed "sentenceterminal").difference fullStops),
  (["sc", "scontinue"], .ofHex
    "2C-2D 3A-3B 37E 55D 60C-60D 7F8 1802 1808 2013-2014 3001 FE10-FE11 FE13-FE14 FE31-FE32
    FE50-FE51 FE54-FE55 FE58 FE63 FF0C-FF0D FF1A-FF1B FF64"),
  (["cl", "close"],
    (CharSet.unions (.ofHex "22 27 275B-2760 2E00-2E0D 2E1C-2E1D 2E20-2E21 1F676-1F678" ::
      ["ps", "pe", "pi", "pf"].map category)).difference (listed "sentenceterminal"))]

/-- The class of a name in a table. -/
def classIn? (table : List (List String × CharSet)) (name : String) : Option CharSet :=
  (table.find? fun entry => entry.1.contains name).map Prod.snd

end FormRules.Unicode
