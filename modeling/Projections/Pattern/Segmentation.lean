import Projections.Pattern.Property

/-! The classes by which text is divided into clusters, words and sentences. -/

namespace Projections.CharSet

/-- Digits and the signs that stand before or between them. -/
def numeric : CharSet := digit.union (ofTable "600-605 66B 6DD 890-891 8E2 19DA 110BD 110CD")

/-! ### Clusters -/

/-- Marks that take room after the letter they belong to. -/
def spacingMark : CharSet :=
  (((ofCategories [.mc]).diff graphemeExtend).diff (ofTable
    "102B-102C 1038 1062-1064 1067-106D 1083 1087-108C 108F 109A-109C 1A61 1A63-1A64 AA7B AA7D
    11720-11721")).union (ofTable "E33 EB3")

def hangulSyllables : CharSet := ofTable "AC00-D7A3"

/-- The syllables without a final consonant. -/
def openSyllables : CharSet := ofTable "AC00-D788/1C"

def clusterClasses : List (List String × CharSet) := [
  (["cr"], single '\r'),
  (["lf"], single '\n'),
  (["cn", "control"],
    ofTable
      "0-9 B-C E-1F 7F-9F AD 61C 180E 200B 200E-200F 2028-202E 2060-206F FEFF FFF0-FFFB
      13430-1343F 1BCA0-1BCA3 1D173-1D17A E0000-E001F E0080-E00FF E01F0-E0FFF"),
  (["ex", "extend"], graphemeExtend.union emojiModifier),
  (["zwj"], ofTable "200D"),
  (["ri", "regionalindicator"], regionalIndicator),
  (["pp", "prepend"],
    ofTable
      "600-605 6DD 70F 890-891 8E2 D4E 110BD 110CD 111C2-111C3 113D1 1193F 11941 11A3A 11A84-11A89
      11D46 11F02"),
  (["sm", "spacingmark"], spacingMark),
  (["l"], ofTable "1100-115F A960-A97C"),
  (["v"], ofTable "1160-11A7 D7B0-D7C6 16D63 16D67-16D6A"),
  (["t"], ofTable "11A8-11FF D7CB-D7FB"),
  (["lv"], openSyllables),
  (["lvt"], hangulSyllables.diff openSyllables)]

/-! ### Words -/

def wordExtend : CharSet := unions [graphemeExtend, ofCategories [.mc], emojiModifier]

def hebrewLetter : CharSet := ofTable
  "5D0-5EA 5EF-5F2 FB1D FB1F-FB28 FB2A-FB36 FB38-FB3C FB3E FB40-FB41 FB43-FB44 FB46-FB4F"

def katakana : CharSet := ofTable
  "3031-3035 309B-309C 30A0-30FA 30FC-30FF 31F0-31FF 32D0-32FE 3300-3357 FF66-FF9D 1AFF0-1AFF3
  1AFF5-1AFFB 1AFFD-1AFFE 1B000 1B120-1B122 1B155 1B164-1B167"

/-- Letters of scripts that put no blanks between words. -/
def unspacedLetters : CharSet := ofTable
  "E01-E30 E32-E33 E40-E46 E81-E82 E84 E86-E8A E8C-EA3 EA5 EA7-EB0 EB2-EB3 EBD EC0-EC4 EC6 EDC-EDF
  1000-102A 103F 1050-1055 105A-105D 1061 1065-1066 106E-1070 1075-1081 108E 1780-17B3 17D7 17DC
  1950-196D 1970-1974 1980-19AB 19B0-19C9 1A20-1A54 1AA7 3041-3096 309D-309F A9E0-A9E4 A9E6-A9EF
  A9FA-A9FE AA60-AA76 AA7A AA7E-AAAF AAB1 AAB5-AAB6 AAB9-AABD AAC0 AAC2 AADB-AADD 11700-1171A
  11740-11746 1B001-1B11F 1B132 1B150-1B152"

/-- Signs that count as letters. -/
def letterSigns : CharSet := ofTable
  "2C2-2C5 2D2-2D7 2DE-2DF 2E5-2EB 2ED 2EF-2FF 55A-55C 55E 58A 5F3 70F A708-A716 A720-A721
  A789-A78A AB5B"

/-- Letters of scripts that put blanks between words. -/
def spacedLetters : CharSet :=
  let others := unions [ideographic, katakana, wordExtend, hebrewLetter, unspacedLetters]
  (alphabetic.diff others).union letterSigns

def wordClasses : List (List String × CharSet) := [
  (["cr"], single '\r'),
  (["lf"], single '\n'),
  (["nl", "newline"], ofTable "B-C 85 2028-2029"),
  (["extend"], wordExtend),
  (["zwj"], ofTable "200D"),
  (["fo", "format"],
    (ofCategories [.cf]).diff (ofTable
      "600-605 6DD 70F 890-891 8E2 200B-200D 110BD 110CD E0020-E007F")),
  (["ri", "regionalindicator"], regionalIndicator),
  (["ka", "katakana"], katakana),
  (["hl", "hebrewletter"], hebrewLetter),
  (["le", "aletter"], spacedLetters),
  (["sq", "singlequote"], ofTable "27"),
  (["dq", "doublequote"], ofTable "22"),
  (["mb", "midnumlet"], ofTable "2E 2018-2019 2024 FE52 FF07 FF0E"),
  (["ml", "midletter"], ofTable "3A B7 387 55F 5F4 2027 FE13 FE55 FF1A"),
  (["mn", "midnum"], ofTable "2C 3B 37E 589 60C-60D 66C 7F8 2044 FE50 FE54 FF0C FF1B"),
  (["nu", "numeric"], numeric),
  (["ex", "extendnumlet"], ofTable "5F 202F 203F-2040 2054 FE33-FE34 FE4D-FE4F FF3F"),
  (["wsegspace"], ofTable "20 1680 2000-2006 2008-200A 205F 3000")]

/-! ### Sentences -/

def sentenceExtend : CharSet := unions [graphemeExtend, ofCategories [.mc], joinControl]

def lineSeparators : CharSet := ofTable "85 2028-2029"

/-- The capitals of Georgian stand for emphasis and start no sentence. -/
def sentenceUpper : CharSet :=
  (uppercase.union (ofCategories [.lt])).diff (ofTable "1C90-1CBA 1CBD-1CBF")

def sentenceLower : CharSet :=
  (lowercase.diff graphemeExtend).diff (ofTable "10D0-10FA 10FD-10FF")

/-- The point and its kin, which end a sentence or an abbreviation. -/
def points : CharSet := ofTable "2E 2024 FE52 FF0E"

def sentenceClasses : List (List String × CharSet) := [
  (["cr"], single '\r'),
  (["lf"], single '\n'),
  (["se", "sep"], lineSeparators),
  (["ex", "extend"], sentenceExtend),
  (["fo", "format"],
    (ofCategories [.cf]).diff (ofTable
      "600-605 6DD 890-891 8E2 200C-200D 110BD 110CD E0020-E007F")),
  (["sp"], whiteSpace.diff (unions [lineSeparators, single '\r', single '\n'])),
  (["lo", "lower"], sentenceLower),
  (["up", "upper"], sentenceUpper),
  (["le", "oletter"],
    (alphabetic.union (ofTable "5F3")).diff
      (unions [sentenceLower, sentenceUpper, sentenceExtend])),
  (["nu", "numeric"], numeric.union (ofTable "66C")),
  (["at", "aterm"], points),
  (["st", "sterm"], sentenceTerminal.diff points),
  (["sc", "scontinue"],
    ofTable
      "2C-2D 3A-3B 37E 55D 60C-60D 7F8 1802 1808 2013-2014 3001 FE10-FE11 FE13-FE14 FE31-FE32
      FE50-FE51 FE54-FE55 FE58 FE63 FF0C-FF0D FF1A-FF1B FF64"),
  (["cl", "close"],
    ((unions [ofCategories [.ps, .pe, .pi, .pf], quotationMark]).diff (ofTable "FF02 FF07")).union
      (ofTable "275B-2760 2E00-2E01 2E06-2E08 2E0B 1F676-1F678"))]

end Projections.CharSet
