import PromptScript.Text.Case
import PromptScript.Text.Category

/-!
# Properties of characters

The binary properties of characters in Unicode 17.  A property is what a rule over other
properties says, save for the code points of a set of exceptions, where it is the opposite.
-/

namespace PromptScript.Text

/-- A binary property. -/
inductive Property where
  | asciiHexDigit
  | alphabetic
  | bidiControl
  | bidiMirrored
  | caseIgnorable
  | cased
  | changesWhenCasefolded
  | changesWhenCasemapped
  | changesWhenLowercased
  | changesWhenTitlecased
  | changesWhenUppercased
  | dash
  | defaultIgnorableCodePoint
  | deprecated
  | diacritic
  | emoji
  | emojiComponent
  | emojiModifier
  | emojiModifierBase
  | emojiPresentation
  | extendedPictographic
  | extender
  | graphemeBase
  | graphemeExtend
  | hexDigit
  | idsBinaryOperator
  | idsTrinaryOperator
  | idContinue
  | idStart
  | ideographic
  | joinControl
  | logicalOrderException
  | lowercase
  | math
  | noncharacterCodePoint
  | patternSyntax
  | patternWhiteSpace
  | quotationMark
  | radical
  | regionalIndicator
  | sentenceTerminal
  | softDotted
  | terminalPunctuation
  | unifiedIdeograph
  | uppercase
  | variationSelector
  | whiteSpace
  | xidContinue
  | xidStart
  deriving DecidableEq, Repr

namespace Property

/-- The names of the properties without capitals and punctuation, the long name first. -/
def names : Property → List String
  | asciiHexDigit => ["asciihexdigit", "ahex"]
  | alphabetic => ["alphabetic", "alpha"]
  | bidiControl => ["bidicontrol", "bidic"]
  | bidiMirrored => ["bidimirrored", "bidim"]
  | caseIgnorable => ["caseignorable", "ci"]
  | cased => ["cased"]
  | changesWhenCasefolded => ["changeswhencasefolded", "cwcf"]
  | changesWhenCasemapped => ["changeswhencasemapped", "cwcm"]
  | changesWhenLowercased => ["changeswhenlowercased", "cwl"]
  | changesWhenTitlecased => ["changeswhentitlecased", "cwt"]
  | changesWhenUppercased => ["changeswhenuppercased", "cwu"]
  | dash => ["dash"]
  | defaultIgnorableCodePoint => ["defaultignorablecodepoint", "di"]
  | deprecated => ["deprecated", "dep"]
  | diacritic => ["diacritic", "dia"]
  | emoji => ["emoji"]
  | emojiComponent => ["emojicomponent", "ecomp"]
  | emojiModifier => ["emojimodifier", "emod"]
  | emojiModifierBase => ["emojimodifierbase", "ebase"]
  | emojiPresentation => ["emojipresentation", "epres"]
  | extendedPictographic => ["extendedpictographic", "extpict"]
  | extender => ["extender", "ext"]
  | graphemeBase => ["graphemebase", "grbase"]
  | graphemeExtend => ["graphemeextend", "grext"]
  | hexDigit => ["hexdigit", "hex"]
  | idsBinaryOperator => ["idsbinaryoperator", "idsb"]
  | idsTrinaryOperator => ["idstrinaryoperator", "idst"]
  | idContinue => ["idcontinue", "idc"]
  | idStart => ["idstart", "ids"]
  | ideographic => ["ideographic", "ideo"]
  | joinControl => ["joincontrol", "joinc"]
  | logicalOrderException => ["logicalorderexception", "loe"]
  | lowercase => ["lowercase", "lower"]
  | math => ["math"]
  | noncharacterCodePoint => ["noncharactercodepoint", "nchar"]
  | patternSyntax => ["patternsyntax", "patsyn"]
  | patternWhiteSpace => ["patternwhitespace", "patws"]
  | quotationMark => ["quotationmark", "qmark"]
  | radical => ["radical"]
  | regionalIndicator => ["regionalindicator", "ri"]
  | sentenceTerminal => ["sentenceterminal", "sterm"]
  | softDotted => ["softdotted", "sd"]
  | terminalPunctuation => ["terminalpunctuation", "term"]
  | unifiedIdeograph => ["unifiedideograph", "uideo"]
  | uppercase => ["uppercase", "upper"]
  | variationSelector => ["variationselector", "vs"]
  | whiteSpace => ["whitespace", "wspace", "space"]
  | xidContinue => ["xidcontinue", "xidc"]
  | xidStart => ["xidstart", "xids"]

/-- The code points where a property is the opposite of what its rule says, as a text of runs. -/
def exceptionText : Property → String
  | asciiHexDigit => "48 10 7 6 26 6"
  | alphabetic =>
    String.join [
      "867 13 576 14 1 1 1 2 1 2 1 1 72 11 48 13 1 7 16 1 101 7 4 4 2 2 4 1 35 1 30 16 102 11 ",
      "101 2 3 9 1 3 1 4 106 1 60 12 3 7 6 20 54 2 2 15 1 2 5 3 10 2 29 3 58 7 2 2 2 2 10 1 10 ",
      "2 29 3 58 5 4 2 2 2 4 1 30 2 3 1 11 3 58 8 1 3 1 2 21 2 22 3 4 3 58 7 2 2 2 2 9 2 10 2 ",
      "30 1 59 5 3 3 1 3 10 1 40 5 57 7 1 3 1 3 8 2 11 2 29 3 58 7 1 3 1 3 8 2 11 2 15 1 12 4 ",
      "58 7 1 3 1 3 10 1 10 2 29 3 75 6 1 1 1 8 18 2 61 1 2 7 18 1 99 1 2 6 1 2 16 1 163 19 9 ",
      "11 1 36 110 12 1 1 2 4 23 4 4 3 1 3 2 7 3 4 13 12 1 1 10 4 1652 2 30 2 30 2 30 2 66 19 ",
      "188 2 34 1 118 12 4 9 222 5 57 10 2 20 74 2 11 3 49 5 48 15 60 3 30 9 2 2 57 11 50 19 ",
      "412 34 4075 32 30836 8 34 2 354 1 8 1 23 5 88 2 50 16 1 1 57 1 38 5 28 12 45 4 48 12 37 ",
      "1 67 14 12 1 8 2 45 3 50 1 1 3 2 2 5 1 44 5 5 1 237 8 20275 1 2135 5 1670 3 1 2 5 4 788 ",
      "4 65 1 321 2 77 3 259 3 53 14 45 2 11 3 45 9 9 1 61 3 36 12 18 2 57 3 48 13 14 2 92 9 2 ",
      "1 6 1 2 1 157 10 23 4 58 7 2 2 2 2 10 1 10 2 84 9 1 1 2 1 1 4 1 2 103 13 1 3 106 18 237 ",
      "7 2 7 29 2 82 15 1 1 106 11 103 14 257 13 247 6 1 2 2 2 3 1 1 1 142 7 2 6 4 1 28 10 42 5 ",
      "1 4 18 11 46 14 200 8 199 8 1 7 83 22 1 14 122 6 3 1 1 2 1 3 1 1 3 1 66 5 1 2 1 4 348 4 ",
      "9 2 1 1 48 7 3 3 16861 17 3616 1 1 55 7 4 93 2 19628 1 9057 7 1 17 2 7 1 2 1 5 100 1 ",
      "1619 1 2 1 7 2 5 1 593 1"]
  | bidiControl => "1564 1 6641 2 26 5 55 4"
  | bidiMirrored =>
    String.join [
      "60 1 1 1 108 1 15 1 8030 1 3 1 26 2 261 1 192 4 3 6 3 1 3 2 3 4 1 4 1 1 1 1 4 9 5 1 1 18 ",
      "5 4 9 2 1 1 1 8 1 32 2 4 5 1 9 2 2 19 5 2 9 5 2 2 4 24 2 16 32 2 1182 1 2 2 3 2 1 3 5 4 ",
      "5 3 3 4 437 6 1 14 8 1 7 6 3 1 4 5 1 2 6 1 4 1 1 3 2 2 10 6 16 19 1 4 2 1 1 1 2 1 1 4 5 ",
      "2 6 3 24 2 11 2 4 4 1 2 2 2 4 43 2 8 1 40 5 1 1 1 3 5 5 3 4 1 3 5 1 1 256 1 515 4 3 2 1 ",
      "2 14 2 2 2 32 1 474 3 52510 2 215 2 28 16 2 2 27 2 182 1 1 1 55228 1 57 1 57 1 57 1 57 1"]
  | caseIgnorable =>
    String.join [
      "39 1 6 1 11 1 124 1 719 1 471 1 148 1 6691 2 10 1 2 1 56811 1 62 1 2 1 177 1 6 1 11 1"]
  | changesWhenCasefolded =>
    String.join [
      "181 1 41 1 105 1 53 1 69 1 2 1 2 1 38 1 338 1 124 1 13 7 25 2 3 1 401 1 3608 86 2 6 2178 ",
      "9 529 2 228 48 2 3 2 1 4 1 5 3 2 1 4 1 37 3 2 1 4 1 261 1 4 1 3 3 2 3 2 1 3 5 6 1 3 1 3 ",
      "2 2 2 1 1 10 2 5 1 35370 80 20288 7 12 5 55528 26 26 26 26 26 26 1 1 2 2 1 2 2 2 4 1 8 ",
      "26 26 26 2 1 4 2 8 1 7 27 2 1 4 1 5 1 1 3 7 27 26 26 26 26 26 26 26 26 26 26 26 30 25 33 ",
      "25 33 25 33 25 33 25 33 1 6501 26 6 26 6 26"]
  | changesWhenCasemapped =>
    String.join [
      "304 2 23 1 166 1 918 1 6414 5 181 1 1 1 1 1 1 1 91 1 1 1 1 2 10 1 1 1 1 2 10 1 3 2 10 1 ",
      "1 1 1 2 10 1 1 1 1 2 56072 5 14 5"]
  | changesWhenLowercased =>
    String.join [
      "453 1 2 1 2 1 38 1 479 3 7091 8 8 8 8 8 12 1 15 1 47 1 261 1 4 1 3 3 2 3 2 1 3 5 6 1 3 1 ",
      "3 2 2 2 1 1 10 2 5 1 111290 26 26 26 26 26 26 1 1 2 2 1 2 2 2 4 1 8 26 26 26 2 1 4 2 8 1 ",
      "7 27 2 1 4 1 5 1 1 3 7 27 26 26 26 26 26 26 26 26 26 26 26 30 25 33 25 33 25 33 25 33 25 ",
      "33 1 6501 26 6 26 6 26"]
  | changesWhenTitlecased => "452 2 1 2 1 2 37 2 3805 43 2 3 3720 8 8 8 8 8 12 1 15 1 47 1"
  | dash => "8275 1 39 1 15 1 390 1"
  | defaultIgnorableCodePoint =>
    String.join [
      "173 1 673 1 716 1 2882 2 1619 2 88 1 2044 5 26 5 49 16 4340 1 52634 1 160 1 79 9 48295 4 ",
      "5327 8 798341 256 240 3600"]
  | deprecated => "329 1 1321 1 2307 1 1 1 2089 2 2245 6 697 2 908502 1"
  | diacritic =>
    String.join [
      "183 1 504 18 4 12 14 5 7 1 1 1 17 79 1 8 5 6 17 1 5 1 264 5 209 1 55 45 1 1 1 2 1 2 1 1 ",
      "131 8 4 2 134 2 4 2 3 3 67 27 91 11 58 11 34 2 110 1 15 8 41 10 16 28 61 1 16 1 3 4 28 1 ",
      "74 1 16 1 110 1 16 1 110 1 16 1 47 3 60 1 16 1 7 1 119 1 110 1 16 1 110 1 16 1 109 2 16 ",
      "1 124 1 111 1 12 6 1 1 107 1 13 5 75 2 27 1 1 1 1 1 4 2 66 3 1 2 62 1 112 1 1 2 40 2 4 5 ",
      "25 7 1 1 10 2 705 3 948 2 30 1 148 11 9 1 347 3 292 1 20 8 2 1 48 15 2 11 3 15 2 12 72 1 ",
      "15 1 38 9 54 2 58 1 11 2 66 2 64 6 82 25 4 1 6 1 2 3 50 63 48 36 5 12 37 11 3823 3 317 1 ",
      "506 6 105 2 97 1 30066 1 12 2 1 1 28 2 82 2 37 9 104 1 104 1 6 2 12 1 37 1 151 1 27 18 ",
      "57 4 36 1 95 1 12 1 36 1 149 3 65 4 51 1 101 4 9 1 130 2 20272 1 147 17 605 16 320 1 45 ",
      "2 832 1 1183 6 1 42 1 9 637 3 4 1 165 2 571 6 38 1 26 5 396 1 2 3 70 11 49 4 192 1 41 1 ",
      "72 2 120 2 62 1 76 1 9 3 104 2 178 2 80 2 16 1 24 7 3 5 89 3 1 2 13 2 95 1 3 1 123 2 251 ",
      "2 126 1 118 2 115 1 269 2 258 2 4 1 156 1 83 1 18 1 81 1 421 1 258 1 1 2 81 1 65 1 359 2 ",
      "23 1 5356 15 11481 1 2496 5 59 7 564 2 546 17 80 2 16382 4 1 7 1 2 7937 46 2 23 544 3 3 ",
      "6 8 8 2 7 30 4 3714 62 194 7 375 1 61 4 766 2 736 7 109 3 1 3 2736 5"]
  | emoji =>
    String.join [
      "35 1 6 1 5 10 111 1 4 1 8077 1 12 1 216 1 22 1 90 6 15 2 381 1 166 1 29 3 1 2 5 3 199 1 ",
      "231 2 10 1 9 1 58 2 3 5 9 1 2 1 6 1 4 1 2 1 1 2 2 1 3 1 3 2 8 3 5 1 1 1 28 2 2 1 1 2 1 1 ",
      "18 1 2 1 19 1 1 4 1 1 1 2 3 1 6 1 8 2 22 1 6 1 1 1 1 1 21 1 6 2 2 1 2 3 8 1 5 2 2 2 1 1 ",
      "2 1 1 1 1 1 6 1 3 1 17 2 15 1 2 1 27 2 60 1 402 2 463 3 1320 1 12 1 601 1 1 1 114390 2 ",
      "12 2 130 1 52 1 233 1 2 9 9 1 70 1 24 2 1 3 2 2 43 4 5 12 19 1 1 1 1 1 71 1 1 1 187 1 75 ",
      "2 36 2 2 7 13 1 2 4 2 1 20 1 2 1 8 2 9 1 5 3 12 3 8 3 2 1 1 1 4 1 6 1 3 1 6 1 208 1 1 3 ",
      "16 6 3 1 6 1 2 1"]
  | emojiComponent => "35 1 6 1 5 10 8147 1 213 1 56619 1 62422 26 507 5 1456 4 788076 96"
  | emojiModifier => "127995 5"
  | emojiModifierBase =>
    String.join [
      "9757 1 219 1 16 4 117879 1 60 3 2 1 2 3 117 2 2 11 21 19 3 1 4 3 1 3 7 1 1 1 24 1 201 2 ",
      "4 1 21 1 4 2 174 3 3 5 83 1 16 3 9 1 11 1 575 1 2 1 8 8 6 1 9 10 2 3 56 1 61 2 1 2 1 1 ",
      "17 3 1 13 229 3 42 9"]
  | emojiPresentation =>
    String.join [
      "8986 2 205 4 3 1 2 1 521 2 21 2 50 12 43 1 19 1 13 1 8 2 17 2 5 2 8 1 5 1 21 1 7 2 1 1 4 ",
      "1 2 1 7 1 4 2 28 1 35 1 1 1 4 3 1 1 61 3 24 1 14 1 859 2 51 1 4 1 115886 1 202 1 190 1 2 ",
      "10 75 26 1 1 24 1 20 1 2 5 1 3 21 2 174 33 12 9 1 70 1 22 12 43 4 5 12 17 3 1 3 71 1 1 1 ",
      "187 2 63 13 4 1 24 18 1 26 2 13 1 86 85 48 70 6 1 3 3 2 4 3 4 11 2 7 9 227 12 4 1 283 47 ",
      "1 10 1 185 112 13 3 11 3 57 1 1 4 16 2 12 4 10"]
  | extendedPictographic =>
    String.join [
      "169 1 4 1 8077 1 12 1 216 1 22 1 90 6 15 2 381 1 166 1 29 3 1 2 5 3 199 1 231 2 10 1 9 1 ",
      "58 2 3 5 9 1 2 1 6 1 4 1 2 1 1 2 2 1 3 1 3 2 8 3 5 1 1 1 28 2 2 1 1 2 1 1 18 1 2 1 19 1 ",
      "1 4 1 1 1 2 3 1 6 1 8 2 22 1 6 1 1 1 1 1 21 1 6 2 2 1 2 3 8 1 5 2 2 2 1 1 2 1 1 1 1 1 6 ",
      "1 3 1 17 2 15 1 2 1 27 2 60 1 402 2 463 3 1320 1 12 1 601 1 1 1 114066 4 100 12 15 2 15 ",
      "1 15 1 37 10 112 2 12 2 46 82 2 14 39 1 4 4 9 7 2 14 6 154 33 1 2 9 9 1 70 1 24 2 1 3 2 ",
      "2 43 4 5 12 19 1 1 1 1 1 3 5 63 1 1 1 187 1 75 2 36 2 2 7 13 1 2 4 2 1 20 1 2 1 8 2 9 1 ",
      "5 3 12 3 8 3 2 1 1 1 4 1 6 1 3 1 6 1 208 1 1 3 9 3 4 6 3 1 3 4 2 1 9 3 218 6 12 4 1 15 ",
      "12 4 56 8 10 6 40 8 30 2 12 4 2 14 9 39 344 8 14 2 13 3 11 3 57 1 1 4 16 2 12 4 10 7 256 ",
      "1022"]
  | extender =>
    String.join [
      "183 1 536 2 878 1 441 1 630 1 137 1 89 1 752 1 127 1 2371 1 56 1 611 1 398 1 68 1 5001 1 ",
      "43 5 103 2 93 3 28438 1 1526 1 962 1 22 1 137 1 108 1 21 2 21627 1 2064 2 1483 1 27 1 4 ",
      "1 1223 1 293 1 116 2 498 3 1231 1 832 1 19816 2 1180 2 1 1 14 2 29000 2 1201 1 852 3"]
  | graphemeExtend =>
    String.join [
      "2494 1 24 1 358 1 24 1 102 1 24 1 232 1 1 1 4 2 1 2 9 2 103 1 24 1 119 1 15 1 2357 1 30 ",
      "1 1024 1 5 1 1 1 5 2 101 1 71 2 1048 1 4129 2 31011 1 108 1 21981 2 4640 1 116 1 264 1 ",
      "14 1 9 1 96 1 9 1 2 1 1 3 5 1 224 1 12 1 241 1 262 1 633 1 12 1 1539 1 20654 2 24947 2 6 ",
      "6 798381 96"]
  | hexDigit => "48 10 7 6 26 6 65193 10 7 6 26 6"
  | idsBinaryOperator => "12272 2 2 10 497 1"
  | idsTrinaryOperator => "12274 2"
  | idContinue => "183 1 719 1 4065 9 1640 1 1585 2 4333 1 52841 1"
  | idStart => "6277 2 2193 1 21 1 3328 1 619 2"
  | ideographic =>
    String.join [
      "12294 2 25 9 14 3 51397 270 2 1 1 1 2 10 1 1 1 1 2 2 3 68 2 106 29962 1 13 5 9 7382 41 ",
      "32 97 115 9085 396 83204 542"]
  | joinControl => "8204 2"
  | logicalOrderException => "3648 5 123 5 2800 3 2 1 37114 2 2 1 1 2"
  | lowercase =>
    String.join [
      "170 1 15 1 501 9 7 2 30 5 96 1 52 1 3457 1 3119 63 13 1 34 37 689 1 13 1 16 13 211 16 ",
      "848 26 1938 2 31262 2 210 1 128 4 3 2 866 4 9 1 23574 1 2 3 1 42 1 9 55413 62"]
  | math =>
    String.join [
      "94 1 881 3 2 1 26 2 2 2 7200 1 27 3 11 1 32 4 24 2 14 2 65 13 4 1 3 2 4 5 18 1 4 1 2 10 ",
      "1 1 3 5 6 1 3 2 2 2 1 3 1 6 3 4 5 5 75 5 2 4 1 2 1 2 1 1 1 5 2 2 4 2 4 18 2 2 1 1 1 7 1 ",
      "1 6 2 290 4 168 2 1 1 24 1 17 1 445 2 12 9 5 5 5 2 2 2 3 5 14 1 1 1 2 6 24 2 57 1 1 1 29 ",
      "4 9 2 342 2 31 10 403 22 63 4 32 2 54371 1 1 1 4 1 211 1 1 1 54465 85 1 71 1 2 2 1 2 2 2 ",
      "4 1 12 1 1 1 7 1 65 1 4 2 8 1 7 1 28 1 4 1 5 1 1 3 7 1 340 2 25 1 25 1 31 1 25 1 31 1 25 ",
      "1 31 1 25 1 31 1 25 1 8 2 50 5632 4 1 27 1 2 1 1 2 1 1 10 1 4 1 1 1 1 6 1 4 1 1 1 1 1 1 ",
      "3 1 2 1 1 2 1 1 1 1 1 1 1 1 1 1 2 1 1 2 4 1 7 1 4 1 4 1 1 1 10 1 17 5 3 1 5 1 17"]
  | noncharacterCodePoint =>
    String.join [
      "64976 32 526 2 65534 2 65534 2 65534 2 65534 2 65534 2 65534 2 65534 2 65534 2 65534 2 ",
      "65534 2 65534 2 65534 2 65534 2 65534 2 65534 2 65534 2"]
  | patternSyntax =>
    String.join [
      "33 15 10 7 26 4 1 1 26 4 34 7 1 1 1 2 1 1 1 2 4 1 4 1 3 1 23 1 31 1 7960 24 8 15 2 19 1 ",
      "10 305 720 160 630 30 1132 512 128 385 3 4 25 15 1 52493 2 261 2"]
  | patternWhiteSpace => "9 5 18 1 100 1 8072 2 24 2"
  | quotationMark =>
    String.join [
      "34 1 4 1 8178 1 3 1 3555 4 3 2 1 2 14 2 2 2 32 1 457 4 13 3 52769 4 189 1 4 1 90 2"]
  | radical => "11904 26 1 89 12 214"
  | regionalIndicator => "127462 26"
  | sentenceTerminal =>
    String.join [
      "33 1 12 1 16 1 1353 1 147 3 180 1 43 3 246 1 61 1 1 1 3 2 293 2 1764 2 790 1 4 2 773 1 ",
      "198 2 157 2 45 1 5 1 314 2 354 4 162 2 10 2 2 2 29 3 187 2 65 2 932 1 23 2 9 3 3247 3 ",
      "306 1 13 1 22 2 429 1 29948 1 270 2 227 1 3 1 382 2 86 2 95 1 152 2 147 3 144 2 249 1 ",
      "21030 1 2 2 59 1 3 2 169 1 12 1 16 1 65 1 2804 2 1277 5 44 4 189 2 117 4 127 3 129 2 6 1 ",
      "16 2 88 2 1 2 108 1 298 2 117 2 373 2 5 15 105 2 249 3 517 1 1 1 251 2 87 2 420 2 692 2 ",
      "74 2 19241 2 133 1 65 2 11 1 553 2 296 1 19974 1 7656 1"]
  | softDotted =>
    String.join [
      "105 2 196 1 281 1 30 1 52 1 20 1 320 1 98 1 1 1 6409 1 51 1 13 1 3 1 132 1 157 1 421 1 ",
      "214 2 2866 1 108453 2 50 2 50 2 50 2 50 2 50 2 50 2 50 2 50 2 50 2 50 2 50 2 50 2 2182 1 ",
      "305 2 26 1"]
  | terminalPunctuation =>
    String.join [
      "44 1 13 2 834 1 8 1 571 1 72 1 14 1 231 8 1 1 235 1 55 6 2 1 1 3 33 1 1531 2 172 1 4 6 ",
      "1102 1 1 4 900 3 232 1 3 1 39 1 1 2 2 1 852 1 223 3 4609 1 10 1 1 2 433 1 29948 1 270 1 ",
      "230 3 720 1 279 1 21360 2 2 2 182 1 13 2 72 1 1082 1 48 1 1158 1 199 1 464 6 68 6 89 4 ",
      "1196 5 492 1 530 1 12 2 360 2 1243 2 416 1 45 1 2046 5 18116 1 861 1 27631 1 1 2"]
  | unifiedIdeograph =>
    String.join [
      "13312 6592 64 20992 23054 2 1 1 1 2 10 1 1 1 1 2 2 3 67030 42720 32 4382 2 5774 2 7473 ",
      "15 622 4514 4939 5 8490"]
  | uppercase => "8544 16 838 26 117856 26 6 26 6 26"
  | variationSelector => "6155 3 1 1 58864 16 852720 240"
  | whiteSpace => "9 5 119 1"
  | xidContinue => "890 1 11552 2 52161 6 406 2 116 1 1 1 1 1 1 1 1 1 1 1 1 1 1 1"
  | xidStart => "890 1 2744 1 127 1 8679 2 52161 6 406 2 116 1 1 1 1 1 1 1 1 1 1 1 1 1 1 1 287 2"
  | cased | changesWhenUppercased | graphemeBase => ""

/-- All properties. -/
def all : List Property :=
  [asciiHexDigit, alphabetic, bidiControl, bidiMirrored,
    caseIgnorable, cased, changesWhenCasefolded, changesWhenCasemapped,
    changesWhenLowercased, changesWhenTitlecased, changesWhenUppercased, dash,
    defaultIgnorableCodePoint, deprecated, diacritic, emoji,
    emojiComponent, emojiModifier, emojiModifierBase, emojiPresentation,
    extendedPictographic, extender, graphemeBase, graphemeExtend,
    hexDigit, idsBinaryOperator, idsTrinaryOperator, idContinue,
    idStart, ideographic, joinControl, logicalOrderException,
    lowercase, math, noncharacterCodePoint, patternSyntax,
    patternWhiteSpace, quotationMark, radical, regionalIndicator,
    sentenceTerminal, softDotted, terminalPunctuation, unifiedIdeograph,
    uppercase, variationSelector, whiteSpace, xidContinue,
    xidStart]

/-- The exceptions of all properties. -/
def exceptionTable : List (Property × Runs) :=
  all.map fun property => (property, Runs.ofText property.exceptionText)

/-- Whether a code point is an exception to the rule of a property. -/
def isException (property : Property) (c : Char) : Bool :=
  ((exceptionTable.lookup property).getD []).contains c.toNat

/-- What the rules say of a character in some of the categories. -/
def inCategories (categories : List Category) (property : Property) (c : Char) : Bool :=
  categories.contains (categoryOf c) != property.isException c

/-- Whether a character is a small letter. -/
def isLowercase (c : Char) : Bool :=
  inCategories [.lowercaseLetter] lowercase c

/-- Whether a character is a capital letter. -/
def isUppercase (c : Char) : Bool :=
  inCategories [.uppercaseLetter] uppercase c

/-- Whether a character extends the one before it. -/
def extendsGrapheme (c : Char) : Bool :=
  inCategories [.nonspacingMark, .enclosingMark] graphemeExtend c

/-- Whether a character belongs to an alphabet. -/
def isAlphabetic (c : Char) : Bool :=
  ((categoryOf c).isLetter || categoryOf c == .letterNumber || isLowercase c || isUppercase c)
    != alphabetic.isException c

/-- Whether an identifier can begin with a character. -/
def startsIdentifier (c : Char) : Bool :=
  ((categoryOf c).isLetter || categoryOf c == .letterNumber) != idStart.isException c

/-- Whether an identifier can go on with a character. -/
def continuesIdentifier (c : Char) : Bool :=
  (startsIdentifier c || [.nonspacingMark, .spacingMark, .decimalNumber,
    .connectorPunctuation].contains (categoryOf c)) != idContinue.isException c

/-- Whether a character has a property. -/
def holds : Property → Char → Bool
  | lowercase, c => isLowercase c
  | uppercase, c => isUppercase c
  | graphemeExtend, c => extendsGrapheme c
  | alphabetic, c => isAlphabetic c
  | idStart, c => startsIdentifier c
  | idContinue, c => continuesIdentifier c
  | xidStart, c => startsIdentifier c != xidStart.isException c
  | xidContinue, c => continuesIdentifier c != xidContinue.isException c
  | math, c => inCategories [.mathSymbol] math c
  | cased, c => isLowercase c || isUppercase c || categoryOf c == .titlecaseLetter
  | caseIgnorable, c =>
    inCategories [.nonspacingMark, .enclosingMark, .format, .modifierLetter, .modifierSymbol]
      caseIgnorable c
  | graphemeBase, c =>
    !extendsGrapheme c && !List.contains [.control, .format, .surrogate, .privateUse, .unassigned,
      .lineSeparator, .paragraphSeparator] (categoryOf c)
  | changesWhenUppercased, c => uppercaseOf c != [c]
  | changesWhenTitlecased, c => (uppercaseOf c != [c]) != changesWhenTitlecased.isException c
  | changesWhenCasemapped, c =>
    !(caseVariants c).isEmpty != changesWhenCasemapped.isException c
  | changesWhenLowercased, c => isUppercase c != changesWhenLowercased.isException c
  | changesWhenCasefolded, c => isUppercase c != changesWhenCasefolded.isException c
  | quotationMark, c => inCategories [.initialPunctuation, .finalPunctuation] quotationMark c
  | dash, c => inCategories [.dashPunctuation] dash c
  | bidiMirrored, c => inCategories [.openPunctuation, .closePunctuation] bidiMirrored c
  | terminalPunctuation, c =>
    sentenceTerminal.isException c != terminalPunctuation.isException c
  | diacritic, c => inCategories [.modifierSymbol] diacritic c
  | emoji, c => emojiPresentation.isException c != emoji.isException c
  | extendedPictographic, c =>
    emojiPresentation.isException c != extendedPictographic.isException c
  | ideographic, c => unifiedIdeograph.isException c != ideographic.isException c
  | defaultIgnorableCodePoint, c =>
    variationSelector.isException c != defaultIgnorableCodePoint.isException c
  | whiteSpace, c =>
    inCategories [.spaceSeparator, .lineSeparator, .paragraphSeparator] whiteSpace c
  | property, c => property.isException c

/-- The property with a name that is written without capitals and punctuation. -/
def ofName? (name : String) : Option Property :=
  all.find? fun property => property.names.contains name

end Property

/-!
## Quoted texts

A text between quotes for diagnostics.  Quotes, backslashes and characters that cannot be shown
are escaped.  Not shown are controls, formats, surrogates, characters for private use, unassigned
code points and separators other than the space, and the characters that extend the one before
them.
-/

/-- Whether the characters of a category have no form of their own. -/
def Category.isFormless : Category → Bool
  | .control | .format | .surrogate | .privateUse | .unassigned | .lineSeparator
  | .paragraphSeparator | .spaceSeparator => true
  | _ => false

/-- Whether a character is shown as it is. -/
def isPrintable (c : Char) : Bool :=
  if c.toNat < 0x80 then 0x20 ≤ c.toNat && c.toNat < 0x7F
  else !(categoryOf c).isFormless && !Property.extendsGrapheme c

/-- The form of one character in a quoted text. -/
def quoteChar (c : Char) : List Char :=
  if c = '"' then ['\\', '"']
  else if c = '\\' then ['\\', '\\']
  else if c = '\n' then ['\\', 'n']
  else if c = '\r' then ['\\', 'r']
  else if c = '\t' then ['\\', 't']
  else if c = '\x00' then ['\\', '0']
  else if isPrintable c then [c]
  else "\\u\x7b".toList ++ Nat.toDigits 16 c.toNat ++ ['\x7d']

/-- A text between quotes. -/
def quote (text : String) : String :=
  String.ofList ('"' :: (text.toList.flatMap quoteChar ++ ['"']))

end PromptScript.Text
