import WebForm.Pattern.CharSet
import WebForm.Text.AgeTable
import WebForm.Text.Category
import WebForm.Text.ScriptTable
/-!
# Properties of characters

The sets of characters that a pattern can name by a property of the Unicode Character Database:
general categories, scripts, ages, yes-or-no properties, and the classes that the rules for
breaking text into characters, words and sentences are stated with. Patterns know the characters
up to version 16.0; those that came later count as unassigned.

Most properties follow from general categories and a table of exceptions, by the definitions of
the standard.
-/

set_option autoImplicit false

namespace WebForm.Pattern.Property

open Text

/-! ## General categories -/

/-- What patterns know: every code point but those that got their meaning after version 16.0. -/
def known : CharSet := (CharSet.ofSpans Age.newer).compl

/-- The characters of a table that patterns know. -/
def ofTable (table : List Span) : CharSet := (CharSet.ofSpans table).inter known

/-- The pharyngeal voiced fricative, a lowercase letter as long as it had no capital. -/
def lateLetter : CharSet := .single 'ʕ'

/-- The characters of an assigned general category. -/
def ofCategory (g : Category) : CharSet :=
  match g with
  | .Ll => (ofTable g.spans).union lateLetter
  | .Lo => (ofTable g.spans).diff lateLetter
  | _ => ofTable g.spans

/-- The characters with a meaning. -/
def assigned : CharSet := .unions (Category.assigned.map ofCategory)

/-- The characters of some general categories. -/
def ofCategories (gs : List Category) : CharSet :=
  let named := CharSet.unions ((gs.filter (· != .Cn)).map ofCategory)
  if gs.contains .Cn then named.union assigned.compl else named

/-- The characters between two code points, with both. -/
def codes (first last : Nat) : CharSet := .ofAscending [(first, last)]

/-- The characters at some ascending ranges of code points. -/
def codeRanges (ranges : List (Nat × Nat)) : CharSet := .ofAscending ranges

/-! ## Derived properties -/

/-- Lowercase characters. -/
def lowercase : CharSet := (ofCategory .Ll).union (ofTable Trait.otherLowercase)

/-- Uppercase characters. -/
def uppercase : CharSet := (ofCategory .Lu).union (ofTable Trait.otherUppercase)

/-- Characters with a case. -/
def cased : CharSet := .unions [lowercase, uppercase, ofCategory .Lt]

/-- Characters that case mapping passes over. -/
def caseIgnorable : CharSet :=
  .unions [ofCategories [.Mn, .Me, .Cf, .Lm, .Sk], ofTable Trait.wordInner]

/-- Alphabetic characters. -/
def alphabetic : CharSet :=
  .unions [lowercase, uppercase, ofCategories [.Lt, .Lm, .Lo, .Nl], ofTable Trait.otherAlphabetic]

/-- Mathematical characters. -/
def mathematical : CharSet := (ofCategory .Sm).union (ofTable Trait.otherMath)

/-- The decimal digits of every script. -/
def decimalDigit : CharSet := ofCategory .Nd

/-- White space. -/
def whiteSpace : CharSet :=
  codeRanges [(0x9, 0xD), (0x20, 0x20), (0x85, 0x85), (0xA0, 0xA0), (0x1680, 0x1680),
    (0x2000, 0x200A), (0x2028, 0x2029), (0x202F, 0x202F), (0x205F, 0x205F), (0x3000, 0x3000)]

/-- The two joiners. -/
def joiners : CharSet := ofTable Trait.joinControl

/-- Word characters: alphabetic characters, marks, decimal digits, connectors and the two
joiners. -/
def wordChar : CharSet :=
  .unions [alphabetic, ofCategories Category.marks, decimalDigit, ofCategory .Pc, joiners]

/-- Marks that extend the character before them, and what else does. -/
def graphemeExtend : CharSet :=
  .unions [ofCategories [.Mn, .Me], ofTable Trait.otherGraphemeExtend]

/-- Characters that a visible unit can start with. -/
def graphemeBase : CharSet :=
  assigned.diff (.unions [ofCategories [.Cc, .Cf, .Co, .Zl, .Zp], graphemeExtend])

/-- Characters that show nothing when a font lacks them. -/
def defaultIgnorable : CharSet :=
  (CharSet.unions [ofCategory .Cf, ofTable Trait.otherDefaultIgnorable,
    ofTable Trait.variationSelector]).diff
    (.unions [codes 0xFFF9 0xFFFB, codes 0x13430 0x1343F,
      ofTable Trait.prependedConcatenationMark])

/-- Characters kept for the syntax of patterns. -/
def patternReserved : CharSet :=
  (ofTable Trait.patternSyntax).union (ofTable Trait.patternWhiteSpace)

/-- Characters that identifiers can start with. -/
def idStart : CharSet :=
  (CharSet.unions [ofCategories Category.letters, ofCategory .Nl,
    ofTable Trait.otherIdStart]).diff patternReserved

/-- Characters that identifiers can continue with. -/
def idContinue : CharSet :=
  (CharSet.unions [idStart, ofCategories [.Mn, .Mc, .Nd, .Pc],
    ofTable Trait.otherIdContinue]).diff patternReserved

/-- Characters that start no identifier once they are normalized. -/
def unstableStart : CharSet :=
  codeRanges [(0x37A, 0x37A), (0xE33, 0xE33), (0xEB3, 0xEB3), (0x309B, 0x309C),
    (0xFC5E, 0xFC63), (0xFDFA, 0xFDFB), (0xFE70, 0xFE70), (0xFE72, 0xFE72), (0xFE74, 0xFE74),
    (0xFE76, 0xFE76), (0xFE78, 0xFE78), (0xFE7A, 0xFE7A), (0xFE7C, 0xFE7C), (0xFE7E, 0xFE7E),
    (0xFF9E, 0xFF9F)]

/-- Characters that continue no identifier once they are normalized. -/
def unstableContinue : CharSet :=
  codeRanges [(0x37A, 0x37A), (0x309B, 0x309C), (0xFC5E, 0xFC63), (0xFDFA, 0xFDFB),
    (0xFE70, 0xFE70), (0xFE72, 0xFE72), (0xFE74, 0xFE74), (0xFE76, 0xFE76), (0xFE78, 0xFE78),
    (0xFE7A, 0xFE7A), (0xFE7C, 0xFE7C), (0xFE7E, 0xFE7E)]

/-! ## Breaking text -/

/-- Vowels and consonants of Hangul that stand before, in and after the middle of a syllable. -/
def jamo (initial medial : Bool) : CharSet :=
  if initial then codeRanges [(0x1100, 0x115F), (0xA960, 0xA97C)]
  else if medial then
    codeRanges [(0x1160, 0x11A7), (0xD7B0, 0xD7C6), (0x16D63, 0x16D63), (0x16D67, 0x16D6A)]
  else codeRanges [(0x11A8, 0x11FF), (0xD7CB, 0xD7FB)]

/-- The syllables of Hangul without a final consonant. -/
def openSyllables : CharSet :=
  codeRanges ((List.range 399).map fun i => (0xAC00 + 28 * i, 0xAC00 + 28 * i))

/-- The syllables of Hangul with a final consonant. -/
def closedSyllables : CharSet := (codes 0xAC00 0xD7A3).diff openSyllables

/-- Characters that belong to the visible unit before them. -/
def unitExtend : CharSet := graphemeExtend.union (ofTable Trait.emojiModifier)

/-- Characters that belong to the visible unit after them. -/
def unitPrepend : CharSet :=
  .unions [ofTable Trait.prependedConcatenationMark, codeRanges [(0xD4E, 0xD4E),
    (0x111C2, 0x111C3), (0x113D1, 0x113D1), (0x1193F, 0x1193F), (0x11941, 0x11941),
    (0x11A3A, 0x11A3A), (0x11A84, 0x11A89), (0x11D46, 0x11D46), (0x11F02, 0x11F02)]]

/-- Controls that are a unit of their own. -/
def unitControl : CharSet :=
  (CharSet.unions [ofCategories [.Zl, .Zp, .Cc, .Cf],
    assigned.compl.inter defaultIgnorable]).diff
    (.unions [codeRanges [(0xA, 0xA), (0xD, 0xD), (0x200C, 0x200D)],
      ofTable Trait.prependedConcatenationMark, unitExtend])

/-- Spacing marks that belong to the visible unit before them. -/
def unitSpacing : CharSet :=
  ((ofCategory .Mc).union (codeRanges [(0xE33, 0xE33), (0xEB3, 0xEB3)])).diff
    (.unions [unitExtend, unitPrepend, codeRanges [(0x102B, 0x102C), (0x1038, 0x1038),
      (0x1062, 0x1064), (0x1067, 0x106D), (0x1083, 0x1083), (0x1087, 0x108C), (0x108F, 0x108F),
      (0x109A, 0x109C), (0x1A61, 0x1A61), (0x1A63, 0x1A64), (0xAA7B, 0xAA7B), (0xAA7D, 0xAA7D),
      (0x11720, 0x11721)]])

/-- The joiner that makes one emoji of two. -/
def zeroWidthJoiner : CharSet := .single '\u200D'

/-- Characters that a word takes in where they stand. -/
def wordExtend : CharSet := (unitExtend.union (ofCategory .Mc)).diff zeroWidthJoiner

/-- The digits of numbers, with the marks in front of them. -/
def wordNumeric : CharSet :=
  .unions [decimalDigit, codes 0x66B 0x66B, codes 0xFF10 0xFF19,
    (ofTable Trait.prependedConcatenationMark).diff (codes 0x70F 0x70F)]

/-- Format characters inside words. -/
def wordFormat : CharSet :=
  (ofCategory .Cf).diff
    (.unions [codes 0x200B 0x200D, wordExtend, wordNumeric, codes 0x70F 0x70F])

/-- The letters of Katakana and what goes with them. -/
def wordKatakana : CharSet :=
  (ofTable Script.katakana).union
    (codeRanges [(0x3031, 0x3035), (0x309B, 0x309C), (0x30A0, 0x30A0), (0x30FC, 0x30FC),
      (0xFF70, 0xFF70)])

/-- The letters of Hebrew. -/
def wordHebrew : CharSet := (ofTable Script.hebrew).inter (ofCategory .Lo)

/-- Scripts whose words are not separated. -/
def unseparated : CharSet :=
  .unions ([Script.thai, Script.lao, Script.myanmar, Script.khmer, Script.taiLe,
    Script.newTaiLue, Script.taiTham, Script.taiViet, Script.ahom].map ofTable)

/-- Letters of words. -/
def wordLetter : CharSet :=
  ((CharSet.unions [alphabetic, codeRanges [(0x2C2, 0x2C5), (0x2D2, 0x2D7), (0x2DE, 0x2DF),
    (0x2E5, 0x2EB), (0x2ED, 0x2ED), (0x2EF, 0x2FF), (0x55A, 0x55C), (0x55E, 0x55E),
    (0x58A, 0x58A), (0x5F3, 0x5F3), (0x70F, 0x70F), (0xA708, 0xA716), (0xA720, 0xA721),
    (0xA789, 0xA78A), (0xAB5B, 0xAB5B)]]).diff
    (.unions [ofTable Trait.ideographic, wordKatakana, unseparated, ofTable Script.hiragana,
      wordExtend, wordHebrew]))

/-- Letters of sentences without a case. -/
def sentenceLetter (lower upper : CharSet) : CharSet :=
  (alphabetic.union (codes 0x5F3 0x5F3)).diff (.unions [lower, upper, wordExtend])

/-- Lowercase letters of sentences; the letters of Georgian are used without a case. -/
def sentenceLower : CharSet :=
  lowercase.diff (.unions [graphemeExtend, codes 0x10D0 0x10FA, codes 0x10FD 0x10FF])

/-- Uppercase letters of sentences. -/
def sentenceUpper : CharSet :=
  ((ofCategory .Lt).union uppercase).diff (.unions [codes 0x1C90 0x1CBA, codes 0x1CBD 0x1CBF])

/-- Full stops, which may also mark an abbreviation. -/
def sentenceStop : CharSet :=
  codeRanges [(0x2E, 0x2E), (0x2024, 0x2024), (0xFE52, 0xFE52), (0xFF0E, 0xFF0E)]

/-- Punctuation that ends a sentence. -/
def sentenceEnd : CharSet := (ofTable Trait.sentenceTerminal).diff sentenceStop

/-- Brackets and quotation marks. -/
def sentenceClose : CharSet :=
  (CharSet.unions [ofCategories [.Ps, .Pe, .Pi, .Pf], codeRanges [(0x22, 0x22), (0x27, 0x27),
    (0x275B, 0x2760), (0x2E00, 0x2E01), (0x2E06, 0x2E08), (0x2E0B, 0x2E0B),
    (0x1F676, 0x1F678)]]).diff (sentenceStop.union sentenceEnd)

/-! ## Names -/

/-- A name without case, separators and foreign letters, and without `is` in front. -/
def normalized (name : List Char) : String :=
  let bare (cs : List Char) : List Char :=
    (cs.filter fun c => c.toNat < 0x80 && !(c == ' ' || c == '_' || c == '-')).map Char.toLower
  match name with
  | a :: b :: rest =>
    if a.toLower == 'i' && b.toLower == 's' then
      if bare rest == ['c'] then "isc" else String.ofList (bare rest)
    else String.ofList (bare name)
  | _ => String.ofList (bare name)

/-- The value under a name in a table whose rows have several names. -/
def under {α : Type} (table : List (List String × α)) (name : String) : Option α :=
  (table.find? (·.1.contains name)).map (·.2)

/-- The general category or group of categories of a name. -/
def category? (name : String) : Option CharSet :=
  if name == "any" then some .all
  else if name == "ascii" then some (codes 0 0x7F)
  else (Category.ofName? name).map ofCategories

/-- The script of a name. -/
def script? (name : String) : Option CharSet := (under Script.named name).map ofTable

/-- The characters that are used with the script of a name, be it their own or not. -/
def usedWith? (name : String) : Option CharSet := do
  let (names, table) ← Script.named.find? (·.1.contains name)
  let key := names.headD name
  let elsewhere := codeRanges (Script.shared.map fun (first, last, _) => (first, last))
  let here := Script.shared.filterMap fun (first, last, keys) =>
    if keys.contains key then some (first, last) else none
  return ((ofTable table).diff elsewhere).union ((codeRanges here).inter known)

/-- The characters of a version and of all before it, where the version is written `3.0` or
`V3_0`. -/
def upToVersion? (name : String) : Option CharSet :=
  let isIt (version : String × List Span) : Bool :=
    version.1 == name || String.ofList ('v' :: version.1.toList.filter (· != '.')) == name
  if Age.versions.any isIt then
    let before := Age.versions.takeWhile (!isIt ·)
    let last := (Age.versions.drop before.length).take 1
    some (.unions ((before ++ last).map fun v => CharSet.ofSpans v.2))
  else none

/-- The classes for finding visible units. -/
def unitClass? (name : String) : Option CharSet :=
  under [
    (["control", "cn"], unitControl), (["cr"], codes 0xD 0xD), (["lf"], codes 0xA 0xA),
    (["extend", "ex"], unitExtend), (["l"], jamo true false), (["v"], jamo false true),
    (["t"], jamo false false), (["lv"], openSyllables), (["lvt"], closedSyllables),
    (["prepend", "pp"], unitPrepend), (["spacingmark", "sm"], unitSpacing),
    (["regionalindicator", "ri"], ofTable Trait.regionalIndicator), (["zwj"], zeroWidthJoiner)]
    name

/-- The classes for finding words. -/
def wordClass? (name : String) : Option CharSet :=
  under [
    (["aletter", "le"], wordLetter), (["cr"], codes 0xD 0xD), (["lf"], codes 0xA 0xA),
    (["doublequote", "dq"], codes 0x22 0x22), (["singlequote", "sq"], codes 0x27 0x27),
    (["extend"], wordExtend), (["format", "fo"], wordFormat),
    (["extendnumlet", "ex"], (ofCategory .Pc).union (codes 0x202F 0x202F)),
    (["hebrewletter", "hl"], wordHebrew), (["katakana", "ka"], wordKatakana),
    (["midletter", "ml"], codeRanges [(0x3A, 0x3A), (0xB7, 0xB7), (0x387, 0x387),
      (0x55F, 0x55F), (0x5F4, 0x5F4), (0x2027, 0x2027), (0xFE13, 0xFE13), (0xFE55, 0xFE55),
      (0xFF1A, 0xFF1A)]),
    (["midnum", "mn"], codeRanges [(0x2C, 0x2C), (0x3B, 0x3B), (0x37E, 0x37E), (0x589, 0x589),
      (0x60C, 0x60D), (0x66C, 0x66C), (0x7F8, 0x7F8), (0x2044, 0x2044), (0xFE10, 0xFE10),
      (0xFE14, 0xFE14), (0xFE50, 0xFE50), (0xFE54, 0xFE54), (0xFF0C, 0xFF0C),
      (0xFF1B, 0xFF1B)]),
    (["midnumlet", "mb"], codeRanges [(0x2E, 0x2E), (0x2018, 0x2019), (0x2024, 0x2024),
      (0xFE52, 0xFE52), (0xFF07, 0xFF07), (0xFF0E, 0xFF0E)]),
    (["newline", "nl"], codeRanges [(0xB, 0xC), (0x85, 0x85), (0x2028, 0x2029)]),
    (["numeric", "nu"], wordNumeric),
    (["regionalindicator", "ri"], ofTable Trait.regionalIndicator),
    (["wsegspace"], (ofCategory .Zs).diff
      (codeRanges [(0xA0, 0xA0), (0x2007, 0x2007), (0x202F, 0x202F)])),
    (["zwj"], zeroWidthJoiner)]
    name

/-- The classes for finding sentences. -/
def sentenceClass? (name : String) : Option CharSet :=
  under [
    (["aterm", "at"], sentenceStop), (["close", "cl"], sentenceClose),
    (["cr"], codes 0xD 0xD), (["lf"], codes 0xA 0xA),
    (["extend", "ex"], .unions [graphemeExtend, ofCategory .Mc, zeroWidthJoiner]),
    (["format", "fo"], (ofCategory .Cf).diff
      (.unions [codes 0x200C 0x200D, wordExtend, wordNumeric, codes 0x70F 0x70F])),
    (["lower", "lo"], sentenceLower), (["upper", "up"], sentenceUpper),
    (["oletter", "le"], sentenceLetter sentenceLower sentenceUpper),
    (["numeric", "nu"], wordNumeric.union (codes 0x66C 0x66C)),
    (["scontinue", "sc"], codeRanges [(0x2C, 0x2D), (0x3A, 0x3B), (0x37E, 0x37E),
      (0x55D, 0x55D), (0x60C, 0x60D), (0x7F8, 0x7F8), (0x1802, 0x1802), (0x1808, 0x1808),
      (0x2013, 0x2014), (0x3001, 0x3001), (0xFE10, 0xFE11), (0xFE13, 0xFE14),
      (0xFE31, 0xFE32), (0xFE50, 0xFE51), (0xFE54, 0xFE55), (0xFE58, 0xFE58),
      (0xFE63, 0xFE63), (0xFF0C, 0xFF0D), (0xFF1A, 0xFF1B), (0xFF64, 0xFF64)]),
    (["sep", "se"], codeRanges [(0x85, 0x85), (0x2028, 0x2029)]),
    (["sp"], whiteSpace.diff
      (codeRanges [(0xA, 0xA), (0xD, 0xD), (0x85, 0x85), (0x2028, 0x2029)])),
    (["sterm", "st"], sentenceEnd)]
    name

/-- The yes-or-no property of a name. -/
def binary? (name : String) : Option CharSet :=
  under [
    (["asciihexdigit", "ahex"], ofTable Trait.asciiHexDigit),
    (["alphabetic", "alpha"], alphabetic),
    (["bidicontrol", "bidic"], ofTable Trait.bidiControl),
    (["bidimirrored", "bidim"], ofTable Trait.bidiMirrored),
    (["caseignorable", "ci"], caseIgnorable), (["cased"], cased),
    (["changeswhencasefolded", "cwcf"], ofTable Trait.changesWhenCasefolded),
    (["changeswhencasemapped", "cwcm"], .unions [ofTable Trait.changesWhenLowercased,
      ofTable Trait.changesWhenUppercased, ofTable Trait.changesWhenTitlecased]),
    (["changeswhenlowercased", "cwl"], ofTable Trait.changesWhenLowercased),
    (["changeswhentitlecased", "cwt"], ofTable Trait.changesWhenTitlecased),
    (["changeswhenuppercased", "cwu"], ofTable Trait.changesWhenUppercased),
    (["dash"], ofTable Trait.dash),
    (["defaultignorablecodepoint", "di"], defaultIgnorable),
    (["deprecated", "dep"], ofTable Trait.deprecated),
    (["diacritic", "dia"], ofTable Trait.diacritic),
    (["emoji"], ofTable Trait.emoji),
    (["emojicomponent", "ecomp"], ofTable Trait.emojiComponent),
    (["emojimodifier", "emod"], ofTable Trait.emojiModifier),
    (["emojimodifierbase", "ebase"], ofTable Trait.emojiModifierBase),
    (["emojipresentation", "epres"], ofTable Trait.emojiPresentation),
    (["extendedpictographic", "extpict"], .ofSpans Trait.extendedPictographic),
    (["extender", "ext"], ofTable Trait.extender),
    (["graphemebase", "grbase"], graphemeBase),
    (["graphemeextend", "grext"], graphemeExtend),
    (["graphemelink", "grlink"], ofTable Trait.graphemeLink),
    (["hexdigit", "hex"], ofTable Trait.hexDigit),
    (["hyphen"], ofTable Trait.hyphen),
    (["idsbinaryoperator", "idsb"], ofTable Trait.idsBinaryOperator),
    (["idstrinaryoperator", "idst"], ofTable Trait.idsTrinaryOperator),
    (["idsunaryoperator", "idsu"], ofTable Trait.idsUnaryOperator),
    (["idcompatmathcontinue"], ofTable Trait.idCompatMathContinue),
    (["idcompatmathstart"], ofTable Trait.idCompatMathStart),
    (["idcontinue", "idc"], idContinue), (["idstart", "ids"], idStart),
    (["ideographic", "ideo"], ofTable Trait.ideographic),
    (["joincontrol", "joinc"], joiners),
    (["logicalorderexception", "loe"], ofTable Trait.logicalOrderException),
    (["lowercase", "lower"], lowercase), (["math"], mathematical),
    (["modifiercombiningmark", "mcm"], ofTable Trait.modifierCombiningMark),
    (["noncharactercodepoint", "nchar"], ofTable Trait.noncharacterCodePoint),
    (["otheralphabetic", "oalpha"], ofTable Trait.otherAlphabetic),
    (["otherdefaultignorablecodepoint", "odi"], ofTable Trait.otherDefaultIgnorable),
    (["othergraphemeextend", "ogrext"], ofTable Trait.otherGraphemeExtend),
    (["otheridcontinue", "oidc"], ofTable Trait.otherIdContinue),
    (["otheridstart", "oids"], ofTable Trait.otherIdStart),
    (["otherlowercase", "olower"], ofTable Trait.otherLowercase),
    (["othermath", "omath"], ofTable Trait.otherMath),
    (["otheruppercase", "oupper"], ofTable Trait.otherUppercase),
    (["patternsyntax", "patsyn"], .ofSpans Trait.patternSyntax),
    (["patternwhitespace", "patws"], ofTable Trait.patternWhiteSpace),
    (["prependedconcatenationmark", "pcm"], ofTable Trait.prependedConcatenationMark),
    (["quotationmark", "qmark"], ofTable Trait.quotationMark),
    (["radical"], ofTable Trait.radical),
    (["regionalindicator", "ri"], ofTable Trait.regionalIndicator),
    (["sentenceterminal", "sterm"], ofTable Trait.sentenceTerminal),
    (["softdotted", "sd"], ofTable Trait.softDotted),
    (["terminalpunctuation", "term"], ofTable Trait.terminalPunctuation),
    (["unifiedideograph", "uideo"], ofTable Trait.unifiedIdeograph),
    (["uppercase", "upper"], uppercase),
    (["variationselector", "vs"], ofTable Trait.variationSelector),
    (["whitespace", "wspace", "space"], whiteSpace),
    (["xidcontinue", "xidc"], idContinue.diff unstableContinue),
    (["xidstart", "xids"], idStart.diff unstableStart)]
    name

/-- The set of a property by its name alone. -/
def named? (name : List Char) : Option CharSet :=
  let name := normalized name
  binary? name <|> category? name <|> script? name

/-- The set of the characters for which a property has a value. -/
def valued? (name value : List Char) : Option CharSet :=
  let value := normalized value
  match normalized name with
  | "generalcategory" | "gc" => category? value
  | "script" | "sc" => script? value
  | "scriptextensions" | "scx" => usedWith? value
  | "age" => upToVersion? value
  | "graphemeclusterbreak" | "gcb" => unitClass? value
  | "wordbreak" | "wb" => wordClass? value
  | "sentencebreak" | "sb" => sentenceClass? value
  | _ => none

/-- Splits a text at the first place where a separator stands. -/
def splitAt? (separator : List Char) : List Char → Option (List Char × List Char)
  | [] => none
  | c :: rest =>
    if separator.isPrefixOf (c :: rest) then some ([], (c :: rest).drop separator.length)
    else (splitAt? separator rest).map fun (before, after) => (c :: before, after)

/-- What is asked for between the braces of a property: a name, or a name and a value with `=`, `:`
or `!=` between them. Tells whether the complement of the set is wanted, as it is with `!=`. -/
def query? (body : List Char) : Option (Bool × CharSet) :=
  match splitAt? ['!', '='] body with
  | some (name, value) => (valued? name value).map fun s => (true, s)
  | none =>
    match splitAt? [':'] body <|> splitAt? ['='] body with
    | some (name, value) => (valued? name value).map fun s => (false, s)
    | none => (named? body).map fun s => (false, s)

end WebForm.Pattern.Property
