import PluginKit.Unicode.Property
import PluginKit.Unicode.Script

/-!
# Sets of characters by their names

A name stands for a property, a general category or a script, in this order. Case, blanks, hyphens and
low lines in it do not matter, nor does a leading `is`.
-/

namespace PluginKit.Unicode.Named

/-! ## Names -/

/-- Whether a character counts in a name. -/
def counts (c : Char) : Bool := c.toNat < 0x80 && c != ' ' && c != '_' && c != '-'

/-- The letters of a name that count, in lower case. -/
def letters (s : List Char) : List Char := (s.filter counts).map Char.toLower

/-- The form in which names are compared. The name `isc` is one of its own and no abbreviated `c`. -/
def normalize (s : List Char) : String :=
  match s with
  | i :: t :: rest =>
    if i.toLower = 'i' ∧ t.toLower = 's' then
      if letters rest = ['c'] then "isc" else String.ofList (letters rest)
    else String.ofList (letters s)
  | s => String.ofList (letters s)

/-! ## Properties -/

/-- Hyphens. -/
def hyphen : CharSet := .ofText ["2d ad 58a 1806 2010-2011 2e17 30fb fe63 ff0d ff65"]

/-- Punctuation within words that does not count when the case of a letter is decided. -/
def caseIgnorablePunctuation : CharSet := .ofText
  ["27 2e 3a b7 387 55f 5f4 2018-2019 2024 2027 fe13 fe52 fe55 ff07 ff0e ff1a"]

/-- Characters that do not count when the case of a letter is decided. -/
def caseIgnorable : CharSet :=
  caseIgnorablePunctuation.union <| Category.set fun c =>
    c == .nonspacingMark || c == .enclosingMark || c == .format || c == .modifierLetter ||
      c == .modifierSymbol

open Property in
/-- The properties by their normalized names. -/
def properties : List (List String × CharSet) :=
  [.mk ["ahex", "asciihexdigit"] asciiHexDigit, .mk ["alpha", "alphabetic"] alphabetic,
    .mk ["bidic", "bidicontrol"] bidiControl, .mk ["caseignorable", "ci"] caseIgnorable,
    .mk ["cased"] cased, .mk ["dash"] dash,
    .mk ["di", "defaultignorablecodepoint"] defaultIgnorable, .mk ["dep", "deprecated"] deprecated,
    .mk ["dia", "diacritic"] diacritic, .mk ["emoji"] emoji,
    .mk ["ecomp", "emojicomponent"] emojiComponent, .mk ["emod", "emojimodifier"] emojiModifier,
    .mk ["ebase", "emojimodifierbase"] emojiModifierBase,
    .mk ["epres", "emojipresentation"] emojiPresentation,
    .mk ["extpict", "extendedpictographic"] extendedPictographic, .mk ["ext", "extender"] extender,
    .mk ["grbase", "graphemebase"] graphemeBase, .mk ["grext", "graphemeextend"] graphemeExtend,
    .mk ["hex", "hexdigit"] hexDigit, .mk ["hyphen"] hyphen,
    .mk ["idsb", "idsbinaryoperator"] idsBinaryOperator,
    .mk ["idst", "idstrinaryoperator"] idsTrinaryOperator, .mk ["idc", "idcontinue"] idContinue,
    .mk ["ids", "idstart"] idStart, .mk ["ideo", "ideographic"] ideographic,
    .mk ["joinc", "joincontrol"] joinControl,
    .mk ["loe", "logicalorderexception"] logicalOrderException,
    .mk ["lower", "lowercase"] lowercase, .mk ["math"] math,
    .mk ["nchar", "noncharactercodepoint"] noncharacter, .mk ["oalpha", "otheralphabetic"] otherAlphabetic,
    .mk ["ogrext", "othergraphemeextend"] otherGraphemeExtend,
    .mk ["oidc", "otheridcontinue"] otherIdContinue, .mk ["oids", "otheridstart"] otherIdStart,
    .mk ["olower", "otherlowercase"] otherLowercase, .mk ["omath", "othermath"] otherMath,
    .mk ["oupper", "otheruppercase"] otherUppercase, .mk ["patsyn", "patternsyntax"] patternSyntax,
    .mk ["patws", "patternwhitespace"] patternWhiteSpace,
    .mk ["pcm", "prependedconcatenationmark"] prependedMark,
    .mk ["qmark", "quotationmark"] quotationMark, .mk ["radical"] radical,
    .mk ["ri", "regionalindicator"] regionalIndicator,
    .mk ["sterm", "sentenceterminal"] sentenceTerminal, .mk ["sd", "softdotted"] softDotted,
    .mk ["term", "terminalpunctuation"] terminalPunctuation,
    .mk ["uideo", "unifiedideograph"] unifiedIdeograph, .mk ["upper", "uppercase"] uppercase,
    .mk ["vs", "variationselector"] variationSelector, .mk ["wspace", "whitespace", "space"] whiteSpace,
    .mk ["xidc", "xidcontinue"] (idContinue.difference notClosedContinue),
    .mk ["xids", "xidstart"] (idStart.difference notClosedStart)]

/-- The set of a property. -/
def property? (name : String) : Option CharSet :=
  (properties.find? fun p => p.1.contains name).map Prod.snd

/-! ## Categories and scripts -/

/-- The groups of categories: the letter that their codes start with, and their names. -/
def groups : List (Char × List String) :=
  [.mk 'C' ["c", "other"], .mk 'L' ["l", "letter"], .mk 'M' ["m", "mark", "combiningmark"],
    .mk 'N' ["n", "number"], .mk 'P' ["p", "punctuation", "punct"], .mk 'S' ["s", "symbol"],
    .mk 'Z' ["z", "separator"]]

/-- The categories that have a third name. -/
def otherNames : List (String × Category) :=
  [.mk "cntrl" .control, .mk "digit" .decimalNumber]

/-- The set of a general category, of a group of them or of the characters at all. Surrogates are no
characters, so that they have no set. -/
def category? (name : String) : Option CharSet :=
  if name = "any" then some .full
  else if name = "assigned" then some (Category.set (· != .unassigned))
  else if name = "ascii" then some (.range 0 0x7F)
  else if name = "lc" ∨ name = "casedletter" then
    some (Category.set fun c => c == .uppercaseLetter || c == .lowercaseLetter || c == .titlecaseLetter)
  else
    match groups.find? fun g => g.2.contains name with
    | some g => some (Category.group g.1)
    | none =>
      let found := Category.all.find? fun c =>
        normalize c.code.toList == name || normalize c.longName.toList == name
      match found <|> (otherNames.find? fun p => p.1 == name).map Prod.snd with
      | some .surrogate => none
      | some c => some (Category.set (· == c))
      | none => none

/-- The set of a script. -/
def script? (name : String) : Option CharSet :=
  (Script.names.find? fun p =>
    normalize p.1.toList == name || normalize p.2.toList == name).map fun p => Script.set p.1

/-! ## Looking up -/

/-- The names that stand for categories although they abbreviate properties as well. -/
def categoryFirst : List String := ["cf", "sc", "lc"]

/-- The properties that are no sets. -/
def valued : List String :=
  ["age", "bidiclass", "bc", "block", "blk", "canonicalcombiningclass", "ccc", "decompositiontype", "dt",
    "eastasianwidth", "ea", "generalcategory", "gc", "graphemeclusterbreak", "gcb", "linebreak", "lb",
    "name", "na", "numerictype", "nt", "numericvalue", "nv", "script", "scriptextensions", "scx",
    "sentencebreak", "sb", "wordbreak", "wb"]

/-- The set that a single name stands for. -/
def lookup? (name : List Char) : Option CharSet :=
  let name := normalize name
  let set := category? name <|> script? name
  if categoryFirst.contains name then set
  else if valued.contains name then none
  else property? name <|> set

/-- The set of the characters for which a property has a value. -/
def lookupValue? (property value : List Char) : Option CharSet :=
  let property := normalize property
  if property = "gc" ∨ property = "generalcategory" then category? (normalize value)
  else if property = "sc" ∨ property = "script" then script? (normalize value)
  else none

end PluginKit.Unicode.Named
