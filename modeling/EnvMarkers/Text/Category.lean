import EnvMarkers.Text.Category.Letters
import EnvMarkers.Text.Category.Symbols

/-!
# Categories of characters

The general categories of Unicode 15, their names, and the classes that are made of them: decimal
digits, the characters of words, and alphabetic, numeric, lowercase and uppercase characters.
Characters of later versions count as unassigned.
-/

namespace EnvMarkers.Text

/-- A general category of characters. -/
inductive Category where
  /-- Uppercase letters, `Lu`. -/
  | uppercaseLetter
  /-- Lowercase letters, `Ll`. -/
  | lowercaseLetter
  /-- Titlecase letters, `Lt`. -/
  | titlecaseLetter
  /-- Modifier letters, `Lm`. -/
  | modifierLetter
  /-- Letters without case, `Lo`. -/
  | otherLetter
  /-- Marks that take no room of their own, `Mn`. -/
  | nonspacingMark
  /-- Marks that take room, `Mc`. -/
  | spacingMark
  /-- Marks around a character, `Me`. -/
  | enclosingMark
  /-- Decimal digits, `Nd`. -/
  | decimalNumber
  /-- Numbers that look like letters, `Nl`. -/
  | letterNumber
  /-- Other numbers, `No`. -/
  | otherNumber
  /-- Punctuation that connects words, `Pc`. -/
  | connectorPunctuation
  /-- Dashes, `Pd`. -/
  | dashPunctuation
  /-- Opening brackets, `Ps`. -/
  | openPunctuation
  /-- Closing brackets, `Pe`. -/
  | closePunctuation
  /-- Opening quotes, `Pi`. -/
  | initialPunctuation
  /-- Closing quotes, `Pf`. -/
  | finalPunctuation
  /-- Other punctuation, `Po`. -/
  | otherPunctuation
  /-- Mathematical symbols, `Sm`. -/
  | mathSymbol
  /-- Currency signs, `Sc`. -/
  | currencySymbol
  /-- Symbols that modify others, `Sk`. -/
  | modifierSymbol
  /-- Other symbols, `So`. -/
  | otherSymbol
  /-- Spaces, `Zs`. -/
  | spaceSeparator
  /-- The line separator, `Zl`. -/
  | lineSeparator
  /-- The paragraph separator, `Zp`. -/
  | paragraphSeparator
  /-- Control characters, `Cc`. -/
  | control
  /-- Format characters, `Cf`. -/
  | format
  /-- Characters for private use, `Co`. -/
  | privateUse
  /-- Code points without a character, `Cn`. -/
  | unassigned
  deriving DecidableEq, Repr, Inhabited

namespace Category

/-- The categories of assigned characters. -/
def assigned : List Category :=
  [uppercaseLetter, lowercaseLetter, titlecaseLetter, modifierLetter, otherLetter,
    nonspacingMark, spacingMark, enclosingMark, decimalNumber, letterNumber, otherNumber,
    connectorPunctuation, dashPunctuation, openPunctuation, closePunctuation,
    initialPunctuation, finalPunctuation, otherPunctuation, mathSymbol, currencySymbol,
    modifierSymbol, otherSymbol, spaceSeparator, lineSeparator, paragraphSeparator, control,
    format, privateUse]

/-- The code points of a category; those of unassigned characters are what the others leave. -/
def runs : Category → Array CodeRun
  | uppercaseLetter => uppercaseLetterRuns
  | lowercaseLetter => lowercaseLetterRuns
  | titlecaseLetter => titlecaseLetterRuns
  | modifierLetter => modifierLetterRuns
  | otherLetter => otherLetterRuns
  | nonspacingMark => nonspacingMarkRuns
  | spacingMark => spacingMarkRuns
  | enclosingMark => enclosingMarkRuns
  | decimalNumber => decimalNumberRuns
  | letterNumber => letterNumberRuns
  | otherNumber => otherNumberRuns
  | connectorPunctuation => connectorPunctuationRuns
  | dashPunctuation => dashPunctuationRuns
  | openPunctuation => openPunctuationRuns
  | closePunctuation => closePunctuationRuns
  | initialPunctuation => initialPunctuationRuns
  | finalPunctuation => finalPunctuationRuns
  | otherPunctuation => otherPunctuationRuns
  | mathSymbol => mathSymbolRuns
  | currencySymbol => currencySymbolRuns
  | modifierSymbol => modifierSymbolRuns
  | otherSymbol => otherSymbolRuns
  | spaceSeparator => spaceSeparatorRuns
  | lineSeparator => lineSeparatorRuns
  | paragraphSeparator => paragraphSeparatorRuns
  | control => controlRuns
  | format => formatRuns
  | privateUse => privateUseRuns
  | unassigned => #[]

/-- Whether a character is in a category. -/
def contains (g : Category) (c : Char) : Bool :=
  if g = unassigned then !assigned.any fun a => inRuns a.runs c else inRuns g.runs c

/-- The cased letters. -/
def casedLetters : List Category :=
  [uppercaseLetter, lowercaseLetter, titlecaseLetter]

/-- The letters. -/
def letters : List Category :=
  casedLetters ++ [modifierLetter, otherLetter]

/-- The marks. -/
def marks : List Category :=
  [nonspacingMark, spacingMark, enclosingMark]

/-- The numbers. -/
def numbers : List Category :=
  [decimalNumber, letterNumber, otherNumber]

/-- The punctuation characters. -/
def punctuation : List Category :=
  [connectorPunctuation, dashPunctuation, openPunctuation, closePunctuation,
    initialPunctuation, finalPunctuation, otherPunctuation]

/-- The symbols. -/
def symbols : List Category :=
  [mathSymbol, currencySymbol, modifierSymbol, otherSymbol]

/-- The separators. -/
def separators : List Category :=
  [spaceSeparator, lineSeparator, paragraphSeparator]

/-- The remaining categories. -/
def others : List Category :=
  [control, format, privateUse, unassigned]

/-- The names of categories and of groups of categories, in small letters and without
separators. -/
def byName : List (List String × List Category) :=
  [(["l", "letter"], letters), (["lc", "casedletter"], casedLetters),
    (["lu", "uppercaseletter"], [uppercaseLetter]),
    (["ll", "lowercaseletter"], [lowercaseLetter]),
    (["lt", "titlecaseletter"], [titlecaseLetter]),
    (["lm", "modifierletter"], [modifierLetter]),
    (["lo", "otherletter"], [otherLetter]),
    (["m", "mark", "combiningmark"], marks),
    (["mn", "nonspacingmark"], [nonspacingMark]), (["mc", "spacingmark"], [spacingMark]),
    (["me", "enclosingmark"], [enclosingMark]),
    (["n", "number"], numbers), (["nd", "decimalnumber", "digit"], [decimalNumber]),
    (["nl", "letternumber"], [letterNumber]), (["no", "othernumber"], [otherNumber]),
    (["p", "punctuation", "punct"], punctuation),
    (["pc", "connectorpunctuation"], [connectorPunctuation]),
    (["pd", "dashpunctuation"], [dashPunctuation]),
    (["ps", "openpunctuation"], [openPunctuation]),
    (["pe", "closepunctuation"], [closePunctuation]),
    (["pi", "initialpunctuation"], [initialPunctuation]),
    (["pf", "finalpunctuation"], [finalPunctuation]),
    (["po", "otherpunctuation"], [otherPunctuation]),
    (["s", "symbol"], symbols), (["sm", "mathsymbol"], [mathSymbol]),
    (["sc", "currencysymbol"], [currencySymbol]),
    (["sk", "modifiersymbol"], [modifierSymbol]), (["so", "othersymbol"], [otherSymbol]),
    (["z", "separator"], separators), (["zs", "spaceseparator"], [spaceSeparator]),
    (["zl", "lineseparator"], [lineSeparator]),
    (["zp", "paragraphseparator"], [paragraphSeparator]),
    (["c", "other"], others), (["cc", "control", "cntrl"], [control]),
    (["cf", "format"], [format]), (["co", "privateuse"], [privateUse]),
    (["cn", "unassigned"], [unassigned]), (["any"], unassigned :: assigned),
    (["assigned"], assigned)]

/-- The categories with a given name, in small letters and without separators. -/
def ofName? (name : String) : Option (List Category) :=
  byName.findSome? fun (names, categories) => if name ∈ names then some categories else none

end Category

/-- Whether a character is in one of several categories. -/
def inCategories (gs : List Category) (c : Char) : Bool :=
  gs.any fun g => g.contains c

/-- Whether a character is a decimal digit of some script. -/
def isDecimalDigit (c : Char) : Bool :=
  Category.decimalNumber.contains c

/-- Whether a character is alphabetic. -/
def isAlphabetic (c : Char) : Bool :=
  inCategories (.letterNumber :: Category.letters) c || inRuns Category.otherAlphabeticRuns c

/-- Whether a character is alphabetic or a number. -/
def isAlphanumeric (c : Char) : Bool :=
  isAlphabetic c || inCategories Category.numbers c

/-- Whether a character is lowercase. -/
def isLowercase (c : Char) : Bool :=
  Category.lowercaseLetter.contains c || inRuns Category.otherLowercaseRuns c

/-- Whether a character is uppercase. -/
def isUppercase (c : Char) : Bool :=
  Category.uppercaseLetter.contains c || inRuns Category.otherUppercaseRuns c

/-- Whether a character may be part of a word: alphabetic characters, marks, decimal digits,
punctuation that connects words, and the two characters that join or separate letters without
being seen. -/
def isWordChar (c : Char) : Bool :=
  isAlphabetic c || inCategories Category.marks c || isDecimalDigit c ||
    Category.connectorPunctuation.contains c || c.toNat == 0x200C || c.toNat == 0x200D

end EnvMarkers.Text
