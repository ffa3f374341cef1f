import Reshape.Pattern.CharSet
import Reshape.Text.Basic
import Reshape.Text.Script
import Reshape.Text.Trait

namespace Reshape.Pattern.Property

/-- What names have in common that mean the same. -/
def normal (name : List Char) : List Char :=
  let bare := match name with
    | a :: b :: rest =>
      if Text.asciiLowerChar a = 'i' && Text.asciiLowerChar b = 's' then rest else name
    | _ => name
  let kept := Text.asciiLower
    (bare.filter fun c => Text.isAscii c && c ≠ ' ' && c ≠ '_' && c ≠ '-')
  if kept = ['c'] && bare.length < name.length then ['i', 's', 'c'] else kept

open Text.Category

/-- General categories: short name, long name, other name, and what they consist of. -/
def categories : List (List String × List Text.Ranges) := [
  (["lu", "uppercaseletter"], [uppercaseLetter]),
  (["ll", "lowercaseletter"], [lowercaseLetter]),
  (["lt", "titlecaseletter"], [titlecaseLetter]),
  (["lc", "casedletter"], [uppercaseLetter, lowercaseLetter, titlecaseLetter]),
  (["lm", "modifierletter"], [modifierLetter]),
  (["lo", "otherletter"], [otherLetter]),
  (["l", "letter"],
    [uppercaseLetter, lowercaseLetter, titlecaseLetter, modifierLetter, otherLetter]),
  (["mn", "nonspacingmark"], [nonspacingMark]),
  (["mc", "spacingmark"], [spacingMark]),
  (["me", "enclosingmark"], [enclosingMark]),
  (["m", "mark", "combiningmark"], [nonspacingMark, spacingMark, enclosingMark]),
  (["nd", "decimalnumber", "digit"], [decimalNumber]),
  (["nl", "letternumber"], [letterNumber]),
  (["no", "othernumber"], [otherNumber]),
  (["n", "number"], [decimalNumber, letterNumber, otherNumber]),
  (["pc", "connectorpunctuation"], [connectorPunctuation]),
  (["pd", "dashpunctuation"], [dashPunctuation]),
  (["ps", "openpunctuation"], [openPunctuation]),
  (["pe", "closepunctuation"], [closePunctuation]),
  (["pi", "initialpunctuation"], [initialPunctuation]),
  (["pf", "finalpunctuation"], [finalPunctuation]),
  (["po", "otherpunctuation"], [otherPunctuation]),
  (["p", "punctuation", "punct"], [connectorPunctuation, dashPunctuation, openPunctuation,
    closePunctuation, initialPunctuation, finalPunctuation, otherPunctuation]),
  (["sm", "mathsymbol"], [mathSymbol]),
  (["sc", "currencysymbol"], [currencySymbol]),
  (["sk", "modifiersymbol"], [modifierSymbol]),
  (["so", "othersymbol"], [otherSymbol]),
  (["s", "symbol"], [mathSymbol, currencySymbol, modifierSymbol, otherSymbol]),
  (["zs", "spaceseparator"], [spaceSeparator]),
  (["zl", "lineseparator"], [lineSeparator]),
  (["zp", "paragraphseparator"], [paragraphSeparator]),
  (["z", "separator"], [spaceSeparator, lineSeparator, paragraphSeparator]),
  (["cc", "control", "cntrl"], [control]),
  (["cf", "format"], [format]),
  (["co", "privateuse"], [privateUse])]

def assigned : CharSet :=
  .unions ((categories.flatMap Prod.snd).map CharSet.ranges)

/-- Assigned to nothing, formats, controls and private use: what is not written. -/
def other : CharSet :=
  .either (.not assigned) (.unions [.ranges control, .ranges format, .ranges privateUse])

def category? (name : String) : Option CharSet :=
  if name = "any" then some .all
  else if name = "assigned" then some assigned
  else if name = "ascii" then some .ascii
  else if name = "cn" || name = "unassigned" then some (.not assigned)
  else if name = "c" || name = "other" then some other
  else (categories.find? (·.1.contains name)).map fun found =>
    .unions (found.2.map CharSet.ranges)

def script? (name : String) : Option CharSet :=
  (Text.Script.all.find? fun s =>
    normal s.name.toList = name.toList || normal s.code.toList = name.toList).map
    fun s => .ranges s.characters

def traits : List (List String × CharSet) := [
  (["alphabetic", "alpha"], .alphabetic),
  (["uppercase", "upper"], .tabled Text.isUppercase Text.Table.uppercase),
  (["lowercase", "lower"], .tabled Text.isLowercase Text.Table.lowercase),
  (["cased"], .tabled Text.isCased Text.Table.cased),
  (["caseignorable", "ci"], .tabled Text.isCaseIgnorable Text.Table.caseIgnorable),
  (["whitespace", "wspace", "space"], .blank),
  (["joincontrol", "joinc"], .joiner)]

def trait? (name : String) : Option CharSet :=
  match traits.find? (·.1.contains name) with
  | some found => some found.2
  | none => (Text.Trait.all.find? fun t =>
      normal t.name.toList = name.toList || normal t.short.toList = name.toList).map
      fun t => .ranges t.characters

def named? (name : List Char) : Option CharSet :=
  let name := String.ofList (normal name)
  ((trait? name).or (category? name)).or (script? name)

def withValue? (property value : List Char) : Option CharSet :=
  let property := String.ofList (normal property)
  let value := String.ofList (normal value)
  if property = "gc" || property = "generalcategory" then category? value
  else if property = "sc" || property = "script" then script? value
  else none

def around? (mark : List Char) : List Char → Option (List Char × List Char)
  | [] => none
  | c :: cs => match Text.after? mark (c :: cs) with
    | some behind => some ([], behind)
    | none => (around? mark cs).map fun (before, behind) => (c :: before, behind)

/-- The set that a text between braces describes: a name, or a property and its value. -/
def described? (text : List Char) : Option CharSet :=
  match around? ['!', '='] text with
  | some (property, value) => (withValue? property value).map CharSet.not
  | none => match (around? [':'] text).or (around? ['='] text) with
    | some (property, value) => withValue? property value
    | none => named? text

def asciiClasses : List (String × CharSet) := [
  ("alnum", .holding Text.isAsciiAlphanumeric 0x80),
  ("alpha", .holding Text.isAsciiLetter 0x80),
  ("ascii", .ascii),
  ("blank", .oneOf "\t "),
  ("cntrl", .either (.span (Char.ofNat 0) (Char.ofNat 0x1f)) (.single (Char.ofNat 0x7f))),
  ("digit", .asciiDigit),
  ("graph", .span '!' '~'),
  ("lower", .holding Text.isAsciiLower 0x80),
  ("print", .span ' ' '~'),
  ("punct", .without (.span '!' '~') (.holding Text.isAsciiAlphanumeric 0x80)),
  ("space", .asciiBlank),
  ("upper", .holding Text.isAsciiUpper 0x80),
  ("word", .asciiWord),
  ("xdigit", .oneOf "0123456789abcdefABCDEF")]

end Reshape.Pattern.Property
