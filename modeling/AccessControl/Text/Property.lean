/-
**Sets of characters by the names that the Unicode standard gives them.**

* `looseName` — a name without what does not matter in it.
* `named?` — a property, a category or a script by its name alone.
* `valued?` — a category, a script or a version by its name and by what it is a value of.
-/

import AccessControl.Text.Blank
import AccessControl.Text.Category
import AccessControl.Text.Emoji
import AccessControl.Text.LetterProperty
import AccessControl.Text.NameProperty
import AccessControl.Text.Script
import AccessControl.Text.SignProperty
import AccessControl.Text.Version

namespace AccessControl.Text

/-- A name in lower case, without blanks, hyphens, underscores and what is not ASCII, and without
the word `is` in front; the name `isc`, of another property, keeps it. -/
def looseName (name : String) : String :=
  let text := name.toList
  let marked := (text.take 2).map Char.toLower = ['i', 's']
  let kept := (if marked then text.drop 2 else text).filter fun c =>
    c.toNat < 128 && c ≠ ' ' && c ≠ '_' && c ≠ '-'
  let loose := kept.map Char.toLower
  if marked ∧ loose = ['c'] then "isc" else String.ofList loose

/-- The properties that a character has or lacks. -/
def properties : Naming :=
  [(["alphabetic", "alpha"], alphabetic), (["lowercase", "lower"], lowercase),
    (["uppercase", "upper"], uppercase), (["cased"], cased),
    (["caseignorable", "ci"], caseIgnorable),
    (["changeswhenlowercased", "cwl"], changedByLowercasing),
    (["changeswhenuppercased", "cwu"], changedByUppercasing),
    (["changeswhentitlecased", "cwt"], changedByTitlecasing),
    (["changeswhencasemapped", "cwcm"], changedByCase),
    (["changeswhencasefolded", "cwcf"], changedByFolding),
    (["whitespace", "wspace", "space"], blanks), (["asciihexdigit", "ahex"], asciiHexDigits),
    (["hexdigit", "hex"], hexDigits), (["bidicontrol", "bidic"], directionControls),
    (["dash"], allDashes), (["hyphen"], hyphens),
    (["defaultignorablecodepoint", "di"], ignorable), (["deprecated", "dep"], deprecated),
    (["diacritic", "dia"], diacritics), (["extender", "ext"], extenders), (["emoji"], emoji),
    (["emojicomponent", "ecomp"], emojiComponents), (["emojimodifier", "emod"], emojiModifiers),
    (["emojimodifierbase", "ebase"], emojiModifierBases),
    (["emojipresentation", "epres"], emojiPresentation),
    (["extendedpictographic", "extpict"], pictographs),
    (["graphemebase", "grbase"], graphemeBases), (["graphemeextend", "grext"], graphemeExtenders),
    (["idstart", "ids"], nameStarts), (["idcontinue", "idc"], nameParts),
    (["xidstart", "xids"], closedNameStarts), (["xidcontinue", "xidc"], closedNameParts),
    (["idsbinaryoperator", "idsb"], binaryDescribers),
    (["idstrinaryoperator", "idst"], ternaryDescribers),
    (["idsunaryoperator", "idsu"], unaryDescribers), (["radical"], radicals),
    (["ideographic", "ideo"], ideographs), (["unifiedideograph", "uideo"], unifiedIdeographs),
    (["joincontrol", "joinc"], joiners), (["logicalorderexception", "loe"], reorderedLetters),
    (["math"], mathematical), (["noncharactercodepoint", "nchar"], noncharacters),
    (["patternsyntax", "patsyn"], patternSyntax),
    (["patternwhitespace", "patws"], patternBlanks),
    (["prependedconcatenationmark", "pcm"], numberMarks),
    (["quotationmark", "qmark"], quotationMarks),
    (["regionalindicator", "ri"], regionLetters), (["sentenceterminal", "sterm"], sentenceEnds),
    (["softdotted", "sd"], softDotted), (["terminalpunctuation", "term"], terminals),
    (["variationselector", "vs"], variationSelectors)]

def Naming.find? (naming : Naming) (name : String) : Option CharSet :=
  (List.find? (fun entry => entry.1.contains name) naming).map Prod.snd

def script? (name : String) : Option Script :=
  scripts.find? fun script => (script.name :: script.codes).any fun given => looseName given = name

/-- The characters with a property, of a category or of a script; a name of a property goes before
the same name of a category, and that before the same name of a script. -/
def named? (name : String) : Option CharSet :=
  let loose := looseName name
  properties.find? loose <|> categories.find? loose <|> (script? loose).map Script.chars

/-- The characters that have a value of a property: of the general category, the script, the
scripts or the age. -/
def valued? (property value : String) : Option CharSet :=
  let loose := looseName value
  match looseName property with
  | "gc" | "generalcategory" => categories.find? loose
  | "sc" | "script" => (script? loose).map Script.chars
  | "scx" | "scriptextensions" => (script? loose).map Script.extended
  | "age" => ofVersion? loose
  | _ => none

end AccessControl.Text
