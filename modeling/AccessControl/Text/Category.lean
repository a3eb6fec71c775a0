/-
**The general categories of characters, by name.**

* `categories` — the categories, each with its loose names.
* `assigned` — the characters that have a category of their own.
-/

import AccessControl.Text.Letter
import AccessControl.Text.Mark
import AccessControl.Text.Number
import AccessControl.Text.Punctuation
import AccessControl.Text.Separator
import AccessControl.Text.Symbol

namespace AccessControl.Text

def visible : CharSet := .unionAll [letters, marks, numbers, punctuation, symbols, separators]

def assigned : CharSet := .unionAll [visible, controls, formats, privateUse]

/-- Sets of characters with their names, in lower case and without what joins words. -/
abbrev Naming : Type := List (List String × CharSet)

/-- The categories, the groups of them, and what covers all characters, assigned ones or ASCII. -/
def categories : Naming :=
  [(["any"], CharSet.empty.complement), (["assigned"], assigned),
    (["ascii"], .range '\x00' '\x7f'),
    (["l", "letter"], letters), (["lc", "casedletter"], casedLetters),
    (["lu", "uppercaseletter"], uppercaseLetters), (["ll", "lowercaseletter"], lowercaseLetters),
    (["lt", "titlecaseletter"], titlecaseLetters), (["lm", "modifierletter"], modifierLetters),
    (["lo", "otherletter"], otherLetters),
    (["m", "mark", "combiningmark"], marks), (["mn", "nonspacingmark"], nonspacingMarks),
    (["mc", "spacingmark"], spacingMarks), (["me", "enclosingmark"], enclosingMarks),
    (["n", "number"], numbers), (["nd", "decimalnumber", "digit"], decimalDigits),
    (["nl", "letternumber"], letterNumbers), (["no", "othernumber"], otherNumbers),
    (["p", "punctuation", "punct"], punctuation), (["pc", "connectorpunctuation"], connectors),
    (["pd", "dashpunctuation"], dashes), (["ps", "openpunctuation"], openBrackets),
    (["pe", "closepunctuation"], closeBrackets), (["pi", "initialpunctuation"], initialQuotes),
    (["pf", "finalpunctuation"], finalQuotes), (["po", "otherpunctuation"], otherPunctuation),
    (["s", "symbol"], symbols), (["sm", "mathsymbol"], mathSymbols),
    (["sc", "currencysymbol"], currencySymbols), (["sk", "modifiersymbol"], modifierSymbols),
    (["so", "othersymbol"], otherSymbols),
    (["z", "separator"], separators), (["zs", "spaceseparator"], spaceSeparators),
    (["zl", "lineseparator"], lineSeparators), (["zp", "paragraphseparator"], paragraphSeparators),
    (["c", "other"], visible.complement), (["cc", "control", "cntrl"], controls),
    (["cf", "format"], formats), (["co", "privateuse"], privateUse),
    (["cn", "unassigned"], assigned.complement)]

end AccessControl.Text
