/-
**The settings of an engine.**

* `Settings` — whether decisions are recorded, whether programs are kept, where the database is, and
  how many connections may be open.
* `Settings.ofVariables` — the settings that some variables ask for; one that is absent or cannot be
  read leaves the standard in place.
-/

import AccessControl.Decimal.Numeral
import AccessControl.Text.Blank
import AccessControl.Word

namespace AccessControl

structure Settings where
  enableAudit : Bool := true
  cacheExpressions : Bool := true
  databaseUrl : Option String := none
  maxConnections : Nat := 10
  deriving Repr, DecidableEq

namespace Settings

/-- The variable that says whether decisions are recorded. -/
def auditVariable : String := "AUTHZ_ENABLE_AUDIT"

/-- The variable that says whether compiled expressions are kept. -/
def cacheVariable : String := "AUTHZ_CACHE_EXPRESSIONS"

def urlVariable : String := "AUTHZ_DATABASE_URL"

def connectionsVariable : String := "AUTHZ_MAX_CONNECTIONS"

/-- A switch: on or off in one of four words, in any case and with blanks around it. -/
def flag? (text : String) : Option Bool :=
  let word := String.ofList ((Text.trimmed text.toList).map Char.toLower)
  if ["1", "true", "yes", "on"].contains word then some true
  else if ["0", "false", "no", "off"].contains word then some false
  else none

/-- A text without blank ends, unless it is blank. -/
def notBlank? (text : String) : Option String :=
  if (Text.trim text).isEmpty then none else some (Text.trim text)

/-- A number of connections: positive, of at most 32 bits. -/
def connections? (text : String) : Option Nat :=
  match Decimal.readNatUpTo Word.greatestUInt32 (Text.trimmed text.toList) with
  | some (n + 1) => some (n + 1)
  | _ => none

def ofVariables (read : String → Option String) : Settings :=
  let standard : Settings := {}
  { enableAudit := ((read auditVariable).bind flag?).getD standard.enableAudit
    cacheExpressions := ((read cacheVariable).bind flag?).getD standard.cacheExpressions
    databaseUrl := ((read urlVariable).bind notBlank?).or standard.databaseUrl
    maxConnections := ((read connectionsVariable).bind connections?).getD standard.maxConnections }

end Settings

end AccessControl
