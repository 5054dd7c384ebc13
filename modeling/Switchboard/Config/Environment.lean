/-
**Environment variables as a source of configuration.**

A variable belongs to the configuration when its name begins with `BRIDGE__`, in any case. Two
underscores lead into a table, so `BRIDGE__AMI__READ_TIMEOUT_MS` is `ami.read_timeout_ms`. A value
is a text; where it may be more than that, one that reads as a truth value or as a number is one.

* `environmentSource`: the entries that variables make;
* `readVariable`: the value that a text is read as.
-/

import Switchboard.Config.Value
import Switchboard.Config.VariableFile
import Switchboard.Number.Spelling

namespace Switchboard.Config

open Text

/-- What the names of the variables of a configuration begin with. -/
def variableStart : String := "bridge__"

/-- The path that a name spells: two underscores are a dot. -/
def dotsForUnderscores : List Char → List Char
  | '_' :: '_' :: rest => '.' :: dotsForUnderscores rest
  | c :: rest => c :: dotsForUnderscores rest
  | [] => []

/-- The path of a variable of the configuration. -/
def variablePath? (name : String) : Option String :=
  let lower := (small name).toList
  if variableStart.toList.isPrefixOf lower then
    some (String.ofList (dotsForUnderscores (lower.drop variableStart.length)))
  else none

/-! ### Values -/

/-- The value that a text is read as: a truth value, an integer, a number, or the text itself. -/
def readVariable (text : String) : Value :=
  if small text = "true" then .flag true
  else if small text = "false" then .flag false
  else
    match int64Of? text with
    | some n => .int n
    | none =>
      match floatOf? text with
      | some x => .float x
      | none => .text text

/-- The entries that variables make. -/
def environmentSource (read : String → Value) (environment : Variables) : List (String × Value) :=
  environment.filterMap fun entry =>
    (variablePath? entry.1).map fun path => (path, read entry.2)

end Switchboard.Config
