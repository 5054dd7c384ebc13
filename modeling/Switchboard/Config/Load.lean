/-
**Loading settings: files first, then the environment.**

Settings come from a text, from one file, or from two usual files, of which either may be missing:
one for all modes of running, and one for the mode at hand. The variables of the environment are
laid over the files. What has been laid together is read, and then checked.

* `ofToml`: the settings in a text;
* `fromFile`: the settings in one file, which has to be there;
* `load`: the settings for the mode that the environment names.
-/

import Switchboard.Config.Dialect
import Switchboard.Config.Environment
import Switchboard.Config.Files
import Switchboard.Config.Path
import Switchboard.Config.Violation
import Switchboard.Error
import Switchboard.Ini
import Switchboard.Json.Parser
import Switchboard.Json5
import Switchboard.Ron
import Switchboard.Toml
import Switchboard.Yaml

namespace Switchboard.Config

/-- The formats of configuration files. -/
inductive FileFormat where
  | toml
  | json
  | yaml
  | ini
  | ron
  | json5
  deriving DecidableEq, Repr

/-- The endings of the names of files in a format. -/
def FileFormat.endings : FileFormat → List String
  | toml => ["toml"]
  | json => ["json"]
  | yaml => ["yaml", "yml"]
  | ini => ["ini"]
  | ron => ["ron"]
  | json5 => ["json5"]

/-- All formats. -/
def FileFormat.all : List FileFormat := [.toml, .json, .yaml, .ini, .ron, .json5]

/-- The format of files with an ending. -/
def FileFormat.ofEnding? (ending : String) : Option FileFormat :=
  FileFormat.all.find? fun format => ending ∈ format.endings

mutual

/-- A JSON value as a value of a configuration. -/
def ofJson : Json → Value
  | .null => .nothing
  | .bool flag => .flag flag
  | .int n => if isInt64 n then .int n else .float (Binary64.ofNat n.toNat)
  | .float x => .float x
  | .str text => .text text
  | .arr items => .list (itemsOfJson items)
  | .obj fields => Value.ofFields (fieldsOfJson fields)

/-- JSON values as values of a configuration. -/
def itemsOfJson : List Json → List Value
  | [] => []
  | item :: rest => ofJson item :: itemsOfJson rest

/-- JSON fields as fields of a configuration. -/
def fieldsOfJson : List (String × Json) → List (String × Value)
  | [] => []
  | (name, value) :: rest => (name, ofJson value) :: fieldsOfJson rest

end

/-- The entries of a table; what is no table has none. -/
def entriesOf? : Value → Option (List (String × Value))
  | .table fields => some fields
  | _ => none

/-- The entries that a text in a format spells. The text as a whole has to be a table. -/
def FileFormat.parse? (format : FileFormat) (text : String) : Option (List (String × Value)) :=
  match format with
  | .toml => (Toml.parse? text).bind entriesOf?
  | .json => ((Json.parse? text).map ofJson).bind entriesOf?
  | .yaml => (Yaml.parse? text).bind entriesOf?
  | .ini => Ini.parse? text
  | .ron => Ron.parse? text
  | .json5 => (Json5.parse? text).bind entriesOf?

/-- A file that has been found: its text, and its format, unless its name has none of the endings. -/
structure FoundFile where
  format? : Option FileFormat
  text : String

/-- The first file whose name is the given one and an ending of a format. -/
def findWithEnding? (files : Files) (name : String) (format : FileFormat) : Option FoundFile :=
  format.endings.findSome? fun ending => do
    let text ← fileText? files (← withEnding? name ending)
    return { format? := some format, text }

/-- The file that a name stands for: the file of exactly this name, or else the first with an ending
added. -/
def findFile? (files : Files) (name : String) : Option FoundFile :=
  match fileText? files name with
  | some text => some { format? := (ending? name).bind FileFormat.ofEnding?, text }
  | none => FileFormat.all.findSome? (findWithEnding? files name)

/-- The error of a configuration that cannot be used, for the reason that is given. -/
def refused {α : Type} (reason : String) : Except BridgeError α :=
  .error (.configuration reason)

/-- The entries of a text in a format. -/
def readText (format : FileFormat) (text : String) : Except BridgeError (List (String × Value)) :=
  match format.parse? text with
  | some entries => .ok entries
  | none => refused "file cannot be read"

/-- The settings that a configuration amounts to, once they have been read and checked. -/
def finish (config : List (String × Value)) : Except BridgeError BridgeSettings :=
  match lenient.bridge? (.table config) with
  | none => refused "settings cannot be read"
  | some settings =>
    match violations settings, repeatedInbox? settings with
    | violation :: _, _ => refused s!"{violation.path} is not allowed: {violation.fault.code}"
    | [], some inboxId => refused s!"inbox {inboxId} configured more than once"
    | [], none => .ok settings

/-- The settings in a text. -/
def ofToml (text : String) : Except BridgeError BridgeSettings := do
  finish (laySource [] (← readText .toml text))

/-- The settings in one file, and in the variables of the environment, whose values are texts. -/
def fromFile (files : Files) (environment : Variables) (name : String) :
    Except BridgeError BridgeSettings :=
  match findFile? files name with
  | none => refused "file is missing"
  | some { format? := none, .. } => refused "file has no known format"
  | some { format? := some format, text } => do
    let config := laySource [] (← readText format text)
    finish (laySource config (environmentSource .text environment))

/-- A configuration with the entries of a file laid over it, if there is such a file in a known
format. -/
def layFile (files : Files) (name : String) (config : List (String × Value)) :
    Except BridgeError (List (String × Value)) :=
  match findFile? files name with
  | some { format? := some format, text } => do return laySource config (← readText format text)
  | _ => .ok config

/-- The mode of running unless another one is named. -/
def usualMode : String := "development"

/-- The settings for the mode of running that the environment names. Variables may also stand in a
file of their own. -/
def load (files : Files) (environment : Variables) : Except BridgeError BridgeSettings := do
  let environment :=
    match fileText? files ".env" with
    | some text => withFile environment text
    | none => environment
  let mode := (environment.value? "RUN_MODE").getD usualMode
  let common ← layFile files "config/default" []
  let config ← layFile files ("config/" ++ mode) common
  finish (laySource config (environmentSource readVariable environment))

end Switchboard.Config
