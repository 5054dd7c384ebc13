/-
**TOML documents.**

A document is a sequence of statements, each on lines of its own. A header says which table the
entries below it belong to: a table of its own, or one more row of a list of tables. A key with dots
leads through further tables.

No table may be defined twice. `Origin` keeps how a table came about, because that decides what may
still be added to it:

* a table that was only passed through on the way to another one may get a header later;
* a table that dotted keys made may be extended by dotted keys only;
* a table with a header may be entered by headers below it only.
-/

import Switchboard.Toml.Number
import Switchboard.Toml.Text

namespace Switchboard.Toml

open Text Config

/-- How a table came about. -/
inductive Origin where
  | header
  | passedThrough
  | dottedKey
  deriving DecidableEq, Repr

/-- A document under construction. -/
inductive Node where
  | leaf (content : Value)
  | table (origin : Origin) (fields : List (String × Node))
  | rows (tables : List (List (String × Node)))

/-- The fields of a table under construction. -/
abbrev Fields := List (String × Node)

namespace Node

mutual

/-- The value of a finished node. -/
def toValue : Node → Value
  | .leaf content => content
  | .table _ fields => Value.ofFields (toFields fields)
  | .rows tables => .list (toRows tables)

/-- The values of finished fields. -/
def toFields : List (String × Node) → List (String × Value)
  | [] => []
  | (name, node) :: rest => (name, node.toValue) :: toFields rest

/-- The values of finished rows. -/
def toRows : List (List (String × Node)) → List Value
  | [] => []
  | fields :: rest => Value.ofFields (toFields fields) :: toRows rest

end

end Node

namespace Fields

/-- The node under a name. -/
def find? (name : String) : Fields → Option Node
  | [] => none
  | (other, node) :: rest => if other = name then some node else find? name rest

/-- The fields with a node under a name, in the place of any that was there. -/
def insert (name : String) (node : Node) : Fields → Fields
  | [] => [(name, node)]
  | (other, old) :: rest =>
    if other = name then (name, node) :: rest else (other, old) :: insert name node rest

/-- What an action on the table at the end of a path makes of the fields at its beginning. Tables
that are missing on the way get the origin `made`, and dotted keys do not enter a table that has a
header. The last row stands for a list of tables. -/
def within (made : Origin) (act : Origin → Fields → Option Fields) :
    List String → Origin → Fields → Option Fields
  | [], origin, fields => act origin fields
  | name :: rest, _, fields =>
    match find? name fields with
    | none => do
      let inner ← within made act rest made []
      return insert name (.table made inner) fields
    | some (.leaf _) => none
    | some (.table origin inner) =>
      if made = .dottedKey ∧ origin = .header then none
      else do
        let inner ← within made act rest origin inner
        return insert name (.table origin inner) fields
    | some (.rows tables) => do
      let last ← tables.getLast?
      let inner ← within made act rest .header last
      return insert name (.rows (tables.dropLast ++ [inner])) fields

/-- A table with one more entry. Where a dotted key leads to it, dotted keys must have made it. -/
def addEntry (dotted : Bool) (name : String) (value : Value) (origin : Origin) (fields : Fields) :
    Option Fields :=
  if dotted != (origin = .dottedKey : Bool) then none
  else if (find? name fields).isSome then none
  else some (insert name (.leaf value) fields)

/-- Fields with an entry under a key. -/
def addKey (origin : Origin) (path : List String) (value : Value) (fields : Fields) :
    Option Fields :=
  match path.getLast? with
  | none => none
  | some name =>
    within .dottedKey (addEntry (1 < path.length) name value) path.dropLast origin fields

/-- A table under which the header of a table stands. -/
def openTable (name : String) (fields : Fields) : Option Fields :=
  match find? name fields with
  | none => some (insert name (.table .header []) fields)
  | some (.table .passedThrough inner) => some (insert name (.table .header inner) fields)
  | some _ => none

/-- A table under which the header of a row stands. -/
def openRow (name : String) (fields : Fields) : Option Fields :=
  match find? name fields with
  | none => some (insert name (.rows [[]]) fields)
  | some (.rows tables) => some (insert name (.rows (tables ++ [[]])) fields)
  | some _ => none

end Fields

/-! ### Values -/

/-- A list, given how to read its items. -/
def listOf (item : Scan Value) : Scan Value := do
  Scan.expect '['
  gap
  let spaced : Scan Value := do let value ← item; gap; return value
  let items ← Scan.maybe (Scan.separated spaced (do Scan.expect ','; gap))
  if items.isSome then
    let _ ← Scan.maybe (do Scan.expect ','; gap)
  Scan.expect ']'
  return .list (items.getD [])

/-- A key, an equals sign and a value. -/
def entryOf (item : Scan Value) : Scan (List String × Value) := do
  let path ← key
  Scan.expect '='
  white
  return (path, ← item)

/-- A table on one line, given how to read its values. -/
def inlineTableOf (item : Scan Value) : Scan Value := do
  Scan.expect '\x7b'
  white
  let entry : Scan (List String × Value) := do let pair ← entryOf item; white; return pair
  let entries ← Scan.maybe (Scan.separated entry (Scan.expect ','))
  Scan.expect '\x7d'
  let fields : Option Fields := (entries.getD []).foldlM
    (fun fields (entry : List String × Value) =>
      Fields.addKey .header entry.1 entry.2 fields) ([] : Fields)
  match fields with
  | some fields => return Value.ofFields (Node.toFields fields)
  | none => failure

/-- A truth value. -/
def truth : Scan Value :=
  (do Scan.literal "true"; return .flag true) <|> (do Scan.literal "false"; return .flag false)

/-- A value, with lists and tables nested to a depth. -/
def value : (depth : Nat) → Scan Value
  | 0 => (Value.text <$> string) <|> truth <|> number
  | depth + 1 =>
    (Value.text <$> string) <|> truth <|> number <|> listOf (value depth)
      <|> inlineTableOf (value depth)

/-- How deep values may be nested. -/
def deepest : Nat := 79

/-! ### Statements -/

/-- A statement of a document. -/
inductive Statement where
  | table (path : List String)
  | row (path : List String)
  | entry (path : List String) (value : Value)
  | blank

/-- A statement without the end of its line. -/
def statement : Scan Statement :=
  (do
    Scan.literal "[["
    let path ← key
    Scan.literal "]]"
    return .row path)
  <|> (do
    Scan.expect '['
    let path ← key
    Scan.expect ']'
    return .table path)
  <|> (do
    let (path, value) ← entryOf (value deepest)
    return .entry path value)
  <|> pure .blank

/-- A line of a document. -/
def line : Scan Statement := do
  white
  let read ← statement
  white
  let _ ← Scan.maybe comment
  return read

/-- All lines of a document. A mark of the byte order in front of them does not count. -/
def document : Scan (List Statement) := do
  let _ ← Scan.maybe (Scan.expect '\ufeff')
  Scan.separated line newline

/-- A document so far, and the path of the table to which entries belong. -/
structure Draft where
  fields : Fields
  current : List String

namespace Draft

/-- A document with one more statement, unless it defines something twice. -/
def add (draft : Draft) : Statement → Option Draft
  | .blank => some draft
  | .table path => do
    let name ← path.getLast?
    let fields ← Fields.within .passedThrough (fun _ => Fields.openTable name)
      path.dropLast .header draft.fields
    return { fields, current := path }
  | .row path => do
    let name ← path.getLast?
    let fields ← Fields.within .passedThrough (fun _ => Fields.openRow name)
      path.dropLast .header draft.fields
    return { fields, current := path }
  | .entry path value => do
    let fields ← Fields.within .passedThrough
      (fun origin => Fields.addKey origin path value) draft.current .header draft.fields
    return { draft with fields }

end Draft

/-- The table that a text spells. -/
def parse? (text : String) : Option Value := do
  let statements ← Scan.whole? document text.toList
  let draft ← statements.foldlM Draft.add { fields := [], current := [] }
  return Value.ofFields (Node.toFields draft.fields)

end Switchboard.Toml
