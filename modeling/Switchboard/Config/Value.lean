/-
**Values in configuration files.**

Whatever the format of a file, it holds a table of values. Tables from several sources are laid over
one another: what comes later fills in tables and replaces everything else. A name loses its capitals
when it is laid down, so that the case in which it is written makes no difference; the names in a
list are not laid down one by one and stay as they are.

* `Value.table`, `ofFields`: tables, with the later of two values under one name;
* `overlay`: what stands in a place after a later value is laid over it.
-/

import Switchboard.Number.Binary64

namespace Switchboard.Config

/-- A value in a configuration. -/
inductive Value where
  | nothing
  | flag (value : Bool)
  | int (value : Int)
  | float (value : Binary64)
  | text (value : String)
  | list (items : List Value)
  | table (fields : List (String × Value))
  deriving Repr, Inhabited

/-- The small form of a letter, where it is an ASCII letter. Of all other characters only the sign
for kelvin has an ASCII small form. -/
def smallLetter (c : Char) : Char :=
  if c == '\u212a' then 'k' else c.toLower

/-- A text with small letters. -/
def small (text : String) : String := text.map smallLetter

namespace Value

/-- The value under a name. -/
def find? (name : String) : List (String × Value) → Option Value
  | [] => none
  | (other, value) :: rest => if other = name then some value else find? name rest

/-- The fields with a value under a name, in the place of any that was there. -/
def insert (name : String) (value : Value) : List (String × Value) → List (String × Value)
  | [] => [(name, value)]
  | (other, old) :: rest =>
    if other = name then (name, value) :: rest else (other, old) :: insert name value rest

/-- A table of fields. -/
def ofFields (fields : List (String × Value)) : Value :=
  .table (fields.foldl (fun table field => insert field.1 field.2 table) [])

/-- The fields of a table; what is no table has none. -/
def fields : Value → List (String × Value)
  | .table fields => fields
  | _ => []

mutual

/-- What stands in a place after a value is laid over it. -/
def overlay (existing : Option Value) : Value → Value
  | .table fields => overlayAll (existing.getD (.table [])) fields
  | value => value

/-- A value after fields are laid over it, under names without capitals. -/
def overlayAll (target : Value) : List (String × Value) → Value
  | [] => target
  | (name, value) :: rest =>
    let place := overlay (find? (small name) target.fields) value
    overlayAll (.table (insert (small name) place target.fields)) rest

end

end Value

end Switchboard.Config
