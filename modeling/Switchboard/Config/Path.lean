/-
**Paths: where in a configuration a value belongs.**

The names at the top of a source, and the names of environment variables, may lead into tables and
lists: `channels[0].host`. A name that is not spelled like a path stands for itself.

* `Path.ofText?`: the path that a text spells;
* `Path.place`: a configuration with a value at a path, whatever stood in the way;
* `layName`, `laySource`: a value, or a whole source, laid over a configuration.
-/

import Switchboard.Config.Value
import Switchboard.Number.Word
import Switchboard.Text.Scan

namespace Switchboard.Config

open Text

/-- One step into a value. -/
inductive PathStep where
  | field (name : String)
  /-- A place in a list, counted from the end where it is negative. -/
  | item (index : Int)
  deriving DecidableEq, Repr

/-- A name at the top, and the steps from there. -/
structure Path where
  top : String
  steps : List PathStep
  deriving DecidableEq, Repr

namespace Path

/-- Characters in the names of a path. -/
def isNameChar (c : Char) : Bool :=
  c.isAlphanum || c == ' ' || c == '_' || c == '-'

/-- A name in a path. -/
def name : Scan String := do
  return String.ofList (← Scan.span1 isNameChar)

/-- Blanks that may stand around an index. -/
def isIndexBlank (c : Char) : Bool := c == ' ' || c == '\t'

/-- The place in a list, in brackets. -/
def index : Scan PathStep := do
  Scan.expect '['
  let _ ← Scan.span isIndexBlank
  let sign ← Scan.maybe (Scan.expect '-')
  let digits ← Scan.span1 Char.isDigit
  let _ ← Scan.span isIndexBlank
  Scan.expect ']'
  let count : Int := ofDigits 10 digits
  if count < wordCount 63 then return .item (if sign.isSome then -count else count) else failure

/-- A step to a field, behind a dot. -/
def field : Scan PathStep := do
  Scan.expect '.'
  return .field (← name)

/-- A path. -/
def path : Scan Path := do
  let top ← name
  return { top, steps := ← Scan.many (field <|> index) }

/-- The path that a text spells. -/
def ofText? (text : String) : Option Path := Scan.whole? path text.toList

/-- The items of a list; what is no list has none. -/
def itemsOf : Value → List Value
  | .list items => items
  | _ => []

/-- The place that an index means in a list of the given length. One before the first item means
the first. -/
def position (index : Int) (length : Nat) : Nat :=
  if 0 ≤ index then index.toNat else length - index.natAbs

/-- A list that is long enough to have an item at a place. -/
def extended (items : List Value) (place : Nat) : List Value :=
  items ++ List.replicate (place + 1 - items.length) .nothing

/-- A name on a path, given the steps behind it. The name at the end is laid down and loses its
capitals; a name on the way is the one that is spelled. -/
def nameBefore (name : String) (rest : List PathStep) : String :=
  if rest.isEmpty then small name else name

/-- A value in which another one stands behind some steps. Tables and lists that are missing on the
way are made, and other values on the way give way to them. -/
def place (value : Value) : List PathStep → Option Value → Value
  | [], existing => Value.overlay existing value
  | [.item index], existing =>
    let items := itemsOf (existing.getD .nothing)
    let slot := position index items.length
    .list ((extended items slot).set slot value)
  | .field name :: rest, existing =>
    let fields := (existing.getD .nothing).fields
    let key := nameBefore name rest
    .table (Value.insert key (place value rest (Value.find? key fields)) fields)
  | .item index :: rest, existing =>
    let items := itemsOf (existing.getD .nothing)
    let slot := position index items.length
    let long := extended items slot
    .list (long.set slot (place value rest long[slot]?))

end Path

/-- A configuration with a value laid over what stands at a place, which a text spells. -/
def layName (config : List (String × Value)) (entry : String × Value) : List (String × Value) :=
  let path := (Path.ofText? entry.1).getD { top := entry.1, steps := [] }
  let top := Path.nameBefore path.top path.steps
  Value.insert top (Path.place entry.2 path.steps (Value.find? top config)) config

/-- A configuration with all entries of a source laid over it, one after the other. -/
def laySource (config source : List (String × Value)) : List (String × Value) :=
  source.foldl layName config

end Switchboard.Config
