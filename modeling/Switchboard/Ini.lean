/-
**INI files.**

A section is a name in brackets, and the properties below it belong to it. A property is a key, an
equals sign or a colon, and a value; all values are texts. Properties in front of the first section
belong to no section. Names are kept as they are written.

A section takes the place of everything that was there under its name, and a later property that of
an earlier one of the same key. A comment has a line to itself and begins at the very start of it.

* `gapFrom?`: what lies behind white space and comments;
* `value`: a value, in quotes as a whole or in its first pieces, or without any;
* `parse?`: the entries of a file.
-/

import Switchboard.Config.Value
import Switchboard.Text.Blank
import Switchboard.Text.Scan

namespace Switchboard.Ini

open Text Config

/-! ### Between statements -/

/-- Where between two statements a character stands. -/
inductive Gap where
  | lineStart
  | withinLine
  | inComment
  deriving DecidableEq, Repr

/-- What remains behind white space and comments. There is nothing valid behind a comment that does
not start its line. -/
def gapFrom? : Gap → List Char → Option (List Char)
  | _, [] => some []
  | .inComment, c :: rest => gapFrom? (if c == '\n' then .lineStart else .inComment) rest
  | gap, c :: rest =>
    if isBlank c then gapFrom? (if c == '\n' then .lineStart else .withinLine) rest
    else if c == ';' || c == '#' then
      if gap = .lineStart then gapFrom? .inComment rest else none
    else some (c :: rest)

/-- White space and comments. -/
def gap (place : Gap) : Scan Unit := do
  match gapFrom? place (← get) with
  | some rest => set rest
  | none => failure

/-! ### Texts -/

/-- Four characters that spell a code point in hexadecimal digits. The first may be a plus. -/
def codePoint : Scan Char := do
  let written ← Scan.exactly (fun _ => true) 4
  let digits := if written.head? = some '+' then written.tail else written
  let n := ofDigits 16 digits
  if digits.all (isDigitIn 16) = true ∧ n.isValidChar then return Char.ofNat n else failure

/-- What a backslash and the next character stand for. The end of a line is taken away. -/
def escape : Scan (Option Char) := do
  Scan.expect '\\'
  match ← Scan.take fun _ => true with
  | '0' => return some '\x00'
  | 'a' => return some '\x07'
  | 'b' => return some '\x08'
  | 't' => return some '\t'
  | 'r' => return some '\r'
  | 'n' => return some '\n'
  | '\n' => return none
  | 'x' => some <$> codePoint
  | c => return some c

/-- Characters up to the first with a property. An escape that cannot be read stops them, too. -/
def textUntil (ends : Char → Bool) : Scan (List Char) := do
  let chars ← Scan.many ((some <$> Scan.take fun c => !ends c && c != '\\') <|> escape)
  return chars.filterMap id

/-- A quotation mark. -/
def isQuote (c : Char) : Bool := c == '"' || c == '\''

/-- An end of a line. -/
def isLineEnd (c : Char) : Bool := c == '\n' || c == '\r'

/-- A piece of a value between quotes. It may go on over several lines. -/
def quotedPiece : Scan (List Char) := do
  let quote ← Scan.take isQuote
  let chars ← textUntil (· == quote)
  Scan.expect quote
  return chars

/-- A value: pieces between quotes, and what follows them up to the end of the line. Blanks at the end
do not count, and those in front only behind a quote. -/
def value : Scan String := do
  let _ ← Scan.span fun c => isBlank c && !isLineEnd c
  let pieces ← Scan.many quotedPiece
  match ← Scan.peek? with
  | some c =>
    if isQuote c then failure
    else
      let others ← textUntil isLineEnd
      let shown := if pieces.isEmpty then trimChars others else dropTrailing isBlank others
      return String.ofList (pieces.flatten ++ shown)
  | none => return String.ofList pieces.flatten

/-! ### Statements -/

/-- A statement of a file. -/
inductive Statement where
  | opened (name : String)
  | property (key value : String)

/-- The name of a section in brackets. -/
def sectionName : Scan Statement := do
  Scan.expect '['
  let name ← textUntil (· == ']')
  Scan.expect ']'
  return .opened (String.ofList (trimChars name))

/-- What stands between a key and its value. -/
def isAssignment (c : Char) : Bool := c == '=' || c == ':'

/-- A key and its value. -/
def property : Scan Statement := do
  let key := trimChars (← textUntil isAssignment)
  let _ ← Scan.take isAssignment
  if key.isEmpty then failure else return .property (String.ofList key) (← value)

/-- A statement, and the gap behind it. -/
def statement : Scan Statement := do
  let read ← if (← Scan.peek?) = some '[' then sectionName else property
  gap .withinLine
  return read

/-- What has been read of a file: the section at hand, and the entries. -/
structure Reading where
  opened : Option String
  entries : List (String × Value)

namespace Reading

/-- What has been read after one more statement. -/
def add (reading : Reading) : Statement → Reading
  | .opened name =>
    { opened := some name, entries := Value.insert name (.table []) reading.entries }
  | .property key text =>
    let entries :=
      match reading.opened with
      | none => Value.insert key (.text text) reading.entries
      | some name =>
        let properties := ((Value.find? name reading.entries).getD .nothing).fields
        Value.insert name (.table (Value.insert key (.text text) properties)) reading.entries
    { reading with entries }

end Reading

/-- The entries that the text of a file spells. -/
def parse? (text : String) : Option (List (String × Value)) := do
  let statements ← Scan.whole? (do gap .lineStart; Scan.many statement) text.toList
  return (statements.foldl Reading.add { opened := none, entries := [] }).entries

end Switchboard.Ini
