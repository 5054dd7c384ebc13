/-
**JSON5 texts.**

JSON with the comforts of a hand-written file: comments, names without quotes, single quotes, commas
behind the last item, and more ways to write a number.

A number without a point and an exponent is an integer of 64 bits with a sign. One in hexadecimal
digits has at most 32 bits and no sign. Every other number has to be finite, unless its name says that
it is not. A field that occurs twice has the later value.

* `gap`: white space and comments;
* `text`, `name`: texts in quotes, and names without;
* `number`: numbers;
* `parse?`: the value of a text.
-/

import Switchboard.Config.Value
import Switchboard.Json.Parser
import Switchboard.Text.Blank
import Switchboard.Text.Letter

namespace Switchboard.Json5

open Text Config

/-! ### Between tokens -/

/-- White space. The mark of the byte order is white space, and the control character for a next line
is not. -/
def isSpace (c : Char) : Bool := (isBlank c && c != '\x85') || c == '\ufeff'

/-- An end of a line. -/
def isLineEnd (c : Char) : Bool := c == '\n' || c == '\r' || c == '\u2028' || c == '\u2029'

/-- A comment up to the end of its line. -/
def lineComment : Scan Unit := do
  Scan.literal "//"
  let _ ← Scan.span (!isLineEnd ·)

/-- A character of a comment that has an end of its own. -/
def enclosed : Scan Char := do
  if ['*', '/'].isPrefixOf (← get) then failure else Scan.take fun _ => true

/-- A comment with an end of its own. -/
def blockComment : Scan Unit := do
  Scan.literal "/*"
  let _ ← Scan.many enclosed
  Scan.literal "*/"

/-- White space of at least one character. -/
def space : Scan Unit := do
  let _ ← Scan.span1 isSpace

/-- White space and comments. -/
def gap : Scan Unit := do
  let _ ← Scan.many (space <|> lineComment <|> blockComment)

/-- A token, and the gap behind it. -/
def token {α : Type} (item : Scan α) : Scan α := do
  let value ← item
  gap
  return value

/-! ### Texts and names -/

/-- What a backslash and the next characters stand for. The end of a line is taken away. -/
def escape : Scan (Option Char) := do
  Scan.expect '\\'
  match ← Scan.take fun _ => true with
  | 'b' => return some '\x08'
  | 'f' => return some '\x0c'
  | 'n' => return some '\n'
  | 'r' => return some '\r'
  | 't' => return some '\t'
  | 'v' => return some '\x0b'
  | 'x' => do return some (Char.ofNat (ofDigits 16 (← Scan.exactly (isDigitIn 16) 2)))
  | 'u' => some <$> Json.codePoint
  | '\x0d' => do
    let _ ← Scan.maybe (Scan.expect '\n')
    return none
  | '0' => do
    match ← Scan.peek? with
    | some c => if c.isDigit then failure else return some '\x00'
    | none => return some '\x00'
  | c => if c.isDigit then failure else return if isLineEnd c then none else some c

/-- A text in quotes of either kind. -/
def text : Scan String := do
  let quote ← Scan.take fun c => c == '"' || c == '\''
  let plain := Scan.take fun c => c != quote && c != '\\' && !isLineEnd c
  let chars ← Scan.many ((some <$> plain) <|> escape)
  Scan.expect quote
  return String.ofList (chars.filterMap id)

/-- A character with which a name begins. -/
def nameStart : Scan Char :=
  Scan.take (fun c => startsName c || c == '$' || c == '_')
    <|> (do Scan.literal "\\u"; Json.codePoint)

/-- A character with which a name goes on. -/
def namePart : Scan Char :=
  nameStart <|> Scan.take fun c => continuesName c || c == '\u200c' || c == '\u200d'

/-- A name without quotes. -/
def name : Scan String := do
  let first ← nameStart
  return String.ofList (first :: (← Scan.many namePart))

/-! ### Numbers -/

/-- An integer in hexadecimal digits. -/
def hexadecimal : Scan Value := do
  Scan.literal "0x" <|> Scan.literal "0X"
  let n := ofDigits 16 (← Scan.span1 (isDigitIn 16))
  if n < wordCount 32 then return .int n else failure

/-- A number in decimal digits, with a minus or without. Digits may be missing on one side of the
point. -/
def decimal (negative : Bool) : Scan Value := do
  let whole ← Scan.maybe Json.plainDigits
  let decimals ← Scan.maybe (do Scan.expect '.'; Scan.span Char.isDigit)
  let digits := whole.getD [] ++ decimals.getD []
  if digits.isEmpty then failure
  else
    let power ← Scan.maybe Json.exponent
    if decimals.isNone && power.isNone then
      let n : Int := ofDigits 10 digits
      let signed := if negative then -n else n
      if isInt64 signed then return .int signed else failure
    else
      let places : Int := (decimals.getD []).length
      match Binary64.ofDecimal negative (ofDigits 10 digits) (power.getD 0 - places) with
      | .finite negative significand exponent => return .float (.finite negative significand exponent)
      | _ => failure

/-- A number by its name. -/
def namedNumber (negative : Bool) : Scan Value :=
  (do Scan.literal "Infinity"; return .float (.infinite negative))
    <|> (do Scan.literal "NaN"; return .float .nan)

/-- A number. A plus stands in front of decimal digits only, and no sign in front of hexadecimal
ones. -/
def number : Scan Value := do
  match ← Scan.maybe (Scan.take fun c => c == '+' || c == '-') with
  | none => hexadecimal <|> decimal false <|> namedNumber false
  | some '-' => decimal true <|> namedNumber true
  | some _ => decimal false

/-! ### Values -/

/-- Items between two brackets, with commas between them, and perhaps one behind the last. -/
def bracketed {α : Type} (first last : Char) (item : Scan α) : Scan (List α) := do
  token (Scan.expect first)
  let items ← Scan.maybe (do
    let items ← Scan.separated item (token (Scan.expect ','))
    let _ ← Scan.maybe (token (Scan.expect ','))
    return items)
  token (Scan.expect last)
  return items.getD []

/-- A field, given how to read its value. -/
def field (item : Scan Value) : Scan (String × Value) := do
  let key ← token (name <|> text)
  token (Scan.expect ':')
  return (key, ← item)

/-- A value without parts. -/
def scalar : Scan Value :=
  token ((do Scan.literal "null"; return .nothing)
    <|> (do Scan.literal "true"; return .flag true)
    <|> (do Scan.literal "false"; return .flag false)
    <|> (Value.text <$> text) <|> number)

/-- A value, with lists and tables nested to a depth. -/
def value : (depth : Nat) → Scan Value
  | 0 => scalar
  | depth + 1 =>
    scalar <|> (Value.list <$> bracketed '[' ']' (value depth))
      <|> (Value.ofFields <$> bracketed '\x7b' '\x7d' (field (value depth)))

/-- The value of a text. It is nested no deeper than it is long. -/
def parse? (source : String) : Option Value :=
  Scan.whole? (do gap; value source.length) source.toList

end Switchboard.Json5
