/-
**RON texts.**

Records with names for their fields, lists and maps, with comments between them. A word in front of
parentheses names a kind of record and does not count; a word alone says nothing at all. The attributes
that a text may begin with allow short forms.

An integer has 64 bits, with a sign if one is written; what does not fit is a floating point number. Where
a name occurs twice, the later value counts, and of two keys that differ only in being a character and
a text, the text.

* `gap`: white space and comments, which may be nested;
* `number`, `text`, `character`: the values without parts;
* `value`: a value, with a budget for what is nested in it;
* `parse?`: the entries of a text.
-/

import Switchboard.Config.Value
import Switchboard.Number.Spelling

namespace Switchboard.Ron

open Text Config

/-! ### Between tokens -/

/-- What remains behind a comment, given how many ends are still missing. -/
def behindComment? : (depth : Nat) → List Char → Option (List Char)
  | 0, rest => some rest
  | depth + 1, '/' :: '*' :: rest => behindComment? (depth + 2) rest
  | depth + 1, '*' :: '/' :: rest => behindComment? depth rest
  | depth + 1, _ :: rest => behindComment? (depth + 1) rest
  | _ + 1, [] => none

/-- A comment: up to the end of its line, or between a start and an end. -/
def comment : Scan Unit := do
  Scan.expect '/'
  if (← Scan.take fun c => c == '/' || c == '*') == '/' then
    let _ ← Scan.span (· != '\n')
  else
    match behindComment? 1 (← get) with
    | some rest => set rest
    | none => failure

/-- White space of at least one character. -/
def space : Scan Unit := do
  let _ ← Scan.span1 fun c => c == ' ' || c == '\t' || c == '\n' || c == '\r'

/-- White space and comments. -/
def gap : Scan Unit := do
  let _ ← Scan.many (space <|> comment)

/-- A token, and the gap behind it. -/
def token {α : Type} (item : Scan α) : Scan α := do
  let value ← item
  gap
  return value

/-! ### Words -/

/-- A character of a word. -/
def isWordPart (c : Char) : Bool := c.isAlphanum || c == '_'

/-- A character of a word that is marked as one. -/
def isMarkedPart (c : Char) : Bool := isWordPart c || c == '.' || c == '+' || c == '-'

/-- A word that is marked as one. -/
def markedWord : Scan String := do
  Scan.literal "r#"
  return String.ofList (← Scan.span1 isMarkedPart)

/-- A word without a mark. Nothing may stand behind it with which a marked one would go on. -/
def plainWord : Scan String := do
  let first ← Scan.take fun c => c.isAlpha || c == '_'
  let others ← Scan.span isWordPart
  match ← Scan.peek? with
  | some c =>
    if isMarkedPart c || ([first] == ['r'] && others.isEmpty && c == '"') then failure
    else return String.ofList (first :: others)
  | none => return String.ofList (first :: others)

/-- A word. -/
def word : Scan String := do
  if ['r', '#'].isPrefixOf (← get) then markedWord else plainWord

/-- A given word, which ends where it does. -/
def keyword (known : String) : Scan Unit := do
  Scan.literal known
  match ← Scan.peek? with
  | some c => if isWordPart c then failure else pure ()
  | none => pure ()

/-! ### Numbers -/

/-- The base of an integer, as its mark says. -/
def base : Scan Nat :=
  (do Scan.literal "0x"; return 16) <|> (do Scan.literal "0b"; return 2)
    <|> (do Scan.literal "0o"; return 8) <|> pure 10

/-- A character of an integer in any base. -/
def isIntegerPart (c : Char) : Bool := isDigitIn 16 c || c == '_'

/-- A character of a number with a point or an exponent. -/
def isFloatPart (c : Char) : Bool :=
  c.isDigit || c == 'e' || c == 'E' || c == '.' || c == '+' || c == '-' || c == '_'

/-- An integer of 64 bits, with a sign or without. Underscores between digits do not count. -/
def integer : Scan Int := do
  let sign ← Scan.maybe (Scan.take fun c => c == '+' || c == '-')
  let base ← base
  let written ← Scan.span1 isIntegerPart
  let digits := written.filter (· != '_')
  if written.head? = some '_' || !digits.all (isDigitIn base) then failure
  else
    let n : Int := ofDigits base digits
    let signed := if sign = some '-' then -n else n
    let fits := if sign.isSome then isInt64 signed else n ≤ greatestWord64
    if fits then return signed else failure

/-- A number by its name, with a sign. -/
def namedFloat : Scan Binary64 :=
  (do keyword "+inf"; return .infinite false) <|> (do keyword "-inf"; return .infinite true)
    <|> (do keyword "+NaN"; return .nan) <|> (do keyword "-NaN"; return .nan)

/-- A floating point number. -/
def float : Scan Binary64 := do
  match ← Scan.maybe namedFloat with
  | some x => return x
  | none =>
    match Scan.whole? pointedNumber (← Scan.span1 isFloatPart) with
    | some x => return x
    | none => failure

/-- Whether what comes next reaches farther as a floating point number than as an integer. -/
def isFloatNext (rest : List Char) : Bool :=
  let unsigned := match rest with
    | c :: behind => if c == '+' || c == '-' then behind else rest
    | [] => []
  (unsigned.takeWhile isIntegerPart).length < (unsigned.takeWhile isFloatPart).length

/-- A number. An integer that does not fit into 64 bits with a sign is a floating point number. -/
def number : Scan Value := do
  let integral : Scan Value := do
    let n ← integer
    return if isInt64 n then .int n else .float (Binary64.ofNat n.toNat)
  if isFloatNext (← get) then Value.float <$> float else integral <|> Value.float <$> float

/-! ### Texts -/

/-- A code point of one to six hexadecimal digits in braces. -/
def codePoint : Scan Char := do
  Scan.expect '\x7b'
  let digits ← Scan.span1 (isDigitIn 16)
  Scan.expect '\x7d'
  let n := ofDigits 16 digits
  if digits.length ≤ 6 ∧ n.isValidChar then return Char.ofNat n else failure

/-- What a backslash and the next characters stand for. -/
def escape : Scan Char := do
  Scan.expect '\\'
  match ← Scan.take fun _ => true with
  | '\'' => return '\''
  | '"' => return '"'
  | '\\' => return '\\'
  | 'n' => return '\n'
  | 'r' => return '\r'
  | 't' => return '\t'
  | '0' => return '\x00'
  | 'x' => do return Char.ofNat (ofDigits 16 (← Scan.exactly (isDigitIn 16) 2))
  | 'u' => codePoint
  | _ => failure

/-- A text in which a backslash has a meaning. -/
def escapedText : Scan String := do
  Scan.expect '"'
  let chars ← Scan.many (Scan.take (fun c => c != '"' && c != '\\') <|> escape)
  Scan.expect '"'
  return String.ofList chars

/-- A text as it is, between quotes with equally many number signs. -/
def verbatimText : Scan String := do
  Scan.expect 'r'
  let signs ← Scan.span (· == '#')
  Scan.expect '"'
  let last := '"' :: signs
  let inner : Scan Char := do
    if last.isPrefixOf (← get) then failure else Scan.take fun _ => true
  let chars ← Scan.many inner
  Scan.literal (String.ofList last)
  return String.ofList chars

/-- A text. -/
def text : Scan String := escapedText <|> verbatimText

/-- A single character between single quotes. -/
def character : Scan Char := do
  Scan.expect '\''
  let c ← Scan.take (fun c => c != '\'' && c != '\\') <|> escape
  Scan.expect '\''
  return c

/-! ### Values -/

/-- Items up to a closing bracket, with commas between them, and perhaps one behind the last. -/
def itemsUpTo {α : Type} (last : Char) (item : Scan α) : Scan (List α) := do
  let items ← Scan.maybe (do
    let items ← Scan.separated (token item) (token (Scan.expect ','))
    let _ ← Scan.maybe (token (Scan.expect ','))
    return items)
  Scan.expect last
  return items.getD []

/-- A field of a record, given how to read its value. -/
def field (item : Scan Value) : Scan (String × Value) := do
  let name ← token word
  token (Scan.expect ':')
  return (name, ← item)

/-- What a key of a map is: a character or a text. No other value can be one. -/
inductive Key where
  | ofChar (c : Char)
  | ofText (text : String)

/-- The name that a key spells. -/
def Key.name : Key → String
  | .ofChar c => String.singleton c
  | .ofText text => text

/-- Whether a key is a character. -/
def Key.isChar : Key → Bool
  | .ofChar _ => true
  | .ofText _ => false

/-- An entry of a map, given how to read its value. -/
def entry (item : Scan Value) : Scan (Key × Value) := do
  let key ← token ((Key.ofChar <$> character) <|> (Key.ofText <$> text))
  token (Scan.expect ':')
  return (key, ← item)

/-- A table of the entries of a map. -/
def ofEntries (entries : List (Key × Value)) : Value :=
  let (chars, texts) := entries.partition (·.1.isChar)
  Value.ofFields ((chars ++ texts).map fun entry => (entry.1.name, entry.2))

/-- Whether a record with names for its fields comes next. -/
def isNamedNext (rest : List Char) : Bool :=
  ((do token (Scan.expect '('); let _ ← token word; Scan.expect ':' : Scan Unit).run rest).isSome

/-- A record, given how to read its items: a table where its fields have names, or else a list. -/
def record (item : Scan Value) : Scan Value := do
  let named := isNamedNext (← get)
  token (Scan.expect '(')
  if named then Value.ofFields <$> itemsUpTo ')' (field item)
  else Value.list <$> itemsUpTo ')' item

/-- What stands behind the word for a value that is there: that value in parentheses, or without
them where the text may leave them out. -/
def present (implicit : Bool) (item : Scan Value) : Scan Value := do
  gap
  if (← Scan.peek?) = some '(' then
    token (Scan.expect '(')
    let value ← token item
    let _ ← Scan.maybe (token (Scan.expect ','))
    Scan.expect ')'
    return value
  else if implicit then item
  else failure

/-- What stands behind the name of a kind of record: a record of that kind, or nothing. -/
def named (item : Scan Value) : Scan Value := do
  let before ← get
  gap
  if (← Scan.peek?) = some '(' then record item
  else
    set before
    return .nothing

/-- A value that begins with a word. What is there is read by the first reader, and what lies in a
record by the second. -/
def worded (implicit : Bool) (inner item : Scan Value) : Scan Value := do
  let keywords : Scan (Option Value) :=
    (do keyword "true"; return some (.flag true))
      <|> (do keyword "false"; return some (.flag false))
      <|> (do keyword "None"; return some .nothing)
      <|> (do keyword "inf"; return some (.float (.infinite false)))
      <|> (do keyword "NaN"; return some (.float .nan))
      <|> (do keyword "Some"; return none)
  match ← Scan.maybe keywords with
  | some (some value) => return value
  | some none => present implicit inner
  | none =>
    match ← Scan.maybe word with
    | some _ => named item
    | none => Value.text <$> verbatimText

/-- A value, given how to read one that is there and one that lies in a list, a map or a record. -/
def compound (implicit : Bool) (inner item : Scan Value) : Scan Value := do
  match ← Scan.peek? with
  | some '(' => (do Scan.literal "()"; return .nothing) <|> record item
  | some '[' => do
    token (Scan.expect '[')
    Value.list <$> itemsUpTo ']' item
  | some '\x7b' => do
    token (Scan.expect '\x7b')
    ofEntries <$> itemsUpTo '\x7d' (entry item)
  | some '"' => Value.text <$> escapedText
  | some '\'' => (fun c => Value.text (String.singleton c)) <$> character
  | some c => if c.isAlpha || c == '_' then worded implicit inner item else number
  | none => failure

/-- A value without parts. -/
def simple : Scan Value := do
  match ← Scan.peek? with
  | some c =>
    if c == '[' || c == '\x7b' then failure
    else if c == '(' then do Scan.literal "()"; return .nothing
    else
      let value ← compound false failure failure
      match value with
      | .list _ | .table _ => failure
      | value => return value
  | none => failure

/-- A value within a budget. A value that is there takes one of it; a list, a map or a record takes
one, and each value in it another one. -/
def value (implicit : Bool) : (budget : Nat) → Scan Value
  | 0 => simple
  | 1 => compound implicit simple failure
  | budget + 2 => compound implicit (value implicit (budget + 1)) (value implicit budget)

/-- What may be nested in a text. -/
def wholeBudget : Nat := 128

/-! ### Attributes -/

/-- The attribute by which the word for a value that is there may be left out. -/
def implicitName : String := "implicit_some"

/-- The names of all attributes. -/
def attributeNames : List String := [implicitName, "unwrap_newtypes", "unwrap_variant_newtypes"]

/-- The attributes of one line. -/
def attributes : Scan (List String) := do
  ["#", "!", "[", "enable", "("].forM fun part => token (Scan.literal part)
  let name : Scan String := do
    let name ← word
    if name ∈ attributeNames then return name else failure
  let names ← Scan.separated (token name) (token (Scan.expect ','))
  let _ ← Scan.maybe (token (Scan.expect ','))
  token (Scan.expect ')')
  token (Scan.expect ']')
  return names

/-- The value of a text, behind its attributes. -/
def document : Scan Value := do
  gap
  let names ← Scan.many attributes
  token (value (names.flatten.contains implicitName) wholeBudget)

/-- The entries of a text. The text as a whole has to be a table. -/
def parse? (source : String) : Option (List (String × Value)) := do
  match ← Scan.whole? document source.toList with
  | .table fields => return fields
  | _ => failure

end Switchboard.Ron
