/-
**JSON texts.**

A number without a point and an exponent is exact if it fits into 64 bits, with or without a sign.
Every other number is computed from its first digits, as many as fit into 64 bits, by one product or
quotient with a power of ten, so that it is near to what is written but not always nearest. A number
beyond the greatest is refused. A field that occurs twice has the later value.

* `Leading`: the first digits of a number;
* `scaled?`: a number times a power of ten;
* `number`, `value`, `parse?`: numbers, values and whole texts.
-/

import Switchboard.Json
import Switchboard.Number.Word
import Switchboard.Text.Scan

namespace Switchboard.Json

open Text

/-- White space between tokens. -/
def blanks : Scan Unit := do
  let _ ← Scan.span fun c => c == ' ' || c == '\t' || c == '\n' || c == '\r'

/-- A token, and the white space behind it. -/
def token {α : Type} (item : Scan α) : Scan α := do
  let value ← item
  blanks
  return value

/-- Four hexadecimal digits. -/
def unit : Scan Nat := do
  return ofDigits 16 (← Scan.exactly (isDigitIn 16) 4)

/-- The character of an escape by code point. One beyond the first 65536 takes two of them. -/
def codePoint : Scan Char := do
  let high ← unit
  if 0xD800 ≤ high ∧ high < 0xDC00 then
    Scan.literal "\\u"
    let low ← unit
    if 0xDC00 ≤ low ∧ low < 0xE000 then
      return Char.ofNat (0x10000 + (high - 0xD800) * 0x400 + (low - 0xDC00))
    else failure
  else if high.isValidChar then return Char.ofNat high
  else failure

/-- An escape. -/
def escape : Scan Char := do
  Scan.expect '\\'
  match ← Scan.take fun _ => true with
  | '"' => return '"'
  | '\\' => return '\\'
  | '/' => return '/'
  | 'b' => return '\x08'
  | 'f' => return '\x0c'
  | 'n' => return '\n'
  | 'r' => return '\r'
  | 't' => return '\t'
  | 'u' => codePoint
  | _ => failure

/-- A text. -/
def text : Scan String := do
  Scan.expect '"'
  let chars ← Scan.many (Scan.take (fun c => ' ' ≤ c && c != '"' && c != '\\') <|> escape)
  Scan.expect '"'
  return String.ofList chars

/-- Decimal digits without a zero in front. -/
def plainDigits : Scan (List Char) := do
  match ← Scan.peek? with
  | some '0' => List.singleton <$> Scan.take (· == '0')
  | _ => Scan.span1 Char.isDigit

/-- The exponent of a number. -/
def exponent : Scan Int := do
  let _ ← Scan.take fun c => c == 'e' || c == 'E'
  let sign ← Scan.maybe (Scan.take fun c => c == '+' || c == '-')
  let n : Int := ofDigits 10 (← Scan.span1 Char.isDigit)
  return if sign = some '-' then -n else n

/-- The first digits of a number, and how many digits did not fit any more. -/
structure Leading where
  digits : Nat
  left : Nat
  deriving DecidableEq, Repr

namespace Leading

/-- The first digits of a number after some digits more. Those behind the first that does not fit are
counted only. -/
def extend (leading : Leading) : List Char → Leading
  | [] => leading
  | digit :: rest =>
    let longer := leading.digits * 10 + digitValue digit
    if longer < wordCount 64 then extend { leading with digits := longer } rest
    else { leading with left := (digit :: rest).length }

end Leading

/-- The greatest power of ten by which a number is multiplied or divided at once. -/
def greatestPower : Nat := 308

/-- A number times ten to an exponent, when it is not beyond the greatest. Division by great powers
takes several rounds; before the third, nothing is left of a number of 64 bits. -/
def scaled? (x : Binary64) (exponent : Int) : (rounds : Nat) → Option Binary64
  | 0 => some x
  | rounds + 1 =>
    let power (n : Nat) : Binary64 := Binary64.ofDecimal false 1 n
    if exponent.natAbs ≤ greatestPower then
      if 0 ≤ exponent then
        let product := x.mul (power exponent.natAbs)
        if product = .infinite false then none else some product
      else some (x.div (power exponent.natAbs))
    else if x = Binary64.ofNat 0 then some x
    else if 0 ≤ exponent then none
    else scaled? (x.div (power greatestPower)) (exponent + greatestPower) rounds

/-- The number with a sign that is some digits times ten to an exponent. -/
def rounded? (negative : Bool) (digits : Nat) (exponent : Int) : Option Json :=
  (scaled? (Binary64.ofNat digits) exponent 3).map fun x =>
    .float (if negative then x.neg else x)

/-- The integer that digits spell, when it fits into 64 bits. Zero with a minus does not. -/
def integer? (negative : Bool) (n : Nat) : Option Json :=
  if negative then
    if n = 0 || wordCount 63 < n then none else some (.int (-n))
  else if n < wordCount 64 then some (.int n) else none

/-- A number that is written with the given digits in front of its point and behind it. -/
def numberOf? (negative : Bool) (whole : List Char) (decimals : Option (List Char))
    (power : Option Int) : Option Json :=
  let front := Leading.extend { digits := 0, left := 0 } whole
  let all := Leading.extend { front with left := 0 } (decimals.getD [])
  let places : Int := (decimals.getD []).length - all.left
  let plain := if decimals.isNone && power.isNone then integer? negative (ofDigits 10 whole) else none
  plain.or (rounded? negative all.digits (front.left - places + power.getD 0))

/-- A number. -/
def number : Scan Json := do
  let sign ← Scan.maybe (Scan.expect '-')
  let whole ← plainDigits
  let decimals ← Scan.maybe (do Scan.expect '.'; Scan.span1 Char.isDigit)
  let power ← Scan.maybe exponent
  match numberOf? sign.isSome whole decimals power with
  | some number => return number
  | none => failure

/-- The fields with a value under a name, in the place of any that was there. -/
def setField (name : String) (value : Json) : List (String × Json) → List (String × Json)
  | [] => [(name, value)]
  | (other, old) :: rest =>
    if other = name then (name, value) :: rest else (other, old) :: setField name value rest

/-- Items in brackets, with commas between them. -/
def bracketed {α : Type} (first last : Char) (item : Scan α) : Scan (List α) := do
  token (Scan.expect first)
  let items ← Scan.maybe (Scan.separated item (token (Scan.expect ',')))
  token (Scan.expect last)
  return items.getD []

/-- A list, given how to read its items. -/
def listOf (item : Scan Json) : Scan Json := do
  return .arr (← bracketed '[' ']' item)

/-- An object, given how to read its values. -/
def objectOf (item : Scan Json) : Scan Json := do
  let field : Scan (String × Json) := do
    let name ← token text
    token (Scan.expect ':')
    return (name, ← item)
  let fields ← bracketed '\x7b' '\x7d' field
  return .obj (fields.foldl (fun object field => setField field.1 field.2 object) [])

/-- A value without parts. -/
def scalar : Scan Json :=
  token ((do Scan.literal "null"; return .null)
    <|> (do Scan.literal "true"; return .bool true)
    <|> (do Scan.literal "false"; return .bool false)
    <|> (Json.str <$> text) <|> number)

/-- A value, with lists and objects nested to a depth. -/
def value : (depth : Nat) → Scan Json
  | 0 => scalar
  | depth + 1 => scalar <|> listOf (value depth) <|> objectOf (value depth)

/-- How deep values may be nested. -/
def deepest : Nat := 127

/-- The value that a text spells. -/
def parse? (source : String) : Option Json :=
  Scan.whole? (do blanks; value deepest) source.toList

end Switchboard.Json
