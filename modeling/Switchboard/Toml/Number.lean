/-
**Numbers and dates of TOML.**

Integers have 64 bits and may be written in four bases. Digits may be grouped by underscores, each
between two digits. Dates and times are kept as texts in one form.
-/

import Switchboard.Config.Value
import Switchboard.Number.Word
import Switchboard.Text.Scan

namespace Switchboard.Toml

open Text Config

/-- Digits, perhaps with single underscores between them. -/
def digitsIn (base : Nat) : Scan (List Char) := do
  let first ← Scan.take (isDigitIn base)
  let rest ← Scan.many (do
    let _ ← Scan.maybe (Scan.expect '_')
    Scan.take (isDigitIn base))
  return first :: rest

/-- A sign, and whether it is a minus. -/
def sign : Scan Bool := do
  match ← Scan.maybe (Scan.take fun c => c == '+' || c == '-') with
  | some c => return c == '-'
  | none => return false

/-- Decimal digits without a zero in front. -/
def plainDigits : Scan (List Char) := do
  match ← Scan.peek? with
  | some '0' => List.singleton <$> Scan.take (· == '0')
  | _ => digitsIn 10

/-- An integer of 64 bits. -/
def int64 (n : Int) : Scan Value :=
  if isInt64 n then pure (.int n) else failure

/-- An integer behind the mark of its base. -/
def basedInteger (mark : String) (base : Nat) : Scan Value := do
  Scan.literal mark
  int64 (ofDigits base (← digitsIn base))

/-- A decimal integer. -/
def decimalInteger : Scan Value := do
  let negative ← sign
  let n : Int := ofDigits 10 (← plainDigits)
  int64 (if negative then -n else n)

/-- An integer. -/
def integer : Scan Value :=
  basedInteger "0x" 16 <|> basedInteger "0o" 8 <|> basedInteger "0b" 2 <|> decimalInteger

/-- The digits behind a decimal point. -/
def fraction : Scan (List Char) := do
  Scan.expect '.'
  digitsIn 10

/-- The exponent of a number. -/
def exponent : Scan Int := do
  let _ ← Scan.take fun c => c == 'e' || c == 'E'
  let negative ← sign
  let n : Int := ofDigits 10 (← digitsIn 10)
  return if negative then -n else n

/-- A number with a point or an exponent or both. One beyond the greatest is refused. -/
def pointed : Scan Value := do
  let negative ← sign
  let whole ← plainDigits
  let places ← Scan.maybe fraction
  let power ← Scan.maybe exponent
  if places.isNone && power.isNone then failure
  else
    let decimals := places.getD []
    let number := Binary64.ofDecimal negative (ofDigits 10 (whole ++ decimals))
      (power.getD 0 - decimals.length)
    if number = .infinite false then failure else return .float number

/-- The numbers that are no numbers, or greater than all. -/
def special : Scan Value := do
  let negative ← sign
  (do Scan.literal "inf"; return .float (.infinite negative))
    <|> (do Scan.literal "nan"; return .float .nan)

/-- The days of a month. -/
def daysOf (year month : Nat) : Nat :=
  if month == 2 then
    if year % 4 == 0 && (year % 100 != 0 || year % 400 == 0) then 29 else 28
  else if month == 4 || month == 6 || month == 9 || month == 11 then 30 else 31

/-- A number of a given count of digits between two bounds. -/
def bounded (count least greatest : Nat) : Scan (List Char) := do
  let digits ← Scan.exactly Char.isDigit count
  let n := ofDigits 10 digits
  if least ≤ n ∧ n ≤ greatest then return digits else failure

/-- A date. -/
def date : Scan (List Char) := do
  let year ← Scan.exactly Char.isDigit 4
  Scan.expect '-'
  let month ← bounded 2 1 12
  Scan.expect '-'
  let day ← bounded 2 1 (daysOf (ofDigits 10 year) (ofDigits 10 month))
  return year ++ '-' :: month ++ '-' :: day

/-- The fraction of a second, to nine places and without zeros at the end. -/
def secondFraction : Scan (List Char) := do
  Scan.expect '.'
  let digits ← Scan.span1 Char.isDigit
  let kept := ((digits.take 9).reverse.dropWhile (· == '0')).reverse
  return if kept.isEmpty then [] else '.' :: kept

/-- A time of day. -/
def time : Scan (List Char) := do
  let hour ← bounded 2 0 23
  Scan.expect ':'
  let minute ← bounded 2 0 59
  Scan.expect ':'
  let second ← bounded 2 0 60
  let rest ← Scan.maybe secondFraction
  return hour ++ ':' :: minute ++ ':' :: second ++ rest.getD []

/-- A distance from universal time. -/
def offset : Scan (List Char) :=
  (do let _ ← Scan.take fun c => c == 'Z' || c == 'z'; return ['Z'])
    <|> (do
      let mark ← Scan.take fun c => c == '+' || c == '-'
      let hour ← bounded 2 0 23
      Scan.expect ':'
      let minute ← bounded 2 0 59
      let none := (hour ++ minute).all (· == '0')
      return (if none then '+' else mark) :: hour ++ ':' :: minute)

/-- The time behind a date. -/
def timeOfDate : Scan (List Char) := do
  let _ ← Scan.take fun c => c == 'T' || c == 't' || c == ' '
  let clock ← time
  let distance ← Scan.maybe offset
  return 'T' :: clock ++ distance.getD []

/-- A date, a time, or both. -/
def moment : Scan Value :=
  (do
    let day ← date
    let rest ← Scan.maybe timeOfDate
    return .text (String.ofList (day ++ rest.getD [])))
  <|> (do return .text (String.ofList (← time)))

/-- A number or a date. -/
def number : Scan Value := moment <|> pointed <|> special <|> integer

end Switchboard.Toml
