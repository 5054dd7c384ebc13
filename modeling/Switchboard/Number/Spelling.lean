/-
**Numbers as texts spell them.**

A number may have a plus or a minus in front. An integer is spelled by decimal digits, of which there
may be more than it needs, and has to lie within the bounds of a word; any other number has a point,
an exponent, or a name. Nothing else may stand in the text, no blanks either.

* `wordOf?`, `int64Of?`: integers of 64 bits, without a sign and with one;
* `floatOf?`: floating point numbers, which every integer is, too.
-/

import Switchboard.Number.Binary64
import Switchboard.Text.Case
import Switchboard.Text.Scan

namespace Switchboard.Text

/-- A plus or a minus, and whether it is a minus. -/
def signMark : Scan Bool := do
  match ← Scan.maybe (Scan.take fun c => c == '+' || c == '-') with
  | some c => return c == '-'
  | none => return false

/-- A decimal integer. -/
def decimalInteger : Scan Int := do
  let negative ← signMark
  let n : Int := ofDigits 10 (← Scan.span1 Char.isDigit)
  return if negative then -n else n

/-- The integer of 64 bits with a sign that a text spells. -/
def int64Of? (text : String) : Option Int :=
  (Scan.whole? decimalInteger text.toList).filter isInt64

/-- A decimal integer without a minus. -/
def unsignedInteger : Scan Nat := do
  let _ ← Scan.maybe (Scan.expect '+')
  return ofDigits 10 (← Scan.span1 Char.isDigit)

/-- The integer of 64 bits without a sign that a text spells. -/
def wordOf? (text : String) : Option Nat :=
  (Scan.whole? unsignedInteger text.toList).filter fun n => decide (n < wordCount 64)

/-- A number with a point or an exponent. Digits may be missing on one side of the point. -/
def pointedNumber : Scan Binary64 := do
  let negative ← signMark
  let whole ← Scan.span Char.isDigit
  let decimals ← Scan.maybe (do Scan.expect '.'; Scan.span Char.isDigit)
  let digits := whole ++ decimals.getD []
  if digits.isEmpty then failure
  else
    let power ← Scan.maybe (do
      let _ ← Scan.take fun c => c == 'e' || c == 'E'
      decimalInteger)
    return Binary64.ofDecimal negative (ofDigits 10 digits)
      (power.getD 0 - (decimals.getD []).length)

/-- The names of what is no number, or greater than all numbers, with small letters. -/
def namedNumber : Scan Binary64 := do
  let negative ← signMark
  (do Scan.literal "infinity"; return .infinite negative)
    <|> (do Scan.literal "inf"; return .infinite negative)
    <|> (do Scan.literal "nan"; return .nan)

/-- The floating point number that a text spells. -/
def floatOf? (text : String) : Option Binary64 :=
  (Scan.whole? pointedNumber text.toList).or
    (Scan.whole? namedNumber (fold text).toList)

end Switchboard.Text
