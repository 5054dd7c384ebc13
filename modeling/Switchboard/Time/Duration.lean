/-
**Lengths of time, as they are shown.**

A length of time in milliseconds is shown in seconds from one second on, without zeros at the end
of the fraction, and in milliseconds below. No time at all is shown as `0ns`.
-/

import Switchboard.Time.Timestamp

namespace Switchboard

/-- Three digits after the point, without the zeros at the end. -/
def fractionText (thousandths : Nat) : String :=
  let digits := (padded 3 thousandths).toList
  let shown := (digits.reverse.dropWhile (· == '0')).reverse
  if shown.isEmpty then "" else "." ++ String.ofList shown

/-- The text of a length of time. -/
def durationText (millis : Nat) : String :=
  if 1000 ≤ millis then toString (millis / 1000) ++ fractionText (millis % 1000) ++ "s"
  else if 0 < millis then toString millis ++ "ms"
  else "0ns"

end Switchboard
