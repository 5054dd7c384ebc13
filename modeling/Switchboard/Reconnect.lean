/-
**How long to wait before the next attempt to connect.**

After each failure the delay doubles, from the initial delay up to the greatest. What is waited is
drawn from the upper half of that delay, so that many clients do not come back at once. Attempts
may be limited.

Lengths of time are counted in milliseconds and have bounds of their own: a product that is too
long is cut to the longest length there is, and a delay is handed on as a word of 64 bits.

* `base`: the delay after some number of failures, before the draw;
* `delay`: the delay that a draw gives;
* `isExhausted`: whether another attempt may be made.
-/

import Switchboard.Number.Word
import Switchboard.Settings

namespace Switchboard

/-- The rule for waiting between attempts to connect. -/
structure ReconnectPolicy where
  initialDelay : Nat
  maxDelay : Nat
  maxAttempts : Nat
  deriving DecidableEq, Repr

/-- The longest length of time, in whole milliseconds: as many seconds as a word of 64 bits can
count, and all but one of the milliseconds of one more. -/
def longestDuration : Nat := wordCount 64 * 1000 - 1

/-- A length of time taken several times, or the longest there is. -/
def timesSaturating (millis factor : Nat) : Nat :=
  min (millis * factor) longestDuration

/-- The lower 64 bits of a number. -/
def toWord (n : Nat) : Nat := n % wordCount 64

namespace ReconnectPolicy

/-- A rule whose greatest delay is no less than the initial one. -/
def new (initialDelay maxDelay maxAttempts : Nat) : ReconnectPolicy :=
  { initialDelay, maxDelay := max maxDelay initialDelay, maxAttempts }

/-- The rule that settings describe. -/
def ofSettings (settings : ReconnectSettings) : ReconnectPolicy :=
  new settings.initialDelayMs settings.maxDelayMs settings.maxAttempts

/-- The rule that holds unless another is given. -/
def default : ReconnectPolicy := ofSettings ReconnectSettings.default

/-- Whether no further attempt may be made after this many. -/
def isExhausted (policy : ReconnectPolicy) (attempts : Nat) : Bool :=
  policy.maxAttempts != 0 && policy.maxAttempts ≤ attempts

/-- How often the delay has doubled when the given attempt fails, the first being 1. -/
def doublings (attempt : Nat) : Nat := min (attempt - 1) 20

/-- The delay after a failed attempt, before the draw. -/
def base (policy : ReconnectPolicy) (attempt : Nat) : Nat :=
  toWord (min (timesSaturating policy.initialDelay (Nat.pow 2 (doublings attempt))) policy.maxDelay)

/-- The least and the greatest delay that may be drawn. -/
def band (policy : ReconnectPolicy) (attempt : Nat) : Nat × Nat :=
  let base := policy.base attempt
  if base < 2 then (base, base) else (base / 2, base)

/-- The delay that a draw gives: every draw is a number, and every delay in the band has one. -/
def delay (policy : ReconnectPolicy) (attempt draw : Nat) : Nat :=
  let (low, high) := policy.band attempt
  low + draw % (high - low + 1)

end ReconnectPolicy

end Switchboard
