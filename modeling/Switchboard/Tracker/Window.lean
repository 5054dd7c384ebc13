/-
**The window: the last events that were accepted.**

The window remembers the fingerprints of a bounded number of accepted events, oldest first. An
event whose fingerprint is in it is a repeat. A repeat changes nothing, so it does not keep the
first one in the window any longer.

* `insert?`: remembers a fingerprint, or finds that it is a repeat.
-/

import Switchboard.Event

namespace Switchboard

/-- The fingerprints of the last accepted events, oldest first. -/
structure Window where
  capacity : Nat
  recent : List Fingerprint
  deriving DecidableEq, Repr

namespace Window

/-- A window on nothing. It holds at least one fingerprint. -/
def new (capacity : Nat) : Window :=
  { capacity := max capacity 1, recent := [] }

/-- Whether the window remembers a fingerprint. -/
def contains (window : Window) (print : Fingerprint) : Bool :=
  window.recent.contains print

/-- Remembers a fingerprint, and forgets the oldest when there are too many. There is no result
for a repeat. -/
def insert? (window : Window) (print : Fingerprint) : Option Window :=
  if window.contains print then none
  else
    let recent := window.recent ++ [print]
    some { window with
      recent := if window.capacity < recent.length then recent.tail else recent }

end Window

end Switchboard
