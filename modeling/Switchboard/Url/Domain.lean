/-
**Names of hosts.**

A name is labels with dots between them. Its characters become what they stand for, and the text is
composed, before it is cut into labels. A label in plain letters may be the code of another one, which
has to be in that form already.

* `decodedLabel?`: the characters of a label;
* `isLabel`: labels that a name may have;
* `domain?`: the name that a text spells.
-/

import Switchboard.Text.Composition
import Switchboard.Url.Direction
import Switchboard.Url.Joining
import Switchboard.Url.Mapping
import Switchboard.Url.Punycode

namespace Switchboard.Url

open Text

/-- A plain character. -/
def isPlain (c : Char) : Bool := c.toNat < 128

/-- The greatest length of a code. -/
def longestCode : Nat := 2000

/-- The greatest length of a label that needs a code. -/
def longestLabel : Nat := 1000

/-- The characters of a label. A code has to be needed, and what it says has to be composed from
characters that stand for themselves. -/
def decodedLabel? (label : List Char) : Option (List Char) :=
  match label with
  | 'x' :: 'n' :: '-' :: '-' :: code => do
    if !code.all isPlain || longestCode < code.length then none
    else
      let chars ← Punycode.decode? code
      if chars.all isPlain || !chars.all standsForItself || !isComposed chars then none
      else return chars
  | label => if label.all isPlain || label.length ≤ longestLabel then some label else none

/-- Whether a name may have a label: no mark is in front, and joiners stand where they may. -/
def isLabel (label : List Char) : Bool := !label.head?.any isMark && hasFitJoiners label

/-- The name that a text spells. -/
def domain? (text : List Char) : Option (List Char) := do
  let name := composed (← mappedText? text)
  let labels ← (name.splitOn '.').mapM decodedLabel?
  let fits := labels.all isLabel && (!labels.any runsLeft || labels.all isOneWay)
  if fits then return name else failure

end Switchboard.Url
