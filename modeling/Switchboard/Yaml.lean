/-
**YAML documents.**

The value of a document, by way of its tokens and its nodes. A text without a document is an empty
mapping; one with several documents is refused.
-/

import Switchboard.Yaml.Document
import Switchboard.Yaml.Node

namespace Switchboard.Yaml

open Config

/-- The value of the document in a text. -/
def parse? (text : String) : Option Value := do
  match ← document? (← tokensOf? text) with
  | some node => node.value?
  | none => return .table []

end Switchboard.Yaml
