/-
**YAML tokens.**

A document is a row of tokens. Those that open and close blocks stand for indentation and are in no
text; the same holds of the mark in front of a key, which is known to be one only when its colon is
read.
-/

namespace Switchboard.Yaml

/-- A token of a document. -/
inductive Token where
  | versionDirective
  /-- A handle, and what it stands for in front of a tag. -/
  | tagDirective (handle meaning : String)
  | documentStart
  | documentEnd
  | blockSequence
  | blockMapping
  | blockEnd
  | flowSequence
  | flowSequenceEnd
  | flowMapping
  | flowMappingEnd
  | blockEntry
  | flowEntry
  | key
  | value
  | alias (name : String)
  | anchor (name : String)
  | tag (handle suffix : String)
  /-- A text, and whether it is written without quotes on lines of its own indentation. -/
  | scalar ( plain : Bool) (text : String)
  deriving DecidableEq, Repr

/-! ### Classes of characters -/

/-- A line break. -/
def isBreak (c : Char) : Bool := c == '\n' || c == '\r'

/-- White space within a line. -/
def isWhite (c : Char) : Bool := c == ' ' || c == '\t'

/-- A character that has a meaning between brackets. -/
def isFlowMark (c : Char) : Bool := c ∈ [',', '[', ']', '\x7b', '\x7d']

/-- A character of a word. -/
def isWordPart (c : Char) : Bool := c.isAlphanum || c == '_' || c == '-'

/-- Whether nothing is left of a line where a character stands, or none. -/
def isBreakOrEnd (c : Option Char) : Bool := c.all isBreak

/-- Whether a word cannot go on where a character stands, or none. -/
def isGapOrEnd (c : Option Char) : Bool := c.all fun c => isBreak c || isWhite c

end Switchboard.Yaml
