/-
**Blocks: lines of text as a header list.**

The text of a block is read line by line. A line ends at a line feed, and carriage returns at its
end are no part of it. A line without content is skipped. A line with a colon behind some content
is a header: key and value, both trimmed. Every other line is loose.

* `Line.ofChars`: the one rule for a line;
* `Block.ofChars`: the headers and the loose lines of a text, each in order.
-/

import Switchboard.Headers

namespace Switchboard

open Text

/-- What a line of a block says. -/
inductive Line where
  | blank
  | header (key value : String)
  | loose (text : String)
  deriving DecidableEq, Repr

/-- The lines of a text, one more than it has line feeds: `line` and `lines` hold what has been
read of the present line and the lines before it, both backwards. -/
def splitLinesFrom (line : List Char) (lines : List (List Char)) : List Char → List (List Char)
  | [] => (line.reverse :: lines).reverse
  | c :: rest =>
    if c = '\n' then splitLinesFrom [] (line.reverse :: lines) rest
    else splitLinesFrom (c :: line) lines rest

/-- The lines of a text, which line feeds separate. -/
def splitLines (text : List Char) : List (List Char) :=
  splitLinesFrom [] [] text

namespace Line

/-- What a line says, up to the carriage returns at its end. -/
def ofChars (raw : List Char) : Line :=
  let line := dropTrailing (· == '\r') raw
  if line.all isBlank then .blank
  else
    let key := trimChars (line.takeWhile (· != ':'))
    match line.dropWhile (· != ':') with
    | [] => .loose (String.ofList line)
    | _ :: value =>
      if key.isEmpty then .loose (String.ofList line)
      else .header (String.ofList key) (String.ofList (trimChars value))

/-- The pair of a header line. -/
def pair? : Line → Option (String × String)
  | .header key value => some (key, value)
  | _ => none

/-- The text of a loose line. -/
def loose? : Line → Option String
  | .loose text => some text
  | _ => none

end Line

/-- The content of a block: its headers and its loose lines. -/
structure Block where
  headers : Headers
  loose : List String
  deriving DecidableEq, Repr

namespace Block

/-- The content of the given lines. -/
def ofLines (lines : List Line) : Block :=
  { headers := ⟨lines.filterMap Line.pair?⟩
    loose := lines.filterMap Line.loose? }

/-- The content of a text. -/
def ofChars (text : List Char) : Block :=
  ofLines ((splitLines text).map Line.ofChars)

end Block

end Switchboard
