/-
**Files of variables.**

A file of variables sets one variable with each of its lines, `NAME=value`, perhaps with `export` in
front. A line goes on behind its end while a quote is open. Where a number sign stands behind a blank,
or in front of everything else, the rest of the line is a comment.

A value may have pieces between quotes, in which blanks are kept. Outside of single quotes a backslash
takes the meaning from the next character, and a dollar sign and a name stand for the value of another
variable: one that is set, or else one from a line above. Variables that are set already stay as they
are, and what stands behind a line that cannot be read is not looked at.

* `cutLines`: the lines of a file;
* `readValue?`: the value that a text spells;
* `withFile`: the variables that are set once a file has been read.
-/

import Switchboard.Text.Blank
import Switchboard.Text.Letter

namespace Switchboard.Config

open Text

/-- Variables with their values. -/
abbrev Variables := List (String × String)

/-- The value of a variable. -/
def Variables.value? (named : Variables) (name : String) : Option String :=
  (named.find? (·.1 = name)).map Prod.snd

/-! ### Lines -/

/-- Where in a line a character stands. -/
inductive LinePlace where
  | outside
  /-- Outside of quotes, behind a blank. A second blank does not count as one. -/
  | behindBlank
  | behindBackslash
  | inSingle
  | behindBackslashInSingle
  | inDouble
  | behindBackslashInDouble
  | inComment
  deriving DecidableEq, Repr

namespace LinePlace

/-- Where a line goes on behind a character that stands outside of quotes. -/
def openedBy (c : Char) : LinePlace :=
  if c == '\\' then behindBackslash
  else if c == '"' then inDouble
  else if c == '\'' then inSingle
  else outside

/-- Where a line goes on behind a character. -/
def after (place : LinePlace) (c : Char) : LinePlace :=
  match place with
  | outside => if isBlank c && c != '\n' && c != '\r' then behindBlank else openedBy c
  | behindBlank => if c == '#' then inComment else openedBy c
  | behindBackslash => outside
  | inSingle =>
    if c == '\\' then behindBackslashInSingle else if c == '\'' then outside else inSingle
  | behindBackslashInSingle => inSingle
  | inDouble =>
    if c == '\\' then behindBackslashInDouble else if c == '"' then outside else inDouble
  | behindBackslashInDouble => inDouble
  | inComment => inComment

end LinePlace

/-- Lines being cut from a file: those that are complete, and what has been taken of the next one,
both with the latest in front. -/
structure LineCutter where
  place : LinePlace
  taken : List Char
  complete : List (List Char)

namespace LineCutter

/-- Nothing is cut yet. -/
def start : LineCutter := { place := .outside, taken := [], complete := [] }

/-- The line that has been taken is complete. -/
def finishLine (cutter : LineCutter) : LineCutter :=
  { start with complete := cutter.taken.reverse :: cutter.complete }

/-- One more character of a file. -/
def add (cutter : LineCutter) (c : Char) : LineCutter :=
  if cutter.place = .inComment then if c == '\n' then cutter.finishLine else cutter
  else if c == '#' && cutter.taken.all isBlank then { cutter with place := .inComment, taken := [] }
  else
    match cutter.place.after c with
    | .inComment => { cutter with place := .inComment }
    | .outside =>
      if c == '\n' then cutter.finishLine
      else { cutter with place := .outside, taken := c :: cutter.taken }
    | place => { cutter with place, taken := c :: cutter.taken }

/-- All lines, once the file has ended. A line that would have to go on is lost. -/
def lines (cutter : LineCutter) : List (List Char) :=
  match cutter.place with
  | .outside | .inComment => cutter.finishLine.complete.reverse
  | _ => cutter.complete.reverse

end LineCutter

/-- The lines of a file. -/
def cutLines (text : String) : List (List Char) :=
  (text.toList.foldl LineCutter.add LineCutter.start).lines

/-! ### Values -/

/-- Where in a value a character stands. The flag says whether double quotes are open. -/
inductive ValuePlace where
  | plain (inDouble : Bool)
  | inSingle
  | behindBackslash (inDouble : Bool)
  | inName (inDouble : Bool) (taken : List Char)
  | inBracedName (inDouble : Bool) (taken : List Char)
  /-- Behind a blank outside of quotes, where nothing but a comment may follow. -/
  | behindEnd
  deriving DecidableEq, Repr

/-- The end of a value that is read from some place on, when it may end there. -/
def ValuePlace.ended? (value : String → String) : ValuePlace → Option (List Char)
  | .plain inDouble | .behindBackslash inDouble => if inDouble then none else some []
  | .inName inDouble taken =>
    if inDouble then none else some (value (String.ofList taken.reverse)).toList
  | .inSingle | .inBracedName _ _ => none
  | .behindEnd => some []

/-- What a backslash and a character stand for. -/
def unescaped? (c : Char) : Option Char :=
  if c == 'n' then some '\n'
  else if c ∈ ['\\', '\'', '"', '$', ' '] then some c
  else none

/-- The rest of a value from some place on, given the values of the variables that it may mention. -/
def valueFrom? (value : String → String) : ValuePlace → List Char → Option (List Char)
  | place, [] => place.ended? value
  | .behindEnd, c :: rest =>
    if c == ' ' || c == '\t' then valueFrom? value .behindEnd rest
    else if c == '#' then some []
    else none
  | .behindBackslash inDouble, c :: rest => do
    let meant ← unescaped? c
    return meant :: (← valueFrom? value (.plain inDouble) rest)
  | .inSingle, c :: rest =>
    if c == '\'' then valueFrom? value (.plain false) rest
    else (valueFrom? value .inSingle rest).map (c :: ·)
  | .inName inDouble taken, c :: rest =>
    if isWordChar c then valueFrom? value (.inName inDouble (c :: taken)) rest
    else if c == '\x7b' && taken.isEmpty then valueFrom? value (.inBracedName inDouble []) rest
    else
      let meant := (value (String.ofList taken.reverse)).toList
      if c == '$' then (valueFrom? value (.inName inDouble []) rest).map (meant ++ ·)
      else (valueFrom? value (.plain inDouble) rest).map fun more => meant ++ c :: more
  | .inBracedName inDouble taken, c :: rest =>
    if c == '\x7d' then
      let meant := (value (String.ofList taken.reverse)).toList
      (valueFrom? value (.plain inDouble) rest).map (meant ++ ·)
    else valueFrom? value (.inBracedName inDouble (c :: taken)) rest
  | .plain inDouble, c :: rest =>
    if c == '$' then valueFrom? value (.inName inDouble []) rest
    else if c == '\\' then valueFrom? value (.behindBackslash inDouble) rest
    else if c == '"' then valueFrom? value (.plain !inDouble) rest
    else if inDouble then (valueFrom? value (.plain true) rest).map (c :: ·)
    else if c == '\'' then valueFrom? value .inSingle rest
    else if c == ' ' || c == '\t' then valueFrom? value .behindEnd rest
    else (valueFrom? value (.plain false) rest).map (c :: ·)

/-- The value that a text spells. -/
def readValue? (value : String → String) (text : List Char) : Option String :=
  (valueFrom? value (.plain false) text).map String.ofList

/-! ### Files -/

/-- The name of a variable. -/
def variableName : Scan String := do
  let first ← Scan.take fun c => c.isAlpha || c == '_'
  let others ← Scan.span fun c => c.isAlphanum || c == '_' || c == '.'
  return String.ofList (first :: others)

/-- White space of any kind. -/
def anyBlanks : Scan Unit := do
  let _ ← Scan.span isBlank

/-- The name of the variable that a line sets, up to the equals sign. The word `export` in front of it
does not count, but it may also be the name itself. -/
def assignedName : Scan String := do
  let word ← variableName
  anyBlanks
  match ← Scan.maybe (Scan.expect '=') with
  | some _ => return word
  | none =>
    if word = "export" then
      let name ← variableName
      anyBlanks
      Scan.expect '='
      return name
    else failure

/-- What a line says: nothing, or the name of a variable and the text behind the equals sign. -/
def lineContent? (line : List Char) : Option (Option (String × List Char)) :=
  let content := trimChars line
  if content.isEmpty || content.head? = some '#' then some none
  else
    (do
      let name ← assignedName
      anyBlanks
      let rest ← get
      return some (name, rest) : Scan (Option (String × List Char))).run' content

/-- Variables while a file is read: those that are set, and those from the lines so far. -/
structure VariableState where
  set : Variables
  seen : Variables

namespace VariableState

/-- The value that the name of a variable stands for; nothing for one that is not known. -/
def meaning (state : VariableState) (name : String) : String :=
  ((state.set.value? name).or (state.seen.value? name)).getD ""

/-- The variables after a line gives one a value. One that is set stays as it is. -/
def assign (state : VariableState) (name value : String) : VariableState :=
  { set := if (state.set.value? name).isSome then state.set else state.set ++ [(name, value)]
    seen := (name, value) :: state.seen }

/-- The variables after some lines, up to the first that cannot be read. -/
def addLines (state : VariableState) : List (List Char) → VariableState
  | [] => state
  | line :: rest =>
    match lineContent? line with
    | none => state
    | some none => addLines state rest
    | some (some (name, text)) =>
      if text.isEmpty || text.head? = some '#' then addLines (state.assign name "") rest
      else
        match readValue? state.meaning text with
        | none => state
        | some value => addLines (state.assign name value) rest

end VariableState

/-- The variables that are set once a file has been read. A mark of the byte order in front of the
file does not count. -/
def withFile (named : Variables) (text : String) : Variables :=
  let unmarked := if text.startsWith "\ufeff" then String.ofList (text.toList.drop 1) else text
  (VariableState.addLines { set := named, seen := [] } (cutLines unmarked)).set

end Switchboard.Config
