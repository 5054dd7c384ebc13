/-
**Finding a file by its name.**

A name is parts with slashes between them: a part leads into a folder, a dot stays where it is, and
two dots lead back out. A folder is there when some file lies in it, and the folder in which
everything begins is always there; nothing outside of it can be reached.

A file may be meant without its ending. An ending is what stands behind the last dot of the last
part, unless the dot is in front.

* `fileText?`: the text of the file of a name;
* `ending?`: the ending of a name;
* `withEnding?`: a name with an ending added.
-/

namespace Switchboard.Config

/-- Files with their texts. -/
abbrev Files := List (String × String)

/-- The parts of a name. -/
def partsOf (name : String) : List (List Char) := name.toList.splitOn '/'

/-- Whether a part stays where it is. -/
def stays (part : List Char) : Bool := part.isEmpty || part == ['.']

/-- Whether a part leads out of a folder. -/
def leadsOut (part : List Char) : Bool := part == ['.', '.']

/-- Whether there is a folder. -/
def isFolder (files : Files) (folder : List (List Char)) : Bool :=
  folder.isEmpty || files.any fun file =>
    let parts := partsOf file.1
    folder.isPrefixOf parts && folder.length < parts.length

/-- The place to which parts lead from a folder. -/
def follow? (files : Files) (place : List (List Char)) :
    List (List Char) → Option (List (List Char))
  | [] => some place
  | part :: rest =>
    if !isFolder files place then none
    else if stays part then follow? files place rest
    else if leadsOut part then
      if place.isEmpty then none else follow? files place.dropLast rest
    else follow? files (place ++ [part]) rest

/-- The text of the file of a name. A name that begins with a slash does not begin here. -/
def fileText? (files : Files) (name : String) : Option String :=
  if name.toList.head? = some '/' then none
  else do
    let place ← follow? files [] (partsOf name)
    let file ← files.find? fun file => partsOf file.1 == place
    return file.2

/-- The parts of a name up to the last that does not stay where it is, and that one apart. -/
def lastPart? (name : String) : Option (List (List Char) × List Char) :=
  let parts := (partsOf name).reverse.dropWhile stays
  match parts with
  | part :: before => if leadsOut part then none else some (before.reverse, part)
  | [] => none

/-- The ending of a name. -/
def ending? (name : String) : Option String := do
  let (_, part) ← lastPart? name
  let ending := (part.reverse.takeWhile (· != '.')).reverse
  let stem := part.length - ending.length
  if 1 < stem then return String.ofList ending else failure

/-- A name with an ending added. -/
def withEnding? (name ending : String) : Option String := do
  let (before, part) ← lastPart? name
  return String.ofList (List.intercalate ['/'] (before ++ [part ++ '.' :: ending.toList]))

end Switchboard.Config
