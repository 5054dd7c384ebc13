/-
**YAML nodes: the values in a document.**

Tokens are put together to scalars, sequences and mappings. An alias is the node of its anchor, if
that is complete by then. What a plain scalar means depends on its text, unless a tag says it; all
other scalars are texts.

* `resolve`: what a plain scalar means;
* `node`: a node, by recursion on its parts;
* `document?`: the node of a document, of which there may be one at most;
* `Node.value?`: a node as a value of a configuration.
-/

import Switchboard.Config.Value
import Switchboard.Number.Spelling
import Switchboard.Yaml.Token

namespace Switchboard.Yaml

open Text Config

/-- A key of a mapping. Only integers and texts can be used as names. -/
inductive Key where
  | int (n : Int)
  | text (text : String)
  | other
  deriving DecidableEq, Repr

/-- A value in a document. -/
inductive Node where
  /-- What a tag does not allow, or an alias of what is not complete. -/
  | unusable
  | nothing
  | flag (value : Bool)
  | int (n : Int)
  /-- A number, if its text spells one. The names that only this format has for numbers do not. -/
  | float (x : Option Binary64)
  | text (text : String)
  | list (items : List Node)
  | table (entries : List (Key × Node))

/-! ### Scalars -/

/-- The integer behind the mark of a base. A sign may stand behind the mark. -/
def basedInteger? (text : String) : Option Int :=
  let digits (mark : String) (base : Nat) : Scan Int := do
    Scan.literal mark
    let negative ← signMark
    let n : Int := ofDigits base (← Scan.span1 (isDigitIn base))
    return if negative then -n else n
  (Scan.whole? (digits "0x" 16 <|> digits "0o" 8) text.toList).filter isInt64

/-- The integer behind a plus, which may have a sign of its own. -/
def plusInteger? (text : String) : Option Int :=
  match text.toList with
  | '+' :: rest => int64Of? (String.ofList rest)
  | _ => none

/-- The names for numbers that only this format has. -/
def floatNames : List String :=
  [".inf", ".Inf", ".INF", "+.inf", "+.Inf", "+.INF", "-.inf", "-.Inf", "-.INF", ".nan", ".NAN"]

/-- The number that a text spells, as a node. -/
def float? (text : String) : Option Node :=
  if text ∈ floatNames then some (.float none)
  else (floatOf? text).map fun x => .float (some x)

/-- What a plain scalar means. -/
def resolve (text : String) : Node :=
  match (basedInteger? text).or (plusInteger? text) with
  | some n => .int n
  | none =>
    if text ∈ ["", "~", "null"] then .nothing
    else if text = "true" then .flag true
    else if text = "false" then .flag false
    else
      match int64Of? text with
      | some n => .int n
      | none => (float? text).getD (.text text)

/-- A tag, with what its handle stands for. -/
structure Tag where
  origin : String
  suffix : String

/-- What stands in front of the tags that all documents know. -/
def coreOrigin : String := "tag:yaml.org,2002:"

/-- What a plain scalar with a tag means. -/
def resolveTagged (tag : Tag) (text : String) : Node :=
  if tag.origin ≠ coreOrigin then .text text
  else if tag.suffix = "bool" then
    if text = "true" then .flag true else if text = "false" then .flag false else .unusable
  else if tag.suffix = "int" then ((int64Of? text).map Node.int).getD .unusable
  else if tag.suffix = "float" then (float? text).getD .unusable
  else if tag.suffix = "null" then
    if text ∈ ["~", "null"] then .nothing else .unusable
  else .text text

/-- The node of a scalar. -/
def scalarNode ( plain : Bool) (tag : Option Tag) (text : String) : Node :=
  if plain then
    match tag with
    | some tag => resolveTagged tag text
    | none => resolve text
  else .text text

/-! ### Mappings -/

/-- A node as a key. -/
def Node.key : Node → Key
  | .int n => .int n
  | .text name => .text name
  | _ => .other

/-- The entries of a mapping whose keys and values alternate, given the key at hand. A key that cannot
be used is passed over, so that its value is the next key. No name may occur twice. -/
def entriesOf? (key : Option Key) (entries : List (Key × Node)) :
    List Node → Option (List (Key × Node))
  | [] => some entries.reverse
  | node :: rest =>
    match key, node with
    | none, .unusable => entriesOf? none entries rest
    | none, node => entriesOf? (some node.key) entries rest
    | some key, node =>
      if key ≠ .other && entries.any (·.1 = key) then none
      else entriesOf? none ((key, node) :: entries) rest

/-! ### From tokens to nodes -/

/-- Tokens that are put together: those that are left, what handles stand for, and the anchors so far,
each with a number of its own, under which its node is kept once it is complete. -/
structure Builder where
  tokens : List Token
  handles : List (String × String)
  anchors : List (String × Nat)
  nextAnchor : Nat
  complete : List (Nat × Node)

/-- A step in putting tokens together. -/
abbrev Build (α : Type) := StateT Builder Option α

namespace Build

/-- The next token. -/
def peek : Build (Option Token) := do return (← get).tokens.head?

/-- Passes a token. -/
def skip : Build Unit := modify fun builder => { builder with tokens := builder.tokens.drop 1 }

/-- Whether the next token is one of some. -/
def isNext (tokens : List Token) : Build Bool := do
  return (← peek).any fun token => token ∈ tokens

/-- What the handle of a tag stands for. A handle with a name has to be declared. -/
def resolveHandle (handle suffix : String) : Build Tag := do
  let handles := (← get).handles
  let known (name : String) := (handles.find? (·.1 = name)).map Prod.snd
  if handle = "!!" then return { origin := (known "!!").getD coreOrigin, suffix }
  else
    match known handle with
    | some origin => return { origin, suffix }
    | none =>
      if 2 ≤ handle.length && handle.endsWith "!" then failure
      else return { origin := handle, suffix }

/-- A name for the node that follows. It gives way to a later one. -/
def declare (name : String) : Build Nat := do
  let builder ← get
  let id := builder.nextAnchor
  set { builder with anchors := (name, id) :: builder.anchors, nextAnchor := id + 1 }
  return id

/-- The tag of the next node, if it has one. -/
def tag : Build (Option Tag) := do
  match ← peek with
  | some (.tag handle suffix) =>
    skip
    return some (← resolveHandle handle suffix)
  | _ => return none

/-- The anchor of the next node, if it has one. -/
def anchor : Build (Option Nat) := do
  match ← peek with
  | some (.anchor name) =>
    skip
    return some (← declare name)
  | _ => return none

/-- The anchor and the tag of the next node, in either order. -/
def properties : Build (Option Nat × Option Tag) := do
  match ← anchor with
  | some id => return (some id, ← tag)
  | none =>
    match ← tag with
    | some tag => return (← anchor, some tag)
    | none => return (none, none)

/-- The node of an alias. -/
def aliased (name : String) : Build Node := do
  let builder ← get
  match builder.anchors.find? (·.1 = name) with
  | none => failure
  | some (_, id) =>
    return ((builder.complete.find? (·.1 = id)).map Prod.snd).getD .unusable

/-- Keeps a node that is complete under its anchor. -/
def keep (anchor : Option Nat) (node : Node) : Build Node := do
  match anchor with
  | some id => modify fun builder => { builder with complete := (id, node) :: builder.complete }
  | none => pure ()
  return node

/-- A mapping whose keys and values alternate. -/
def mapping (nodes : List Node) : Build Node := do
  match entriesOf? none [] nodes with
  | some entries => return .table entries
  | none => failure

mutual

/-- A node. In a block it may be a block itself, and below the key of a mapping a sequence that is not
indented. The fuel bounds how many nodes and tokens lie in one another. -/
def node : (fuel : Nat) → (inBlock belowKey : Bool) → Build Node
  | 0, _, _ => failure
  | fuel + 1, inBlock, belowKey => do
    match ← peek with
    | some (.alias name) =>
      skip
      aliased name
    | _ =>
      let (anchor, tag) ← properties
      match ← peek with
      | some (.scalar isPlain text) =>
        skip
        keep anchor (scalarNode isPlain tag text)
      | some .flowSequence =>
        skip
        keep anchor (.list (← flowItems fuel true))
      | some .flowMapping =>
        skip
        keep anchor (← mapping (← flowEntries fuel true))
      | some token =>
        if token = .blockEntry && belowKey then keep anchor (.list (← looseItems fuel))
        else if token = .blockSequence && inBlock then
          skip
          keep anchor (.list (← blockItems fuel))
        else if token = .blockMapping && inBlock then
          skip
          keep anchor (← mapping (← blockEntries fuel))
        else empty anchor tag
      | none => empty anchor tag

/-- A node of which nothing but its anchor or its tag is there. -/
def empty (anchor : Option Nat) (tag : Option Tag) : Build Node :=
  if anchor.isNone && tag.isNone then failure else keep anchor (scalarNode true tag "")

/-- A node, or nothing where one of some tokens comes next. -/
def nodeUnless : (fuel : Nat) → (ends : List Token) → (inBlock belowKey : Bool) → Build Node
  | 0, _, _, _ => failure
  | fuel + 1, ends, inBlock, belowKey => do
    if ← isNext ends then return .nothing else node fuel inBlock belowKey

/-- The value behind a key, or nothing where none is there. -/
def valueUnless : (fuel : Nat) → (ends : List Token) → (inBlock : Bool) → Build Node
  | 0, _, _ => failure
  | fuel + 1, ends, inBlock => do
    if ← isNext [.value] then
      skip
      nodeUnless fuel ends inBlock inBlock
    else return .nothing

/-- The items of a sequence in a block. -/
def blockItems : (fuel : Nat) → Build (List Node)
  | 0 => failure
  | fuel + 1 => do
    if ← isNext [.blockEnd] then
      skip
      return []
    else if ← isNext [.blockEntry] then
      skip
      let item ← nodeUnless fuel [.blockEntry, .blockEnd] true false
      return item :: (← blockItems fuel)
    else failure

/-- The items of a sequence that is not indented. -/
def looseItems : (fuel : Nat) → Build (List Node)
  | 0 => failure
  | fuel + 1 => do
    if ← isNext [.blockEntry] then
      skip
      let item ← nodeUnless fuel [.blockEntry, .key, .value, .blockEnd] true false
      return item :: (← looseItems fuel)
    else return []

/-- The keys and values of a mapping in a block. -/
def blockEntries : (fuel : Nat) → Build (List Node)
  | 0 => failure
  | fuel + 1 => do
    let ends : List Token := [.key, .value, .blockEnd]
    if ← isNext [.blockEnd] then
      skip
      return []
    else if ← isNext [.key, .value] then
      let hasMark ← isNext [.key]
      if hasMark then skip
      let key ← if hasMark then nodeUnless fuel ends true true else pure .nothing
      let value ← valueUnless fuel ends true
      return key :: value :: (← blockEntries fuel)
    else failure

/-- The items of a sequence in brackets. -/
def flowItems : (fuel : Nat) → (isFirst : Bool) → Build (List Node)
  | 0, _ => failure
  | fuel + 1, isFirst => do
    let separated ← if isFirst then pure true else isNext [.flowEntry]
    if separated && !isFirst then skip
    if ← isNext [.flowSequenceEnd] then
      skip
      return []
    else if !separated then failure
    else
      let item ← flowItem fuel
      return item :: (← flowItems fuel false)

/-- An item of a sequence in brackets. It may be a mapping of a single key. -/
def flowItem : (fuel : Nat) → Build Node
  | 0 => failure
  | fuel + 1 => do
    if ← isNext [.key] then
      skip
      let isEmpty ← isNext [.value, .flowEntry, .flowSequenceEnd]
      if isEmpty then skip
      let key ← if isEmpty then pure .nothing else node fuel false false
      let value ← valueUnless fuel [.flowEntry, .flowSequenceEnd] false
      mapping [key, value]
    else node fuel false false

/-- The keys and values of a mapping in brackets. -/
def flowEntries : (fuel : Nat) → (isFirst : Bool) → Build (List Node)
  | 0, _ => failure
  | fuel + 1, isFirst => do
    let ends : List Token := [.value, .flowEntry, .flowMappingEnd]
    let separated ← if isFirst then pure true else isNext [.flowEntry]
    if separated && !isFirst then skip
    if ← isNext [.flowMappingEnd] then
      skip
      return []
    else if !separated then failure
    else
      let hasMark ← isNext [.key]
      let isKeyless ← isNext [.value]
      if hasMark then skip
      let key ←
        if hasMark then nodeUnless fuel ends false false
        else if isKeyless then pure .nothing
        else node fuel false false
      let value ←
        if hasMark || isKeyless then valueUnless fuel [.flowEntry, .flowMappingEnd] false
        else pure .nothing
      return key :: value :: (← flowEntries fuel false)

end

/-! ### Documents -/

/-- Passes the directives in front of a document. Only the last one counts. The version may be told
once. -/
def directives (versionTold : Bool) : List Token → Option (List (String × String) × List Token)
  | .versionDirective :: rest =>
    if versionTold then none
    else (directives true rest).map fun (handles, behind) => (handles, behind)
  | .tagDirective handle meaning :: rest =>
    match rest with
    | .versionDirective :: _ | .tagDirective _ _ :: _ => directives versionTold rest
    | _ => some ([(handle, meaning)], rest)
  | rest => some ([], rest)

/-- The builder in front of the tokens of a document. -/
def start (handles : List (String × String)) (tokens : List Token) : Builder :=
  { tokens, handles, anchors := [], nextAnchor := 0, complete := [] }

/-- The node of a document behind its mark, or nothing where another mark follows. -/
def content : Build Node := do
  let fuel := 4 * (← get).tokens.length + 4
  match ← peek with
  | some .documentStart | some .documentEnd | some .versionDirective | some (.tagDirective _ _)
  | none => return .nothing
  | some _ => node fuel true false

end Build

/-- The node of a document in some tokens, if there is one. A second document is refused. -/
def document? (tokens : List Token) : Option (Option Node) := do
  let tokens := tokens.dropWhile (· = .documentEnd)
  if tokens.isEmpty then return none
  else
    let (handles, behind) ← Build.directives false tokens
    let body ←
      match behind with
      | .documentStart :: body => some body
      | body => if body.length = tokens.length then some body else none
    let (node, builder) ← Build.content.run (Build.start handles body)
    if builder.tokens.all (· = .documentEnd) then return some node else failure

/-! ### Values -/

/-- The name that a key spells. -/
def Key.name? : Key → Option String
  | .int n => some (toString n)
  | .text name => some name
  | .other => none

mutual

/-- A node as a value of a configuration. A number without a value has none, and neither has a mapping
in which a key is no name. -/
def Node.value? : Node → Option Value
  | .unusable | .nothing => some .nothing
  | .flag value => some (.flag value)
  | .int n => some (.int n)
  | .float x => x.map Value.float
  | .text content => some (.text content)
  | .list items => (itemValues? items).map Value.list
  | .table entries => (entryValues? entries).map Value.ofFields

/-- Nodes as values of a configuration. -/
def itemValues? : List Node → Option (List Value)
  | [] => some []
  | item :: rest => do
    let first ← item.value?
    return first :: (← itemValues? rest)

/-- Entries as fields of a configuration. -/
def entryValues? : List (Key × Node) → Option (List (String × Value))
  | [] => some []
  | (key, node) :: rest => do
    let name ← key.name?
    let value ← node.value?
    return (name, value) :: (← entryValues? rest)

end

end Switchboard.Yaml
