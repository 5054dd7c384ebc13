/-
**Templates for channels.**

A template is a text with placeholders for the number to dial, `{destination_number}` or `{dest}`.
It is cut into the segments between its placeholders, from left to right, once; the destination is
put between them. So a placeholder in the destination itself stays as it is.

* `mentionsDestination`: whether there is a placeholder at all;
* `segments`: the texts between the placeholders;
* `render`: the template with a destination.
-/

import Switchboard.Error

namespace Switchboard.Template

/-- The placeholder. -/
def placeholder : String := "\x7bdestination_number\x7d"

/-- The short form of the placeholder. -/
def shortPlaceholder : String := "\x7bdest\x7d"

/-- Whether a pattern stands somewhere in a text. -/
def occursIn (pattern : List Char) : List Char → Bool
  | [] => pattern.isEmpty
  | c :: rest => pattern.isPrefixOf (c :: rest) || occursIn pattern rest

/-- Whether a template has a placeholder. -/
def mentionsDestination (template : String) : Bool :=
  occursIn placeholder.toList template.toList || occursIn shortPlaceholder.toList template.toList

/-- The length of the placeholder at the head of a text. -/
def placeholderAt? (text : List Char) : Option Nat :=
  if placeholder.toList.isPrefixOf text then some placeholder.length
  else if shortPlaceholder.toList.isPrefixOf text then some shortPlaceholder.length
  else none

/-- The segments of the rest of a text: `skip` characters belong to a placeholder already found,
and `segment` holds the present segment so far, last character first. -/
def segmentsFrom (skip : Nat) (segment : List Char) : List Char → List (List Char)
  | [] => [segment.reverse]
  | c :: rest =>
    match skip with
    | skip + 1 => segmentsFrom skip segment rest
    | 0 =>
      match placeholderAt? (c :: rest) with
      | some size => segment.reverse :: segmentsFrom (size - 1) [] rest
      | none => segmentsFrom 0 (c :: segment) rest

/-- The texts between the placeholders of a template. -/
def segments (template : List Char) : List (List Char) :=
  segmentsFrom 0 [] template

/-- The code of the fault that a template without a placeholder has. -/
def missingPlaceholderCode : String := "missing_destination_placeholder"

/-- The wording of that fault. -/
def missingPlaceholderMessage : String := "channel template must contain " ++ placeholder

/-- The template with a destination in place of each placeholder. -/
def render (template destination : String) : Except BridgeError String :=
  if mentionsDestination template then
    .ok (String.ofList (destination.toList.intercalate (segments template.toList)))
  else
    .error (.validation ("channel template '" ++ template ++ "' must contain " ++ placeholder))

end Switchboard.Template
