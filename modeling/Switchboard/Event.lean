/-
**Events: what the switch reports on its own.**

A block with an `Event` key reports that something happened. The event keeps all of its headers,
the `Event` line included, and the time at which it arrived.

Two deliveries of one event may differ in the order of their headers and in the case of the keys.
`Event.contents` is what they have in common: the name and the pairs with ASCII capitals of the
name and the keys made small, the pairs sorted. `Event.fingerprint` is a digest of it, a word of 64
bits. Which digest is used is a parameter (`Digest`): equal contents have equal fingerprints, and
what follows from equal fingerprints depends on the digest.
-/

import Switchboard.Headers
import Switchboard.Time.Timestamp

namespace Switchboard

open Text

/-- A report of the switch. -/
structure Event where
  name : String
  headers : Headers
  receivedAt : Timestamp
  deriving DecidableEq, Repr

/-- The content of an event up to the order of its headers and the case of their keys. -/
structure Contents where
  name : String
  pairs : List (String × String)
  deriving DecidableEq, Repr

/-- What stands for the contents of an event where events are compared. -/
abbrev Fingerprint := UInt64

/-- How contents are digested. -/
class Digest where
  of : Contents → Fingerprint

/-- The order of pairs by key, then by value. -/
def pairLe (first second : String × String) : Bool :=
  first.1 < second.1 || (first.1 == second.1 && first.2 ≤ second.2)

/-- Pairs in order with one more of them, where it belongs. -/
def insertPair (pair : String × String) : List (String × String) → List (String × String)
  | [] => [pair]
  | first :: rest =>
    if pairLe pair first then pair :: first :: rest else first :: insertPair pair rest

/-- Pairs brought in order. -/
def sortPairs (pairs : List (String × String)) : List (String × String) :=
  pairs.foldr insertPair []

namespace Event

/-- The key that makes a block an event. -/
def key : String := "Event"

/-- An event with the given attributes, after a line that names it. -/
def new (name : String) (attributes : List (String × String)) : Event :=
  { name, headers := ⟨(key, name) :: attributes⟩, receivedAt := Timestamp.epoch }

/-- The event that a header list spells, if it names one. -/
def ofHeaders? (headers : Headers) : Option Event :=
  (headers.getNonBlank key).map fun name =>
    { name := trim name, headers, receivedAt := Timestamp.epoch }

/-- The event as received at a given time. -/
def received (event : Event) (time : Timestamp) : Event :=
  { event with receivedAt := time }

/-- Whether this is the name of the event, in any case. -/
def isNamed (event : Event) (name : String) : Bool :=
  sameName event.name name

/-- The first value under a key. -/
def header (event : Event) (key : String) : Option String :=
  event.headers.get key

/-- The identifier of the channel, which is what ties the events of one call together. -/
def uniqueId (event : Event) : Option String :=
  event.headers.getNonBlank "Uniqueid"

/-- The number of the caller. -/
def callerNumber (event : Event) : Option String :=
  event.headers.getNonBlank "CallerIDNum"

/-- The name of the caller. -/
def callerName (event : Event) : Option String :=
  event.headers.getNonBlank "CallerIDName"

/-- The channel. -/
def channel (event : Event) : Option String :=
  event.headers.getNonBlank "Channel"

/-- The content up to the order of the headers and the case of name and keys. -/
def contents (event : Event) : Contents :=
  { name := fold event.name
    pairs := sortPairs (event.headers.pairs.map fun pair => (fold pair.1, pair.2)) }

/-- The digest of the contents. -/
def fingerprint [Digest] (event : Event) : Fingerprint :=
  Digest.of event.contents

/-- A line for logs. -/
def describe (event : Event) : String :=
  "AmiEvent \x7b Event: " ++ event.name
    ++ (match event.uniqueId with
      | some id => ", Uniqueid: " ++ id
      | none => "")
    ++ (match event.callerNumber with
      | some number => ", CallerIDNum: " ++ number
      | none => "")
    ++ ", Headers: " ++ toString event.headers.size ++ " \x7d"

end Event

end Switchboard
