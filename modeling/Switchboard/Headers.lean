/-
**Header lists.**

Every block of the manager protocol is a list of `key: value` pairs. Keys are compared without
regard to the case of ASCII letters, keys may repeat, and the order of the pairs is kept.

* `get`: the first value under a key;
* `set`: replaces that value, or adds the pair at the end;
* `toMap`: a snapshot under the exact spellings of the keys, sorted by them.
-/

import Std.Data.TreeMap
import Switchboard.Text.Blank
import Switchboard.Text.Case

namespace Switchboard

open Text

/-- The pairs of a block, in the order in which they stand. -/
structure Headers where
  pairs : List (String × String)
  deriving DecidableEq, Repr, Inhabited

namespace Headers

/-- No pairs. -/
def empty : Headers := ⟨[]⟩

/-- The pairs with one more at the end. -/
def push (headers : Headers) (key value : String) : Headers :=
  ⟨headers.pairs ++ [(key, value)]⟩

/-- The first value under a key in a list of pairs. -/
def find? (key : String) : List (String × String) → Option String
  | [] => none
  | (k, v) :: rest => if sameName k key then some v else find? key rest

/-- The first value under a key. -/
def get (headers : Headers) (key : String) : Option String :=
  find? key headers.pairs

/-- The first value under a key, unless that value is blank. -/
def getNonBlank (headers : Headers) (key : String) : Option String :=
  (headers.get key).bind nonBlank?

/-- Whether some pair has the key. -/
def contains (headers : Headers) (key : String) : Bool :=
  (headers.get key).isSome

/-- A list of pairs with the first value under the key replaced, or with the pair added. -/
def replace (key value : String) : List (String × String) → List (String × String)
  | [] => [(key, value)]
  | (k, v) :: rest =>
    if sameName k key then (k, value) :: rest else (k, v) :: replace key value rest

/-- Gives the key its value: in the place and spelling of the first pair with that key, or at
the end. -/
def set (headers : Headers) (key value : String) : Headers :=
  ⟨replace key value headers.pairs⟩

/-- The number of pairs. -/
def size (headers : Headers) : Nat :=
  headers.pairs.length

/-- A snapshot under the exact spellings of the keys; of repeated spellings the first counts. -/
def toMap (headers : Headers) : Std.TreeMap String String :=
  headers.pairs.foldl (fun map pair => map.insertIfNew pair.1 pair.2) ∅

/-! ### Lookups -/

@[simp]
theorem get_empty (key : String) : empty.get key = none := rfl

/-- A pair added at the end is found exactly when no earlier pair has its key. -/
theorem find?_append (key : String) (first second : List (String × String)) :
    find? key (first ++ second) = (find? key first).or (find? key second) := by
  induction first with
  | nil => rfl
  | cons pair rest ih =>
    obtain ⟨k, v⟩ := pair
    simp only [List.cons_append, find?]
    split
    · rfl
    · exact ih

/-- What is found stands in the list, under some spelling of the key. -/
theorem mem_of_get {headers : Headers} {key value : String} (found : headers.get key = some value) :
    ∃ spelling, (spelling, value) ∈ headers.pairs := by
  obtain ⟨pairs⟩ := headers
  change find? key pairs = some value at found
  induction pairs with
  | nil => cases found
  | cons pair rest ih =>
    obtain ⟨k, v⟩ := pair
    rw [find?] at found
    split at found
    · cases found
      exact ⟨k, List.mem_cons_self⟩
    · obtain ⟨spelling, member⟩ := ih found
      exact ⟨spelling, List.mem_cons_of_mem _ member⟩

/-- What is set is what is found, under every spelling of the key. -/
theorem get_set_same (headers : Headers) (key value : String) {other : String}
    (same : sameName key other = true) : (headers.set key value).get other = some value := by
  obtain ⟨pairs⟩ := headers
  rw [sameName_iff] at same
  show find? other (replace key value pairs) = some value
  induction pairs with
  | nil => simp [replace, find?, sameName, same]
  | cons pair rest ih =>
    obtain ⟨k, v⟩ := pair
    simp only [replace]
    split
    · next equal => simp [find?, sameName, ← same, sameName_iff.1 equal]
    · next differ =>
      have : sameName k other = false := by
        simpa [sameName, ← same] using differ
      simp [find?, this, ih]

/-- Setting one key leaves what is found under the others. -/
theorem get_set_other (headers : Headers) (key value : String) {other : String}
    (differ : sameName key other = false) : (headers.set key value).get other = headers.get other := by
  obtain ⟨pairs⟩ := headers
  show find? other (replace key value pairs) = find? other pairs
  induction pairs with
  | nil => simp [replace, find?, differ]
  | cons pair rest ih =>
    obtain ⟨k, v⟩ := pair
    simp only [replace]
    split
    · next equal =>
      have : sameName k other = false := by
        simpa [sameName, sameName_iff.1 equal] using differ
      simp [find?, this]
    · simp only [find?, ih]

end Headers

end Switchboard
