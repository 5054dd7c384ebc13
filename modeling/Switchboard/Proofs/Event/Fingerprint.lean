/-
**What the fingerprint of an event identifies.**

An event that is made of a name and attributes carries a header that names it. So its name enters
the contents twice: with its capitals made small, and, as the value of that header, in the spelling
in which it was given. The attributes enter them as a bag (`bag`), in which their order and the case
of their keys do not count.

For two spellings that agree to the letter, equal fingerprints are equal bags. For two spellings
that differ in case, they are not: the fingerprints are equal exactly when either event has, as one
more attribute, the spelling of the other, and the bags agree but for these two
(`fingerprint_made_eq_iff`). All this is about events that do not collide.
-/

import Mathlib.Data.Multiset.AddSub
import Switchboard.Event.SipHash
import Switchboard.Proofs.Event.Copy

namespace Switchboard.Event

open Text

/-- Attributes without their order and with ASCII capitals of their keys made small. -/
def bag (attributes : List (String × String)) : Multiset (String × String) :=
  Multiset.ofList (attributes.map fun pair => (fold pair.1, pair.2))

@[simp]
theorem bag_nil : bag [] = 0 := rfl

@[simp]
theorem bag_cons (pair : String × String) (rest : List (String × String)) :
    bag (pair :: rest) = (fold pair.1, pair.2) ::ₘ bag rest := rfl

/-- An event of a name and attributes, as received at a time. -/
def made (name : String) (attributes : List (String × String)) (time : Timestamp) : Event :=
  (new name attributes).received time

/-- The header that names an event is one of those that its fingerprint counts. -/
theorem foldedPairs_made (name : String) (attributes : List (String × String)) (time : Timestamp) :
    Multiset.ofList (made name attributes time).foldedPairs = (fold key, name) ::ₘ bag attributes :=
  rfl

/-- What counts of a made event is its name without capitals, and its name as it is spelt among the
attributes. -/
theorem contents_made_eq (first second : String) (attributes others : List (String × String))
    (time later : Timestamp) :
    (made first attributes time).contents = (made second others later).contents ↔
      fold first = fold second ∧
        (fold key, first) ::ₘ bag attributes = (fold key, second) ::ₘ bag others := by
  rw [contents_eq_iff, ← foldedPairs_made first attributes time,
    ← foldedPairs_made second others later, Multiset.coe_eq_coe]
  rfl

/-- **What fingerprints identify.** The fingerprints of two events, each made of a name and
attributes, are equal exactly when the names are the same in any case and

* the names are spelt alike, and the attributes are the same up to their order and the case of
  their keys; or
* the names are spelt in two ways, either event has the spelling of the other as an attribute under
  the key that names an event, and the attributes are otherwise the same.

The times at which they were received do not matter. The two events are taken not to collide. -/
theorem fingerprint_made_eq_iff [Digest] (first second : String)
    (attributes others : List (String × String)) (time later : Timestamp)
    (apart : ¬Collide (made first attributes time) (made second others later)) :
    (made first attributes time).fingerprint = (made second others later).fingerprint ↔
      fold first = fold second ∧
        (first = second ∧ bag attributes = bag others ∨
          first ≠ second ∧ ∃ rest, bag attributes = (fold key, second) ::ₘ rest ∧
            bag others = (fold key, first) ::ₘ rest) := by
  rw [fingerprint_eq_iff apart, contents_made_eq, Multiset.cons_eq_cons]
  simp only [ne_eq, Prod.mk.injEq, true_and]

open scoped SipHash

/-- The hangup of a call, in two spellings of the name. -/
theorem fingerprint_made_eq_iff_spellings :
    let one := made "Hangup" [("Uniqueid", "1.1")] .epoch
    let two := made "HANGUP" [("Uniqueid", "1.1")] .epoch
    ¬Collide one two ∧
      (one.fingerprint = two.fingerprint ↔
        fold "Hangup" = fold "HANGUP" ∧
          ("Hangup" = "HANGUP" ∧ bag [("Uniqueid", "1.1")] = bag [("Uniqueid", "1.1")] ∨
            "Hangup" ≠ "HANGUP" ∧ ∃ rest,
              bag [("Uniqueid", "1.1")] = (fold key, "HANGUP") ::ₘ rest ∧
                bag [("Uniqueid", "1.1")] = (fold key, "Hangup") ::ₘ rest)) := by
  intro one two
  have apart : ¬Collide one two := by decide +kernel
  exact ⟨apart, fingerprint_made_eq_iff _ _ _ _ _ _ apart⟩

/-- A name in two spellings: with the same attributes the event has two fingerprints, and with
different attributes it may have one. -/
theorem fingerprint_counts_spelling :
    (fold "Hangup" = fold "HANGUP" ∧
      (made "Hangup" [("Uniqueid", "1.1")] .epoch).fingerprint ≠
        (made "HANGUP" [("Uniqueid", "1.1")] .epoch).fingerprint) ∧
    (bag [(key, "HANGUP")] ≠ bag [(key, "Hangup")] ∧
      (made "Hangup" [(key, "HANGUP")] .epoch).fingerprint =
        (made "HANGUP" [(key, "Hangup")] .epoch).fingerprint) := by
  have spelt : "Hangup" ≠ "HANGUP" := by decide
  have small : fold "Hangup" = "hangup" := by decide +kernel
  have named : fold "Hangup" = fold "HANGUP" := small.trans (by decide +kernel)
  refine ⟨⟨named, by decide +kernel⟩, ?_, congrArg Digest.of ?_⟩
  · simpa only [Ne, bag_cons, bag_nil, Multiset.cons_inj_left, Prod.mk.injEq, true_and]
      using spelt.symm
  · refine (contents_made_eq _ _ _ _ _ _).mpr ⟨named, ?_⟩
    exact Multiset.cons_swap (fold key, "Hangup") (fold key, "HANGUP") 0

end Switchboard.Event
