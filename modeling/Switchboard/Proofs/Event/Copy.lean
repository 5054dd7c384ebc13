/-
**Copies of an event have its fingerprint.**

A copy of an event names it and carries its headers, in any order, with any case of the keys and at
any time. The contents sort the folded headers, and the order of pairs is linear, so a list of pairs
has one sorted arrangement only: copies have the same contents, and events of the same contents
differ in nothing else (`contents_eq_iff`). So they agree on the value of a key that stands once
(`get_of_contents`).

Copies have one fingerprint, whatever the digest (`IsCopy.fingerprint`). Events of one fingerprint
have the same contents unless they collide (`contents_of_fingerprint`). No digest of 64 bits is free
of collisions, so it is asked of the events at hand that they do not.
-/

import Mathlib.Data.List.Sort
import Mathlib.Data.String.Basic
import Switchboard.Event

namespace Switchboard

open Text

/-! ### The order of pairs -/

theorem pairLe_iff {first second : String × String} :
    pairLe first second = true ↔
      first.1 < second.1 ∨ first.1 = second.1 ∧ first.2 ≤ second.2 := by
  unfold pairLe
  rw [Bool.or_eq_true, decide_eq_true_iff, Bool.and_eq_true, beq_iff_eq, decide_eq_true_iff]

theorem pairLe_trans (first second third : String × String)
    (left : pairLe first second = true) (right : pairLe second third = true) :
    pairLe first third = true := by
  rw [pairLe_iff] at left right ⊢
  rcases left with less | ⟨same, le⟩
  · rcases right with more | ⟨equal, -⟩
    · exact .inl (lt_trans less more)
    · exact .inl (equal ▸ less)
  · rcases right with more | ⟨equal, further⟩
    · exact .inl (same ▸ more)
    · exact .inr ⟨same.trans equal, le_trans le further⟩

theorem pairLe_total (first second : String × String) :
    (pairLe first second || pairLe second first) = true := by
  rw [Bool.or_eq_true, pairLe_iff, pairLe_iff]
  rcases lt_trichotomy first.1 second.1 with less | same | greater
  · exact .inl (.inl less)
  · exact (le_total first.2 second.2).imp (fun le => .inr ⟨same, le⟩)
      fun le => .inr ⟨same.symm, le⟩
  · exact .inr (.inl greater)

theorem pairLe_antisymm {first second : String × String} (left : pairLe first second = true)
    (right : pairLe second first = true) : first = second := by
  rw [pairLe_iff] at left right
  rcases left with less | ⟨same, le⟩
  · rcases right with more | ⟨equal, -⟩
    · exact absurd (lt_trans less more) (lt_irrefl _)
    · exact absurd less (equal ▸ lt_irrefl _)
  · rcases right with more | ⟨-, back⟩
    · exact absurd more (same ▸ lt_irrefl _)
    · exact Prod.ext same (le_antisymm le back)

/-- Whether a pair stands before another, or is the same. -/
abbrev PairLe (first second : String × String) : Prop :=
  pairLe first second = true

instance : IsTrans (String × String) PairLe := ⟨pairLe_trans⟩

instance : Std.Total PairLe :=
  ⟨fun first second => Bool.or_eq_true_iff.mp (pairLe_total first second)⟩

instance : Std.Antisymm PairLe := ⟨fun _ _ => pairLe_antisymm⟩

theorem insertPair_eq (pair : String × String) (pairs : List (String × String)) :
    insertPair pair pairs = pairs.orderedInsert PairLe pair := by
  induction pairs with
  | nil => rfl
  | cons first rest ih => rw [insertPair, List.orderedInsert_cons, ih]

theorem sortPairs_eq (pairs : List (String × String)) :
    sortPairs pairs = pairs.insertionSort PairLe := by
  induction pairs with
  | nil => rfl
  | cons pair rest ih =>
    rw [List.insertionSort_cons, ← ih, ← insertPair_eq]
    rfl

/-- Pairs have one sorted arrangement, whatever the order in which they come. -/
theorem sortPairs_eq_iff {first second : List (String × String)} :
    sortPairs first = sortPairs second ↔ first.Perm second := by
  rw [sortPairs_eq, sortPairs_eq]
  constructor
  · intro same
    exact (List.perm_insertionSort PairLe first).symm.trans
      (same ▸ List.perm_insertionSort PairLe second)
  · intro perm
    exact (((List.perm_insertionSort PairLe first).trans perm).trans
      (List.perm_insertionSort PairLe second).symm).eq_of_pairwise'
      (List.pairwise_insertionSort PairLe first) (List.pairwise_insertionSort PairLe second)

/-! ### Copies -/

namespace Event

/-- The headers with ASCII capitals of the keys made small. -/
def foldedPairs (event : Event) : List (String × String) :=
  event.headers.pairs.map fun pair => (fold pair.1, pair.2)

/-- Whether an event is the original or a copy of it: the same name, and the same headers up to
their order and the case of their keys. The time of arrival does not matter. -/
def IsCopy (original copy : Event) : Prop :=
  copy.name = original.name ∧ copy.foldedPairs.Perm original.foldedPairs

/-- Events of the same contents differ in the case of the name, the order of the headers, the case
of their keys and the time of arrival at most. -/
theorem contents_eq_iff {first second : Event} :
    first.contents = second.contents ↔
      fold first.name = fold second.name ∧ first.foldedPairs.Perm second.foldedPairs := by
  unfold contents
  rw [Contents.mk.injEq, sortPairs_eq_iff]
  rfl

theorem IsCopy.contents {original copy : Event} (copies : IsCopy original copy) :
    copy.contents = original.contents :=
  contents_eq_iff.mpr ⟨congrArg fold copies.1, copies.2⟩

theorem IsCopy.fingerprint [Digest] {original copy : Event} (copies : IsCopy original copy) :
    copy.fingerprint = original.fingerprint :=
  congrArg Digest.of copies.contents

/-! ### Collisions -/

/-- Whether two events have one fingerprint, though their contents differ. -/
def Collide [Digest] (first second : Event) : Prop :=
  first.fingerprint = second.fingerprint ∧ first.contents ≠ second.contents

instance [Digest] (first second : Event) : Decidable (Collide first second) :=
  inferInstanceAs (Decidable (_ ∧ _))

/-- Whether no two of these events collide. -/
def NoCollision [Digest] (events : List Event) : Prop :=
  ∀ first ∈ events, ∀ second ∈ events, ¬Collide first second

instance [Digest] (events : List Event) : Decidable (NoCollision events) :=
  inferInstanceAs (Decidable (∀ first ∈ events, ∀ second ∈ events, ¬Collide first second))

theorem contents_of_fingerprint [Digest] {first second : Event} (apart : ¬Collide first second)
    (same : first.fingerprint = second.fingerprint) : first.contents = second.contents :=
  Decidable.byContradiction fun differ => apart ⟨same, differ⟩

/-- Events that do not collide have one fingerprint exactly when they have the same contents. -/
theorem fingerprint_eq_iff [Digest] {first second : Event} (apart : ¬Collide first second) :
    first.fingerprint = second.fingerprint ↔ first.contents = second.contents :=
  ⟨contents_of_fingerprint apart, congrArg Digest.of⟩

/-! ### Keys that stand once -/

/-- The folded headers under a key. -/
def foldedUnder (event : Event) (key : String) : List (String × String) :=
  event.foldedPairs.filter (·.1 == fold key)

/-- Whether at most one header has the key, in any case. -/
def HasAtMostOne (event : Event) (key : String) : Prop :=
  (event.headers.pairs.filter fun pair => sameName pair.1 key).length ≤ 1

theorem foldedUnder_eq (event : Event) (key : String) :
    event.foldedUnder key =
      (event.headers.pairs.filter fun pair => sameName pair.1 key).map
        fun pair => (fold pair.1, pair.2) :=
  List.filter_map

/-- The first value under a key is the first one among the folded headers. -/
theorem get_eq_head? (event : Event) (key : String) :
    event.headers.get key = (event.foldedUnder key).head?.map Prod.snd := by
  rw [foldedUnder_eq, List.head?_map, Option.map_map]
  unfold Headers.get
  induction event.headers.pairs with
  | nil => rfl
  | cons pair rest ih =>
    rw [Headers.find?, List.filter_cons]
    split
    · rfl
    · exact ih

/-- What an event has under a key that stands once is told by its contents. -/
theorem get_of_contents {first second : Event} {key : String}
    (same : first.contents = second.contents) (once : first.HasAtMostOne key) :
    first.headers.get key = second.headers.get key := by
  have perm : (first.foldedUnder key).Perm (second.foldedUnder key) :=
    (contents_eq_iff.mp same).2.filter _
  have short : (first.foldedUnder key).length ≤ 1 := by
    rw [foldedUnder_eq, List.length_map]
    exact once
  rw [get_eq_head?, get_eq_head?]
  match first.foldedUnder key, perm, short with
  | [], perm, _ => rw [perm.nil_eq]
  | [pair], perm, _ => rw [List.singleton_perm.mp perm]

end Event

end Switchboard
