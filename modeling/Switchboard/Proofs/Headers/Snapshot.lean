/-
**When the snapshot of a header list says what a look-up finds.**

A header list is built call by call (`Call`, `built`), and both views of it can be told from the
calls. A look-up finds the value that was set last under a key, or the first one that was pushed
where none was set: `get_built`. The snapshot keeps the spellings of a key apart. Of the spelling in
which a key first came up it says what is found; of any other it says the first value that was
pushed under exactly that spelling, whatever was set since: `getElem?_toMap_built`. So the two may
differ, and `snapshot_agrees_iff` tells when they do.
-/

import Mathlib
import Switchboard.Proofs.Action.Building

namespace Switchboard.Headers

open Text

/-! ### The spelling in which a key comes up -/

/-- The spelling of a key that comes first among keys. -/
def firstSpelling? (key : String) (keys : List String) : Option String :=
  keys.find? fun other => sameName other key

section Pairs

variable {key other : String} {pairs : List (String × String)}

theorem firstSpelling?_concat (key other : String) (keys : List String) :
    firstSpelling? key (keys ++ [other]) =
      (firstSpelling? key keys).or (if sameName other key then some other else none) := by
  unfold firstSpelling?
  rw [List.find?_append, List.find?_singleton]

theorem sameName_of_firstSpelling? {keys : List String}
    (first : firstSpelling? key keys = some other) : sameName other key = true :=
  List.find?_some (p := fun other => sameName other key) first

theorem firstSpelling?_congr (same : sameName key other = true) (keys : List String) :
    firstSpelling? key keys = firstSpelling? other keys := by
  unfold firstSpelling?
  simp only [sameName, sameName_iff.mp same]

/-- Where a key comes up in some spelling it has a first one. -/
theorem firstSpelling?_isSome {keys : List String} (among : keys.any (sameName · key) = true) :
    (firstSpelling? key keys).isSome = true := by
  unfold firstSpelling?
  rwa [List.find?_isSome, ← List.any_eq_true]

/-- Setting a value brings a key up as pushing it would. -/
theorem firstSpelling?_replace (key other value : String) (pairs : List (String × String)) :
    firstSpelling? key ((replace other value pairs).map Prod.fst) =
      firstSpelling? key (pairs.map Prod.fst ++ [other]) := by
  rw [keys_replace]
  split
  · next among =>
    rw [List.append_nil, firstSpelling?_concat]
    split
    · next same =>
      have known : (pairs.map Prod.fst).any (sameName · key) = true := by
        simpa only [sameName, sameName_iff.mp same] using among
      rw [Option.or_of_isSome (firstSpelling?_isSome known)]
    · rw [Option.or_none]
  · rfl

/-- Under the spelling in which a key first came up stands what a look-up finds. -/
theorem lookup_eq_find? (first : firstSpelling? key (pairs.map Prod.fst) = some key) :
    pairs.lookup key = find? key pairs := by
  induction pairs with
  | nil => rfl
  | cons pair rest ih =>
    unfold firstSpelling? at first
    rw [List.map_cons, List.find?_cons] at first
    rw [List.lookup_cons, find?]
    cases same : sameName pair.1 key with
    | true =>
      rw [same, Option.some_inj] at first
      rw [first, beq_self_eq_true, if_pos rfl]
    | false =>
      have differ : (key == pair.1) = false := by
        rw [beq_eq_false_iff_ne]
        rintro rfl
        rw [sameName_refl] at same
        cases same
      rw [same] at first
      rw [differ, if_neg Bool.false_ne_true]
      exact ih first

/-- Setting a value leaves what stands under a spelling that is not the first of its key. -/
theorem lookup_replace {value : String}
    (behind : firstSpelling? other ((replace other value pairs).map Prod.fst) ≠ some key) :
    (replace other value pairs).lookup key = pairs.lookup key := by
  induction pairs with
  | nil =>
    have differ : (key == other) = false := by
      rw [beq_eq_false_iff_ne]
      rintro rfl
      exact behind (by simp [replace, firstSpelling?])
    rw [replace, List.lookup_cons, differ]
  | cons pair rest ih =>
    unfold firstSpelling? at behind
    rw [replace] at behind ⊢
    cases same : sameName pair.1 other with
    | true =>
      rw [same, if_pos rfl, List.map_cons, List.find?_cons, same] at behind
      have differ : (key == pair.1) = false := by
        rw [beq_eq_false_iff_ne]
        rintro rfl
        exact behind rfl
      rw [if_pos rfl, List.lookup_cons, List.lookup_cons, differ]
    | false =>
      rw [same, if_neg Bool.false_ne_true, List.map_cons, List.find?_cons, same] at behind
      rw [if_neg Bool.false_ne_true, List.lookup_cons, List.lookup_cons, ih behind]

end Pairs

/-- The snapshot says of each spelling the first value that stands under exactly that spelling. -/
theorem getElem?_toMap (headers : Headers) (key : String) :
    headers.toMap[key]? = headers.pairs.lookup key := by
  -- The map is generalized: what it says already stays, and the list says the rest.
  have onto (pairs : List (String × String)) (map : Std.TreeMap String String) :
      (pairs.foldl (fun map pair => map.insertIfNew pair.1 pair.2) map)[key]? =
        map[key]?.or (pairs.lookup key) := by
    induction pairs generalizing map with
    | nil => exact Option.or_none.symm
    | cons pair rest ih =>
      rw [List.foldl_cons, ih, Std.TreeMap.getElem?_insertIfNew, List.lookup_cons]
      by_cases own : key = pair.1
      · subst own
        rw [beq_self_eq_true]
        by_cases known : pair.1 ∈ map
        · have found := Std.TreeMap.mem_iff_isSome_getElem?.mp known
          rw [if_neg fun both => both.2 known, Option.or_of_isSome found, Option.or_of_isSome found]
        · have absent := Std.TreeMap.getElem?_eq_none known
          rw [if_pos ⟨Std.compare_self, known⟩, absent]
          rfl
      · have differ : compare pair.1 key ≠ .eq := fun same =>
          own (Std.LawfulEqOrd.eq_of_compare same).symm
        rw [if_neg fun both => differ both.1, beq_false_of_ne own]
  exact (onto headers.pairs ∅).trans (by rw [Std.TreeMap.getElem?_emptyc, Option.none_or])

/-! ### Calls -/

/-- A call that adds to a header list. -/
inductive Call where
  | push (key value : String)
  | set (key value : String)
  deriving DecidableEq, Repr

namespace Call

/-- The key that a call names. -/
def key : Call → String
  | push key _ | set key _ => key

/-- The pair that a call pushes. -/
def pushed? : Call → Option (String × String)
  | push key value => some (key, value)
  | set _ _ => none

/-- The key and the value that a call sets. -/
def set? : Call → Option (String × String)
  | push _ _ => none
  | set key value => some (key, value)

end Call

/-- A header list after one more call. -/
def after (headers : Headers) : Call → Headers
  | .push key value => headers.push key value
  | .set key value => headers.set key value

/-- The header list that calls make, one after the other. -/
def built (calls : List Call) : Headers :=
  calls.foldl after empty

/-- The pairs that calls push, in order. -/
def pushes (calls : List Call) : List (String × String) :=
  calls.filterMap Call.pushed?

/-- The keys and the values that calls set, in order. -/
def sets (calls : List Call) : List (String × String) :=
  calls.filterMap Call.set?

/-- What calls leave under a key: the value that was set last, or else the first that was pushed. -/
def left? (key : String) (calls : List Call) : Option String :=
  (lastGiven? key (sets calls)).or (find? key (pushes calls))

section Calls

variable {calls : List Call} {key : String}

theorem built_concat (calls : List Call) (call : Call) :
    built (calls ++ [call]) = (built calls).after call :=
  List.foldl_concat _ _ _ _

theorem pushes_concat (calls : List Call) (call : Call) :
    pushes (calls ++ [call]) = pushes calls ++ call.pushed?.toList := by
  cases call <;> simp [pushes, Call.pushed?]

theorem sets_concat (calls : List Call) (call : Call) :
    sets (calls ++ [call]) = sets calls ++ call.set?.toList := by
  cases call <;> simp [sets, Call.set?]

/-- A key comes up in a header list as it came up in the calls. -/
theorem firstSpelling?_built (key : String) (calls : List Call) :
    firstSpelling? key ((built calls).pairs.map Prod.fst) =
      firstSpelling? key (calls.map Call.key) := by
  induction calls using List.reverseRecOn with
  | nil => rfl
  | append_singleton calls call ih =>
    rw [built_concat, List.map_append, List.map_singleton, firstSpelling?_concat, ← ih,
      ← firstSpelling?_concat]
    cases call with
    | push other value =>
      rw [after, push, List.map_append]
      rfl
    | set other value => exact firstSpelling?_replace key other value _

/-- **A look-up finds the value that was set last, or else the first that was pushed.** -/
theorem get_built (key : String) (calls : List Call) : (built calls).get key = left? key calls := by
  induction calls using List.reverseRecOn with
  | nil => rfl
  | append_singleton calls call ih =>
    rw [built_concat, left?, sets_concat, pushes_concat]
    cases call with
    | push other value =>
      calc ((built calls).push other value).get key
          = ((built calls).get key).or (find? key [(other, value)]) := find?_append _ _ _
        _ = _ := by
          rw [ih, left?, Option.or_assoc, ← find?_append, Call.set?, Option.toList_none,
            List.append_nil]
          rfl
    | set other value =>
      rw [Call.set?, Call.pushed?, Option.toList_some, Option.toList_none, List.append_nil,
        lastGiven?_concat]
      cases same : sameName other key with
      | true => exact get_set_same _ _ _ same
      | false => exact (get_set_other _ _ _ same).trans ih

/-- Under a spelling that is not the first of its key stands what was pushed under it first. -/
theorem lookup_built_of_behind (behind : firstSpelling? key (calls.map Call.key) ≠ some key) :
    (built calls).pairs.lookup key = (pushes calls).lookup key := by
  induction calls using List.reverseRecOn with
  | nil => rfl
  | append_singleton calls call ih =>
    have before : firstSpelling? key (calls.map Call.key) ≠ some key := by
      intro first
      rw [List.map_append, List.map_singleton, firstSpelling?_concat, first] at behind
      exact behind rfl
    rw [built_concat, pushes_concat]
    cases call with
    | push other value =>
      rw [after, push, List.lookup_append, List.lookup_append, ih before]
      rfl
    | set other value =>
      rw [Call.pushed?, Option.toList_none, List.append_nil, ← ih before]
      -- What is set is the first pair of its key, which is not under this spelling.
      refine lookup_replace fun first => behind ?_
      rw [← firstSpelling?_built, built_concat,
        firstSpelling?_congr (sameName_of_firstSpelling? first)]
      exact first

/-- **What the snapshot says of a spelling**: what a look-up finds if the key first came up so, and
else what was first pushed under exactly this spelling. -/
theorem getElem?_toMap_built (key : String) (calls : List Call) :
    (built calls).toMap[key]? =
      if firstSpelling? key (calls.map Call.key) = some key then left? key calls
      else (pushes calls).lookup key := by
  rw [getElem?_toMap]
  split
  · next first =>
    rw [← firstSpelling?_built] at first
    exact (lookup_eq_find? first).trans (get_built key calls)
  · next behind => exact lookup_built_of_behind behind

end Calls

/-- **When the snapshot says what a look-up finds.** Whatever the calls, what the snapshot says of a
spelling is what a look-up under it finds exactly when the key first came up in that spelling, or
when nothing was pushed under that spelling but what the calls leave under the key. -/
theorem snapshot_agrees_iff (calls : List Call) (key : String) :
    let headers := built calls
    (key ∈ headers.toMap → headers.toMap[key]? = headers.get key) ↔
      firstSpelling? key (calls.map Call.key) = some key ∨
        ∀ value, (pushes calls).lookup key = some value → left? key calls = some value := by
  intro headers
  have said : headers.toMap[key]? = _ := getElem?_toMap_built key calls
  rw [Std.TreeMap.mem_iff_isSome_getElem?, said, get_built]
  split
  · next first => exact iff_of_true (fun _ => rfl) (.inl first)
  · next behind =>
    rw [or_iff_right behind]
    cases (pushes calls).lookup key with
    | none => exact iff_of_true nofun nofun
    | some value =>
      simp only [Option.isSome_some, forall_const, Option.some_inj, forall_eq', eq_comm]

/-- A key that is pushed in two spellings. -/
def respelt : List Call := [.push "Variable" "a=1", .push "variable" "b=2"]

/-- **A snapshot that contradicts the look-up.** -/
theorem snapshot_contradicts_get :
    (built respelt).toMap["variable"]? = some "b=2" ∧
      (built respelt).get "variable" = some "a=1" := by
  rw [getElem?_toMap]
  exact ⟨by decide, by cbv⟩

end Switchboard.Headers
