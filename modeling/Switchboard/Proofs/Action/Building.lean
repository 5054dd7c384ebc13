/-
**What the calls that build an action amount to.**

An action is built call by call (`Call`, `built`). Its parameters can be told from the calls alone:
one for each name that was given, where the name was first given and as it was first spelt
(`firstSpellings`), with the value that was given last (`lastGiven?`). A value under the key of the
identifier is none of them: it is the identifier, by whichever call it comes (`params_as_given`).
-/

import Mathlib
import Switchboard.Action

namespace Switchboard

open Text

/-! ### Names in the order in which they come up -/

/-- The first spelling of each name among keys, in order. -/
def firstSpellings : List String → List String
  | [] => []
  | key :: rest => key :: (firstSpellings rest).filter fun other => !sameName key other

/-- The value that was given last under a key, in whatever spelling. -/
def lastGiven? (key : String) (given : List (String × String)) : Option String :=
  (given.reverse.find? fun pair => sameName pair.1 key).map Prod.snd

section Names

variable {keys : List String} {given pairs : List (String × String)}

theorem mem_of_mem_firstSpellings {key : String} (member : key ∈ firstSpellings keys) :
    key ∈ keys := by
  induction keys with
  | nil => exact member
  | cons first rest ih =>
    rcases List.mem_cons.mp member with rfl | later
    · exact List.mem_cons_self
    · exact List.mem_cons_of_mem _ (ih (List.mem_filter.mp later).1)

/-- Each name comes up once among the first spellings. -/
theorem pairwise_firstSpellings (keys : List String) :
    (firstSpellings keys).Pairwise fun first second => sameName first second = false := by
  induction keys with
  | nil => exact .nil
  | cons key rest ih =>
    refine .cons (fun other member => ?_) (ih.filter _)
    simpa using (List.mem_filter.mp member).2

/-- A name is among the first spellings exactly when it is among the keys. -/
theorem any_firstSpellings (keys : List String) (key : String) :
    (firstSpellings keys).any (sameName · key) = keys.any (sameName · key) := by
  induction keys with
  | nil => rfl
  | cons first rest ih =>
    rw [firstSpellings, List.any_cons, List.any_cons, ← ih]
    cases named : sameName first key with
    | true => rfl
    | false =>
      have same : (fun other => !sameName first other && sameName other key) =
          (sameName · key) := by
        funext other
        cases same : sameName other key with
        | false => exact Bool.and_false _
        | true =>
          have apart : sameName first other = false := by
            rw [sameName, sameName_iff.mp same]
            exact named
          rw [apart]
          rfl
      rw [List.any_filter, same]

/-- One more key adds a first spelling exactly when its name is new. -/
theorem firstSpellings_concat (keys : List String) (key : String) :
    firstSpellings (keys ++ [key]) =
      firstSpellings keys ++ if keys.any (sameName · key) then [] else [key] := by
  induction keys with
  | nil => rfl
  | cons first rest ih =>
    rw [List.cons_append, firstSpellings, firstSpellings, ih, List.filter_append, List.any_cons,
      List.cons_append]
    generalize rest.any (sameName · key) = known
    cases named : sameName first key <;> cases known <;> simp [named]

/-- Setting a value leaves the keys that are there, and adds one whose name is new. -/
theorem keys_replace (key value : String) (pairs : List (String × String)) :
    (Headers.replace key value pairs).map Prod.fst =
      pairs.map Prod.fst ++
        if (pairs.map Prod.fst).any (sameName · key) then [] else [key] := by
  induction pairs with
  | nil => rfl
  | cons pair rest ih =>
    rw [Headers.replace, List.map_cons, List.any_cons]
    cases sameName pair.1 key with
    | true => simp
    | false =>
      rw [if_neg Bool.false_ne_true, List.map_cons, ih, Bool.false_or]
      rfl

/-- Where each name stands once, a pair is found under its key. -/
theorem find?_of_mem {pair : String × String}
    (once : (pairs.map Prod.fst).Pairwise fun first second => sameName first second = false)
    (member : pair ∈ pairs) : Headers.find? pair.1 pairs = some pair.2 := by
  induction pairs with
  | nil => cases member
  | cons first rest ih =>
    obtain ⟨apart, once⟩ := List.pairwise_cons.mp once
    rw [Headers.find?]
    rcases List.mem_cons.mp member with rfl | later
    · exact if_pos (sameName_refl _)
    · rw [apart pair.1 (List.mem_map_of_mem later)]
      exact ih once later

theorem lastGiven?_concat (key : String) (given : List (String × String))
    (pair : String × String) :
    lastGiven? key (given ++ [pair]) =
      if sameName pair.1 key then some pair.2 else lastGiven? key given := by
  unfold lastGiven?
  rw [List.reverse_concat, List.find?_cons]
  cases sameName pair.1 key <;> rfl

end Names

namespace Action

/-! ### Calls -/

/-- A call that adds to an action. -/
inductive Call where
  | param (key value : String)
  | paramOpt (key : String) (value : Option String)
  | withActionId (id : String)
  deriving DecidableEq, Repr

namespace Call

/-- The key and the value that a call gives, if it gives any. -/
def pair? : Call → Option (String × String)
  | param key value => some (key, value)
  | paramOpt key value => value.map fun value => (key, value)
  | withActionId id => some (idKey, id)

/-- The parameter that a call gives. -/
def param? (call : Call) : Option (String × String) :=
  call.pair?.filter fun pair => !sameName pair.1 idKey

/-- The identifier that a call gives. -/
def id? (call : Call) : Option String :=
  (call.pair?.filter fun pair => sameName pair.1 idKey).map Prod.snd

end Call

/-- The parameters that calls give, in order. -/
def given (calls : List Call) : List (String × String) :=
  calls.filterMap Call.param?

/-- The identifiers that calls give, in order. -/
def givenIds (calls : List Call) : List String :=
  calls.filterMap Call.id?

/-- An action after one more call. -/
def after (action : Action) : Call → Action
  | .param key value => action.param key value
  | .paramOpt key value => action.paramOpt key value
  | .withActionId id => action.withActionId id

/-- A new action after calls, one after the other. -/
def built (name : String) (calls : List Call) : Action :=
  calls.foldl after (new name)

/-! ### One call -/

/-- Whichever the call, what it gives is given under its key. -/
theorem after_eq (action : Action) (call : Call) :
    action.after call = call.pair?.elim action fun pair => action.param pair.1 pair.2 := by
  cases call with
  | param => rfl
  | paramOpt _ value => cases value <;> rfl
  | withActionId => exact (if_pos (sameName_refl idKey)).symm

theorem params_after (action : Action) (call : Call) :
    (action.after call).params =
      call.param?.elim action.params fun pair => action.params.set pair.1 pair.2 := by
  rw [after_eq, Call.param?]
  cases call.pair? with
  | none => rfl
  | some pair =>
    rw [Option.elim_some, Option.filter_some, param]
    cases sameName pair.1 idKey <;> rfl

theorem actionId_after (action : Action) (call : Call) :
    (action.after call).actionId = call.id?.or action.actionId := by
  rw [after_eq, Call.id?]
  cases call.pair? with
  | none => rfl
  | some pair =>
    rw [Option.elim_some, Option.filter_some, param]
    cases sameName pair.1 idKey <;> rfl

/-- A call that gives the identifier gives nothing else. -/
theorem after_of_id (action : Action) {call : Call} {id : String} (gives : call.id? = some id) :
    action.after call = { action with actionId := some id } := by
  obtain ⟨pair, filtered, rfl⟩ := Option.map_eq_some_iff.mp gives
  obtain ⟨given, isId⟩ := Option.filter_eq_some_iff.mp filtered
  rw [after_eq, given, Option.elim_some, param, if_pos isId]
  rfl

theorem Call.notId_of_param {call : Call} {pair : String × String}
    (gives : call.param? = some pair) : sameName pair.1 idKey = false := by
  simpa using (Option.filter_eq_some_iff.mp gives).2

/-! ### Calls one after the other -/

theorem built_concat (name : String) (calls : List Call) (call : Call) :
    built name (calls ++ [call]) = (built name calls).after call :=
  List.foldl_concat _ _ _ _

theorem given_concat (calls : List Call) (call : Call) :
    given (calls ++ [call]) = given calls ++ call.param?.toList := by
  unfold given
  rw [List.filterMap_append, List.filterMap_cons]
  cases call.param? <;> rfl

/-- The parameters stand where each name was first given, as it was first spelt. -/
theorem keys_built (name : String) (calls : List Call) :
    (built name calls).params.pairs.map Prod.fst =
      firstSpellings ((given calls).map Prod.fst) := by
  induction calls using List.reverseRecOn with
  | nil => rfl
  | append_singleton calls call ih =>
    rw [built_concat, params_after, given_concat]
    cases call.param? with
    | none =>
      rw [Option.toList_none, List.append_nil]
      exact ih
    | some pair =>
      rw [Option.toList_some, List.map_append, List.map_singleton, firstSpellings_concat, ← ih]
      have known := any_firstSpellings ((given calls).map Prod.fst) pair.1
      rw [← ih] at known
      rw [← known]
      exact keys_replace pair.1 pair.2 _

/-- What is found under a key is what was given last under it. -/
theorem paramValue_built (name : String) (calls : List Call) (key : String) :
    (built name calls).paramValue key = lastGiven? key (given calls) := by
  induction calls using List.reverseRecOn with
  | nil => rfl
  | append_singleton calls call ih =>
    unfold paramValue at *
    rw [built_concat, params_after, given_concat]
    cases call.param? with
    | none =>
      rw [Option.toList_none, List.append_nil]
      exact ih
    | some pair =>
      rw [Option.toList_some, lastGiven?_concat, Option.elim_some]
      cases same : sameName pair.1 key with
      | true => exact Headers.get_set_same _ _ _ same
      | false => exact (Headers.get_set_other _ _ _ same).trans ih

theorem actionId_built (name : String) (calls : List Call) :
    (built name calls).actionId = (givenIds calls).getLast? := by
  induction calls using List.reverseRecOn with
  | nil => rfl
  | append_singleton calls call ih =>
    rw [built_concat, actionId_after, ih]
    unfold givenIds
    rw [List.filterMap_append, List.getLast?_append, List.filterMap_cons]
    cases call.id? <;> rfl

theorem name_after (action : Action) (call : Call) : (action.after call).name = action.name := by
  rw [after_eq]
  cases call.pair? with
  | none => rfl
  | some pair =>
    rw [Option.elim_some, param]
    split <;> rfl

theorem name_built (name : String) (calls : List Call) : (built name calls).name = name := by
  induction calls using List.reverseRecOn with
  | nil => rfl
  | append_singleton calls call ih => rw [built_concat, name_after, ih]

theorem notId_of_mem_given {calls : List Call} {key : String}
    (member : key ∈ (given calls).map Prod.fst) : sameName key idKey = false := by
  obtain ⟨pair, listed, rfl⟩ := List.mem_map.mp member
  obtain ⟨call, -, gives⟩ := List.mem_filterMap.mp listed
  exact Call.notId_of_param gives

/-- **The parameters of an action are those that were given, each name once.** However an action is
built, no two of its parameters have one name and none has the name of the identifier. They stand in
the order and the spelling in which each name was first given, with the value that was given last,
and that value is what every spelling of the name finds. The identifier is the one that was given
last, by either kind of call, and a call that gives one leaves the parameters alone. -/
theorem params_as_given (name : String) (calls : List Call) :
    let action := built name calls
    let keys := action.params.pairs.map Prod.fst
    keys.Pairwise (fun first second => sameName first second = false) ∧
    (∀ key ∈ keys, sameName key idKey = false) ∧
    keys = firstSpellings ((given calls).map Prod.fst) ∧
    (∀ pair ∈ action.params.pairs, lastGiven? pair.1 (given calls) = some pair.2) ∧
    (∀ key, action.paramValue key = lastGiven? key (given calls)) ∧
    action.actionId = (givenIds calls).getLast? ∧
    ∀ call id, call.id? = some id →
      action.after call = { action with actionId := some id } := by
  intro action keys
  have inOrder : keys = firstSpellings ((given calls).map Prod.fst) := keys_built name calls
  have once : keys.Pairwise fun first second => sameName first second = false :=
    inOrder ▸ pairwise_firstSpellings _
  refine ⟨once, fun key member => ?_, inOrder, fun pair member => ?_,
    paramValue_built name calls, actionId_built name calls, fun _ _ => after_of_id action⟩
  · rw [inOrder] at member
    exact notId_of_mem_given (mem_of_mem_firstSpellings member)
  · rw [← paramValue_built name calls]
    exact find?_of_mem once member

/-- An extension in three spellings, an identifier by both kinds of call, and nothing. -/
def respelt : List Call :=
  [.param "Exten" "100", .param "actionid" "a", .paramOpt "Context" none, .param "Priority" "1",
    .paramOpt "EXTEN" (some "200"), .withActionId "b", .param "exten" "300"]

theorem params_as_given_respelt :
    (built "Originate" respelt).params.pairs = [("Exten", "300"), ("Priority", "1")] ∧
    sameName "Exten" idKey = false ∧
    lastGiven? "Exten" (given respelt) = some "300" ∧
    (built "Originate" respelt).actionId = some "b" := by
  have pairs : (built "Originate" respelt).params.pairs =
      [("Exten", "300"), ("Priority", "1")] := by cbv
  have first : ("Exten", "300") ∈ (built "Originate" respelt).params.pairs := by
    rw [pairs]
    exact List.mem_cons_self
  have key : "Exten" ∈ (built "Originate" respelt).params.pairs.map Prod.fst := by
    rw [pairs]
    exact List.mem_cons_self
  have latest : (givenIds respelt).getLast? = some "b" := by cbv
  obtain ⟨-, notId, -, last, -, id, -⟩ := params_as_given "Originate" respelt
  exact ⟨pairs, notId _ key, last _ first, id.trans latest⟩

end Action

end Switchboard
