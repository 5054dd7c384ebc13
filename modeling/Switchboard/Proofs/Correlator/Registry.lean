/-
**Two registries that know nothing of each other.**

A registry lists the enrolments of one kind in the order in which they were made, with what each
caller can see and whether a response is still owed to it: whether it has been neither cancelled nor
used up by a response, nor released by a close, nor replaced by a later one under its identifier.
There are no tickets here, no line and no table. The rules are those that callers rely on:

* a response without an identifier uses up the earliest enrolment to which one is owed;
* a response with an identifier is for the latest enrolment under it, if one is owed to that;
* either reaches the caller exactly when the caller still listens.

A registry of one kind passes over the moves that concern the other kind (`step_of_not_concerns`),
so a run and what is left of it without those moves lead to the same registry (`run_erase`).
-/

import Switchboard.Proofs.Correlator.Desk

namespace Switchboard

/-! ### Changing one member of a list -/

/-- The list with its first member that has the property changed. -/
def updateFirst {α : Type} (p : α → Bool) (change : α → α) : List α → List α
  | [] => []
  | first :: rest => if p first then change first :: rest else first :: updateFirst p change rest

/-- The list with its last member that has the property changed. -/
def updateLast {α : Type} (p : α → Bool) (change : α → α) : List α → List α
  | [] => []
  | first :: rest =>
    if p first && !rest.any p then change first :: rest else first :: updateLast p change rest

theorem updateFirst_append {α : Type} {p : α → Bool} {before : List α} {earliest : α}
    (none : ∀ member ∈ before, p member = false) (has : p earliest = true) (change : α → α)
    (after : List α) :
    updateFirst p change (before ++ earliest :: after) = before ++ change earliest :: after := by
  induction before with
  | nil => exact if_pos has
  | cons first rest ih =>
    obtain ⟨lacks, later⟩ := List.forall_mem_cons.mp none
    rw [List.cons_append, updateFirst, if_neg (Bool.eq_false_iff.mp lacks), ih later]
    rfl

theorem updateLast_eq_self {α : Type} {p : α → Bool} {members : List α}
    (none : ∀ member ∈ members, p member = false) (change : α → α) :
    updateLast p change members = members := by
  induction members with
  | nil => rfl
  | cons first rest ih =>
    obtain ⟨lacks, later⟩ := List.forall_mem_cons.mp none
    rw [updateLast, lacks, if_neg (by simp), ih later]

theorem updateLast_append {α : Type} {p : α → Bool} {latest : α} {after : List α}
    (has : p latest = true) (none : ∀ member ∈ after, p member = false) (change : α → α)
    (before : List α) :
    updateLast p change (before ++ latest :: after) = before ++ change latest :: after := by
  induction before with
  | nil =>
    have last : after.any p = false := by
      rw [List.any_eq_false]
      exact fun member inAfter => Bool.eq_false_iff.mp (none member inAfter)
    rw [List.nil_append, updateLast, if_pos (by rw [has, last]; rfl)]
    rfl
  | cons first rest ih =>
    have again : (rest ++ latest :: after).any p = true :=
      List.any_eq_true.mpr ⟨latest, List.mem_append_right _ List.mem_cons_self, has⟩
    rw [List.cons_append, updateLast, again, if_neg (by simp), ih]
    rfl

/-! ### Enrolments -/

/-- What a caller gets out of a mailbox, once there is something to get. -/
def Mailbox.result? : Mailbox → Option (Except BridgeError Response)
  | .waiting => none
  | .answered response => some (.ok response)
  | .released reason => some (.error (.disconnected reason))
  | .orphaned | .abandoned => some (.error (.disconnected .connectionClosed))

/-- An enrolment: what its caller can see, and whether a response is owed to it. -/
structure Enrolment where
  face : Face
  owed : Bool

namespace Enrolment

/-- An enrolment that has just been made. -/
def ofAction (action : Action) : Enrolment :=
  { face :=
      { action := action.name
        actionId := action.actionId
        mailbox := .waiting
        outcome := none }
    owed := true }

/-- Nothing is owed any more; a caller who listens gets the last thing to come. -/
def settle (content : Mailbox) (enrolment : Enrolment) : Enrolment :=
  { face :=
      { enrolment.face with
        mailbox :=
          if enrolment.face.mailbox = .waiting then content else enrolment.face.mailbox }
    owed := false }

/-- The last thing to come, if something is owed. -/
def settleOwed (content : Mailbox) (enrolment : Enrolment) : Enrolment :=
  if enrolment.owed then enrolment.settle content else enrolment

/-- The caller does not listen any more. What is owed stays owed. -/
def leave (enrolment : Enrolment) : Enrolment :=
  { enrolment with face := { enrolment.face with mailbox := .abandoned } }

/-- The caller takes what is there when its time is up, if it still has its handle. -/
def wait (limitMs : Nat) (enrolment : Enrolment) : Enrolment :=
  if enrolment.face.mailbox = .abandoned then enrolment
  else
    { enrolment with
      face :=
        { enrolment.face with
          mailbox := .abandoned
          outcome := some (enrolment.face.mailbox.result?.getD
            (.error (.actionTimeout enrolment.face.action limitMs))) } }

/-- Whether the enrolment was made under the identifier. -/
def isUnder (id : String) (enrolment : Enrolment) : Bool :=
  enrolment.face.actionId = some id

end Enrolment

/-! ### Registries -/

/-- The enrolments of one kind, in the order in which they were made. -/
@[ext]
structure Registry where
  enrolments : List Enrolment
  closed : Option DisconnectReason

/-- Whether a move has to do with the callers of a kind. -/
def Desk.Move.concerns (kind : Kind) : Desk.Move → Bool
  | .register action => Kind.of action.actionId = kind
  | .cancel handle | .drop handle | .wait handle _ => handle.kind = kind
  | .resolve response => Kind.of response.actionId = kind
  | .close _ => true

namespace Registry

def start : Registry :=
  { enrolments := [], closed := none }

def faces (registry : Registry) : List Face :=
  registry.enrolments.map Enrolment.face

/-- An enrolment more, in place of the one under its identifier. -/
def register (registry : Registry) (action : Action) : Registry :=
  match registry.closed with
  | some _ => registry
  | none =>
    let earlier :=
      match action.actionId with
      | none => registry.enrolments
      | some id =>
        registry.enrolments.map fun enrolment =>
          if enrolment.isUnder id then enrolment.settleOwed .orphaned else enrolment
    { registry with enrolments := earlier ++ [Enrolment.ofAction action] }

/-- A response comes: to the earliest enrolment to which one is owed, or to the latest one under
its identifier. -/
def resolve (registry : Registry) (response : Response) : Registry :=
  match response.actionId with
  | none =>
    { registry with
      enrolments :=
        updateFirst Enrolment.owed (Enrolment.settle (.answered response))
          registry.enrolments }
  | some id =>
    { registry with
      enrolments :=
        updateLast (Enrolment.isUnder id) (Enrolment.settleOwed (.answered response))
          registry.enrolments }

/-- The registry with the enrolment at one place changed. -/
def change (registry : Registry) (place : Nat) (change : Enrolment → Enrolment) : Registry :=
  { registry with enrolments := registry.enrolments.modify place change }

/-- Everybody to whom a response is owed is released. -/
def close (registry : Registry) (reason : DisconnectReason) : Registry :=
  { enrolments := registry.enrolments.map (Enrolment.settleOwed (.released reason))
    closed := registry.closed.or (some reason) }

/-- The registry of a kind after one move. -/
def step (kind : Kind) (registry : Registry) (move : Desk.Move) : Registry :=
  if move.concerns kind then
    match move with
    | .register action => registry.register action
    | .cancel handle => registry.change handle.place (Enrolment.settleOwed .orphaned)
    | .drop handle => registry.change handle.place Enrolment.leave
    | .wait handle limitMs => registry.change handle.place (Enrolment.wait limitMs)
    | .resolve response => registry.resolve response
    | .close reason => registry.close reason
  else registry

/-- The registry of a kind after moves, one after the other. -/
def run (kind : Kind) (moves : List Desk.Move) : Registry :=
  moves.foldl (step kind) start

theorem run_concat (kind : Kind) (moves : List Desk.Move) (last : Desk.Move) :
    run kind (moves ++ [last]) = (run kind moves).step kind last := by
  unfold run
  rw [List.foldl_append]
  rfl

@[simp]
theorem closed_register (registry : Registry) (action : Action) :
    (registry.register action).closed = registry.closed := by
  unfold register
  split <;> rfl

@[simp]
theorem closed_resolve (registry : Registry) (response : Response) :
    (registry.resolve response).closed = registry.closed := by
  unfold resolve
  split <;> rfl

/-- A response without an identifier settles the earliest enrolment to which one is owed. -/
theorem enrolments_step_untagged {response : Response} (untagged : response.actionId = none)
    (registry : Registry) :
    (registry.step .untagged (.resolve response)).enrolments =
      updateFirst Enrolment.owed (Enrolment.settle (.answered response)) registry.enrolments := by
  simp only [step, Desk.Move.concerns, resolve, untagged]
  rfl

/-- A response with an identifier settles the latest enrolment under it. -/
theorem enrolments_step_tagged {response : Response} {id : String}
    (tagged : response.actionId = some id) (registry : Registry) :
    (registry.step .tagged (.resolve response)).enrolments =
      updateLast (Enrolment.isUnder id) (Enrolment.settleOwed (.answered response))
        registry.enrolments := by
  simp only [step, Desk.Move.concerns, resolve, tagged]
  rfl

/-- A registry passes over the moves that do not concern its kind. -/
theorem step_of_not_concerns {kind : Kind} {move : Desk.Move} (other : move.concerns kind = false)
    (registry : Registry) : registry.step kind move = registry := by
  unfold step
  rw [other]
  rfl

/-- The moves that do not concern a kind may be left out of its run. -/
theorem run_erase (kind : Kind) (moves : List Desk.Move) :
    run kind (moves.filter (·.concerns kind)) = run kind moves := by
  unfold run
  generalize start = registry
  induction moves generalizing registry with
  | nil => rfl
  | cons move rest ih =>
    by_cases own : move.concerns kind = true
    · rw [List.filter_cons_of_pos own, List.foldl_cons, List.foldl_cons]
      exact ih _
    · rw [List.filter_cons_of_neg own, List.foldl_cons,
        step_of_not_concerns (Bool.not_eq_true _ ▸ own)]
      exact ih _

end Registry

end Switchboard
