/-
**What becomes of a caller when the correlator closes.**

It is read off the registry of the caller's kind. Behind the first close nothing is owed to anybody
and nobody can enrol (`Registry.Settled`), so an enrolment is the one before the close, released if
something was owed to it, and changed by nothing but what its own caller has done since
(`Registry.enrolment_run_close`). To whom something is owed before the close, that caller waits for
it or has ceased to listen (`Registry.expects_run`). Hence `Desk.outcome_run_close`: whoever still
listens obtains the reason of the close, and keeps it.
-/

import Switchboard.Proofs.Correlator.Refinement

namespace Switchboard

/-! ### The registry of a kind -/

theorem updateLast_of_fixed {α : Type} {change : α → α} {members : List α}
    (fixed : ∀ member ∈ members, change member = member) (p : α → Bool) :
    updateLast p change members = members := by
  induction members with
  | nil => rfl
  | cons first rest ih =>
    obtain ⟨here, later⟩ := List.forall_mem_cons.mp fixed
    rw [updateLast, here, ih later, ite_self]

namespace Enrolment

theorem settleOwed_of_not_owed {enrolment : Enrolment} (settled : enrolment.owed = false)
    (content : Mailbox) : enrolment.settleOwed content = enrolment := by
  unfold settleOwed
  rw [settled, if_neg Bool.false_ne_true]

theorem owed_settleOwed (content : Mailbox) (enrolment : Enrolment) :
    (enrolment.settleOwed content).owed = false := by
  unfold settleOwed
  split
  · rfl
  · next settled => exact Bool.eq_false_iff.mpr settled

@[simp]
theorem owed_wait (limitMs : Nat) (enrolment : Enrolment) :
    (enrolment.wait limitMs).owed = enrolment.owed := by
  unfold wait
  split <;> rfl

end Enrolment

/-- What a move does to the enrolment of a caller who makes it itself. -/
def Desk.Move.byOwner (handle : Handle) : Desk.Move → Enrolment → Enrolment
  | .drop other => if other = handle then Enrolment.leave else id
  | .wait other limitMs => if other = handle then Enrolment.wait limitMs else id
  | _ => id

@[simp]
theorem Desk.Move.owed_byOwner (move : Desk.Move) (handle : Handle) (enrolment : Enrolment) :
    (move.byOwner handle enrolment).owed = enrolment.owed := by
  cases move with
  | drop other =>
    simp only [byOwner]
    split <;> rfl
  | wait other limitMs =>
    simp only [byOwner]
    split
    · exact Enrolment.owed_wait limitMs enrolment
    · rfl
  | _ => rfl

namespace Registry

/-- Whether nothing is owed to anybody any more, and nobody else can enrol. -/
structure Settled (registry : Registry) : Prop where
  closed : registry.closed ≠ none
  nothing : ∀ enrolment ∈ registry.enrolments, enrolment.owed = false

theorem settled_close (registry : Registry) (reason : DisconnectReason) :
    (registry.close reason).Settled where
  closed := by
    unfold close
    cases registry.closed <;> exact Option.some_ne_none _
  nothing := by
    intro enrolment member
    obtain ⟨before, -, rfl⟩ := List.mem_map.mp member
    exact before.owed_settleOwed _

section Settled

variable {registry : Registry}

theorem Settled.register_eq_self (settled : registry.Settled) (action : Action) :
    registry.register action = registry := by
  obtain ⟨reason, closed⟩ := Option.ne_none_iff_exists'.mp settled.closed
  unfold register
  rw [closed]

theorem Settled.resolve_eq_self (settled : registry.Settled) (response : Response) :
    registry.resolve response = registry := by
  unfold resolve
  split
  · have nobody : registry.enrolments.filter Enrolment.owed = [] := by
      rw [List.filter_eq_nil_iff]
      exact fun enrolment member => Bool.eq_false_iff.mp (settled.nothing enrolment member)
    rw [updateFirst_eq_self nobody]
  · rw [updateLast_of_fixed]
    exact fun enrolment member =>
      Enrolment.settleOwed_of_not_owed (settled.nothing enrolment member) _

theorem Settled.close_eq_self (settled : registry.Settled) (reason : DisconnectReason) :
    registry.close reason = registry := by
  obtain ⟨first, closed⟩ := Option.ne_none_iff_exists'.mp settled.closed
  have same : registry.enrolments.map (Enrolment.settleOwed (.released reason)) =
      registry.enrolments.map id :=
    List.map_congr_left fun enrolment member =>
      Enrolment.settleOwed_of_not_owed (settled.nothing enrolment member) _
  refine Registry.ext (same.trans (List.map_id _)) ?_
  unfold close
  rw [closed]
  rfl

/-- Nobody leaves the line to whom nothing is owed. -/
theorem Settled.cancel_eq_self (settled : registry.Settled) (place : Nat) :
    registry.change place (Enrolment.settleOwed .orphaned) = registry := by
  refine Registry.ext (List.ext_getElem? fun other => ?_) rfl
  show (registry.enrolments.modify place _)[other]? = _
  rw [List.getElem?_modify]
  cases found : registry.enrolments[other]? with
  | none => rfl
  | some enrolment =>
    have nothing := settled.nothing enrolment (List.mem_of_getElem? found)
    by_cases own : place = other
    · simp [own, Enrolment.settleOwed_of_not_owed nothing]
    · simp [own]

end Settled

/-- A change at the place of one handle is seen through this handle and through no other. -/
theorem getElem?_change (registry : Registry) (handle other : Handle)
    (change : Enrolment → Enrolment) :
    (if other.kind = handle.kind then registry.change other.place change
      else registry).enrolments[handle.place]? =
      registry.enrolments[handle.place]?.map (if other = handle then change else id) := by
  by_cases same : other = handle
  · rw [if_pos same, if_pos (congrArg Handle.kind same), same]
    show (registry.enrolments.modify handle.place change)[handle.place]? = _
    rw [List.getElem?_modify]
    simp
  · rw [if_neg same, Option.map_id, id]
    split
    · next sameKind =>
      have elsewhere : other.place ≠ handle.place := by
        intro samePlace
        cases other
        cases handle
        exact same (by rw [Handle.mk.injEq]; exact ⟨sameKind, samePlace⟩)
      show (registry.enrolments.modify other.place change)[handle.place]? = _
      rw [List.getElem?_modify]
      simp [elsewhere]
    · rfl

section Settled

variable {registry : Registry}

/-- What is left to happen to an enrolment is what its caller does. -/
theorem Settled.getElem?_step (settled : registry.Settled) (handle : Handle) (move : Desk.Move) :
    (registry.step handle.kind move).enrolments[handle.place]? =
      registry.enrolments[handle.place]?.map (move.byOwner handle) := by
  have stays : registry.enrolments[handle.place]? =
      registry.enrolments[handle.place]?.map id := (congrFun Option.map_id _).symm
  cases move with
  | register action =>
    simp only [step, settled.register_eq_self, ite_self]
    exact stays
  | cancel other =>
    simp only [step, settled.cancel_eq_self, ite_self]
    exact stays
  | resolve response =>
    simp only [step, settled.resolve_eq_self, ite_self]
    exact stays
  | close reason =>
    simp only [step, settled.close_eq_self, ite_self]
    exact stays
  | drop other =>
    simp only [step, Desk.Move.concerns, decide_eq_true_eq]
    exact registry.getElem?_change handle other Enrolment.leave
  | wait other limitMs =>
    simp only [step, Desk.Move.concerns, decide_eq_true_eq]
    exact registry.getElem?_change handle other (Enrolment.wait limitMs)

theorem Settled.step (settled : registry.Settled) (kind : Kind) (move : Desk.Move) :
    (registry.step kind move).Settled where
  closed := by
    cases move with
    | register action =>
      simp only [Registry.step, settled.register_eq_self, ite_self]
      exact settled.closed
    | resolve response =>
      simp only [Registry.step, settled.resolve_eq_self, ite_self]
      exact settled.closed
    | close reason =>
      simp only [Registry.step, settled.close_eq_self, ite_self]
      exact settled.closed
    | cancel | drop | wait =>
      unfold Registry.step
      split <;> exact settled.closed
  nothing := by
    intro enrolment member
    obtain ⟨place, found⟩ := List.mem_iff_getElem?.mp member
    rw [settled.getElem?_step ⟨kind, place⟩ move] at found
    obtain ⟨before, there, rfl⟩ := Option.map_eq_some_iff.mp found
    rw [Desk.Move.owed_byOwner]
    exact settled.nothing before (List.mem_of_getElem? there)

theorem Settled.getElem?_foldl (settled : registry.Settled) (handle : Handle)
    (moves : List Desk.Move) :
    (moves.foldl (Registry.step handle.kind) registry).enrolments[handle.place]? =
      registry.enrolments[handle.place]?.map fun enrolment =>
        moves.foldl (fun now move => move.byOwner handle now) enrolment := by
  induction moves generalizing registry with
  | nil => exact (congrFun Option.map_id _).symm
  | cons move rest ih =>
    rw [List.foldl_cons, ih (settled.step handle.kind move), settled.getElem?_step, Option.map_map]
    rfl

end Settled

/-- Behind a close an enrolment is the one before it, released if something was owed to it, and
changed by what its caller has done since. -/
theorem enrolment_run_close (before after : List Desk.Move) (reason : DisconnectReason)
    (handle : Handle) :
    (run handle.kind (before ++ .close reason :: after)).enrolments[handle.place]? =
      (run handle.kind before).enrolments[handle.place]?.map fun enrolment =>
        after.foldl (fun now move => move.byOwner handle now)
          (enrolment.settleOwed (.released reason)) := by
  unfold run
  rw [List.foldl_append, List.foldl_cons]
  generalize before.foldl (Registry.step handle.kind) start = registry
  have closes : registry.step handle.kind (.close reason) = registry.close reason := if_pos rfl
  rw [closes, (settled_close registry reason).getElem?_foldl handle after]
  show ((registry.enrolments.map _)[handle.place]?).map _ = _
  rw [List.getElem?_map, Option.map_map]
  rfl

end Registry

/-! ### Who has something owed to it -/

section Lists

variable {α : Type} {p : α → Bool} {change : α → α} {members later : List α}

/-- Whether one list comes of another by changing some of its members that have a property. -/
def Changed (p : α → Bool) (change : α → α) : List α → List α → Prop :=
  List.Forall₂ fun before after => after = before ∨ p before = true ∧ after = change before

theorem Changed.refl (p : α → Bool) (change : α → α) (members : List α) :
    Changed p change members members :=
  List.forall₂_same.mpr fun _ _ => .inl rfl

theorem changed_updateFirst (p : α → Bool) (change : α → α) (members : List α) :
    Changed p change members (updateFirst p change members) := by
  induction members with
  | nil => exact .nil
  | cons first rest ih =>
    unfold updateFirst
    split
    · next has => exact .cons (.inr ⟨has, rfl⟩) (Changed.refl p change rest)
    · exact .cons (.inl rfl) ih

theorem changed_updateLast (p : α → Bool) (change : α → α) (members : List α) :
    Changed p change members (updateLast p change members) := by
  induction members with
  | nil => exact .nil
  | cons first rest ih =>
    unfold updateLast
    split
    · next last =>
      exact .cons (.inr ⟨(Bool.and_eq_true_iff.mp last).1, rfl⟩) (Changed.refl p change rest)
    · exact .cons (.inl rfl) ih

theorem changed_modify (change : α → α) (members : List α) (place : Nat) :
    Changed (fun _ => true) change members (members.modify place change) := by
  induction members generalizing place with
  | nil =>
    rw [List.modify_nil]
    exact .nil
  | cons first rest ih =>
    cases place with
    | zero =>
      rw [List.modify_zero_cons]
      exact .cons (.inr ⟨rfl, rfl⟩) (Changed.refl _ change rest)
    | succ place =>
      rw [List.modify_succ_cons]
      exact .cons (.inl rfl) (ih place)

/-- What all members have and a change keeps all have behind it. -/
theorem Changed.forall_mem {P : α → Prop} (changed : Changed p change members later)
    (keeps : ∀ member, P member → P (change member)) (all : ∀ member ∈ members, P member) :
    ∀ member ∈ later, P member := by
  induction changed with
  | nil => exact all
  | cons here _ ih =>
    obtain ⟨first, rest⟩ := List.forall_mem_cons.mp all
    refine List.forall_mem_cons.mpr ⟨?_, ih rest⟩
    rcases here with rfl | ⟨-, rfl⟩
    · exact first
    · exact keeps _ first

theorem Changed.length_eq (changed : Changed p change members later) :
    later.length = members.length :=
  (List.Forall₂.length_eq changed).symm

/-- A member stays in its place, and is changed only if it has the property. -/
theorem Changed.getElem? (changed : Changed p change members later) {place : Nat} {member : α}
    (found : members[place]? = some member) :
    later[place]? = some member ∨ p member = true ∧ later[place]? = some (change member) := by
  induction changed generalizing place with
  | nil => cases found
  | cons here _ ih =>
    cases place with
    | zero =>
      cases Option.some.inj found
      rcases here with rfl | ⟨has, rfl⟩
      · exact .inl rfl
      · exact .inr ⟨has, rfl⟩
    | succ place => exact ih found

end Lists

namespace Enrolment

/-- Whether the caller waits for what is owed to it, or does not listen any more. -/
def Expects (enrolment : Enrolment) : Prop :=
  enrolment.owed = true → enrolment.face.mailbox = .waiting ∨ enrolment.face.mailbox = .abandoned

theorem expects_settleOwed (content : Mailbox) (enrolment : Enrolment) :
    (enrolment.settleOwed content).Expects := by
  intro owed
  rw [owed_settleOwed] at owed
  cases owed

theorem expects_leave (enrolment : Enrolment) : enrolment.leave.Expects :=
  fun _ => .inr rfl

theorem Expects.wait {enrolment : Enrolment} (expects : enrolment.Expects) (limitMs : Nat) :
    (enrolment.wait limitMs).Expects := by
  unfold Enrolment.wait
  split
  · exact expects
  · exact fun _ => .inr rfl

end Enrolment

namespace Registry

theorem expects_step {registry : Registry} (kind : Kind)
    (expects : ∀ enrolment ∈ registry.enrolments, enrolment.Expects) (move : Desk.Move) :
    ∀ enrolment ∈ (registry.step kind move).enrolments, enrolment.Expects := by
  unfold Registry.step
  split
  case isFalse => exact expects
  cases move with
  | register action =>
    simp only [register]
    split
    · exact expects
    · simp only [List.mem_append, List.mem_singleton]
      rintro enrolment (earlier | rfl)
      · split at earlier
        · exact expects enrolment earlier
        · obtain ⟨before, member, rfl⟩ := List.mem_map.mp earlier
          split
          · exact before.expects_settleOwed _
          · exact expects before member
      · exact fun _ => .inl rfl
  | cancel handle =>
    exact (changed_modify ..).forall_mem (fun enrolment _ => enrolment.expects_settleOwed _) expects
  | drop handle =>
    exact (changed_modify ..).forall_mem (fun enrolment _ => enrolment.expects_leave) expects
  | wait handle limitMs =>
    exact (changed_modify ..).forall_mem (fun _ had => had.wait limitMs) expects
  | resolve response =>
    simp only [resolve]
    split
    · exact (changed_updateFirst ..).forall_mem (fun _ _ owed => by cases owed) expects
    · exact (changed_updateLast ..).forall_mem
        (fun enrolment _ => enrolment.expects_settleOwed _) expects
  | close reason =>
    intro enrolment member
    obtain ⟨before, -, rfl⟩ := List.mem_map.mp member
    exact before.expects_settleOwed _

theorem expects_run (kind : Kind) (moves : List Desk.Move) :
    ∀ enrolment ∈ (run kind moves).enrolments, enrolment.Expects := by
  induction moves using List.reverseRecOn with
  | nil =>
    intro enrolment member
    cases member
  | append_singleton moves last ih =>
    rw [run_concat]
    exact expects_step kind ih last

end Registry

/-! ### Waiting across the close -/

namespace Desk

theorem Move.byOwner_eq_id {move : Move} {handle : Handle} (keeps : move ≠ .drop handle)
    (passes : ∀ limitMs, move ≠ .wait handle limitMs) : move.byOwner handle = id := by
  cases move with
  | drop other =>
    have elsewhere : other ≠ handle := fun same => keeps (congrArg Move.drop same)
    exact if_neg elsewhere
  | wait other limitMs =>
    have elsewhere : other ≠ handle := fun same => passes limitMs (by rw [same])
    exact if_neg elsewhere
  | _ => rfl

/-- While its caller neither goes away nor takes anything, nothing happens to an enrolment. -/
theorem foldl_byOwner_eq_self {handle : Handle} {moves : List Move}
    (keeps : Move.drop handle ∉ moves)
    (passes : ∀ limitMs, Move.wait handle limitMs ∉ moves) (enrolment : Enrolment) :
    moves.foldl (fun now move => move.byOwner handle now) enrolment = enrolment := by
  induction moves with
  | nil => rfl
  | cons move rest ih =>
    rw [List.mem_cons, not_or] at keeps
    have passes' (limitMs : Nat) := not_or.mp (mt List.mem_cons.mpr (passes limitMs))
    rw [List.foldl_cons, Move.byOwner_eq_id (Ne.symm keeps.1)
      fun limitMs => Ne.symm (passes' limitMs).1]
    exact ih keeps.2 fun limitMs => (passes' limitMs).2

/-- What a caller has got it keeps. -/
theorem outcome_foldl_byOwner {enrolment : Enrolment} (gone : enrolment.face.mailbox = .abandoned)
    (handle : Handle) (moves : List Move) :
    (moves.foldl (fun now move => move.byOwner handle now) enrolment).face.outcome =
      enrolment.face.outcome := by
  induction moves generalizing enrolment with
  | nil => rfl
  | cons move rest ih =>
    have still : (move.byOwner handle enrolment).face.mailbox = .abandoned ∧
        (move.byOwner handle enrolment).face.outcome = enrolment.face.outcome := by
      cases move with
      | drop other =>
        simp only [Move.byOwner]
        split
        · exact ⟨rfl, rfl⟩
        · exact ⟨gone, rfl⟩
      | wait other limitMs =>
        simp only [Move.byOwner]
        split
        · unfold Enrolment.wait
          rw [if_pos gone]
          exact ⟨gone, rfl⟩
        · exact ⟨gone, rfl⟩
      | _ => exact ⟨gone, rfl⟩
    rw [List.foldl_cons, ih still.1, still.2]

/-- What a mailbox holds is what its caller gets by the first wait, and keeps. -/
theorem outcome_foldl_wait {handle : Handle} {quiet : List Move} {enrolment : Enrolment}
    {outcome : Except BridgeError Response} (listens : enrolment.face.mailbox ≠ .abandoned)
    (holds : enrolment.face.mailbox.result? = some outcome)
    (keeps : Move.drop handle ∉ quiet) (passes : ∀ limitMs, Move.wait handle limitMs ∉ quiet)
    (limitMs : Nat) (later : List Move) :
    ((quiet ++ .wait handle limitMs :: later).foldl (fun now move => move.byOwner handle now)
      enrolment).face.outcome = some outcome := by
  have taken : (enrolment.wait limitMs).face.mailbox = .abandoned ∧
      (enrolment.wait limitMs).face.outcome = some outcome := by
    unfold Enrolment.wait
    rw [if_neg listens, holds]
    exact ⟨rfl, rfl⟩
  have own : (Move.wait handle limitMs).byOwner handle = Enrolment.wait limitMs := if_pos rfl
  rw [List.foldl_append, foldl_byOwner_eq_self keeps passes, List.foldl_cons, own,
    outcome_foldl_byOwner taken.1, taken.2]

/-- Whoever has something owed to it when the correlator closes, and still listens, obtains the
reason when it comes to take what is there. -/
theorem outcome_run_close {before quiet : List Move} {handle : Handle} {enrolment : Enrolment}
    (found : (Registry.run handle.kind before).enrolments[handle.place]? = some enrolment)
    (owed : enrolment.owed = true) (listens : enrolment.face.mailbox ≠ .abandoned)
    (keeps : Move.drop handle ∉ quiet) (passes : ∀ limitMs, Move.wait handle limitMs ∉ quiet)
    (reason : DisconnectReason) (limitMs : Nat) (later : List Move) :
    ∃ face, ((run (before ++ .close reason :: (quiet ++ .wait handle limitMs :: later))).faces
        handle.kind)[handle.place]? = some face ∧
      face.outcome = some (.error (.disconnected reason)) := by
  have waits : enrolment.face.mailbox = .waiting :=
    (Registry.expects_run handle.kind before enrolment (List.mem_of_getElem? found)
      owed).resolve_right listens
  have holds : (enrolment.settleOwed (.released reason)).face.mailbox = .released reason := by
    unfold Enrolment.settleOwed
    rw [if_pos owed]
    exact if_pos waits
  rw [faces_run]
  unfold Registry.faces
  rw [List.getElem?_map, Registry.enrolment_run_close, found]
  refine ⟨_, rfl, outcome_foldl_wait ?_ ?_ keeps passes limitMs later⟩
  · rw [holds]
    exact Mailbox.noConfusion
  · rw [holds]
    rfl

end Desk

end Switchboard
