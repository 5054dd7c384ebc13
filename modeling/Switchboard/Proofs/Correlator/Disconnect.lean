/-
**When a wait reports a disconnect.**

A caller that waits is told of a disconnect when its mailbox holds the reason of a close, and also
when nothing can come into its mailbox any more. So one has to know everything that a move can do to
an enrolment. Beside what its own caller does, it is settled at most, and only by a move that brings
something (`Move.Brings`, `turns_step`): its response, a close, its own cancellation, or a
registration under its identifier. The first of these finds a caller that waits, and what it brings
stays until the caller takes it (`exists_cause`, `exists_wait`).

Hence `disconnect_reported_iff`: the causes of a reported disconnect are the first close, with its
reason, and, with the reason of a closed connection, the cancellation of the caller and the
registration of another one under its identifier.
-/

import Switchboard.Proofs.Correlator.Attended
import Switchboard.Proofs.Correlator.Closing

namespace Switchboard

/-! ### One move -/

namespace Desk

/-- What a move may bring to the caller of a handle, who got in line under an identifier or without
one. -/
inductive Move.Brings (handle : Handle) (actionId : Option String) : Move → Mailbox → Prop
  | answer (response : Response) :
      Brings handle actionId (.resolve response) (.answered response)
  | release (reason : DisconnectReason) :
      Brings handle actionId (.close reason) (.released reason)
  | cancel : Brings handle actionId (.cancel handle) .orphaned
  /-- Another caller gets in line under the same identifier. -/
  | replace {action : Action} {id : String} (under : actionId = some id)
      (again : action.actionId = some id) :
      Brings handle actionId (.register action) .orphaned

/-- What becomes of an enrolment in a move: what its own caller does, or it is settled with something
that the move brings. -/
def Move.Turns (move : Move) (handle : Handle) (before after : Enrolment) : Prop :=
  after = move.byOwner handle before ∨
    before.owed = true ∧
      ∃ content, move.Brings handle before.face.actionId content ∧ after = before.settle content

/-- What is brought to an enrolment settles it, if something is owed to it. -/
theorem Move.Brings.turns {move : Move} {handle : Handle} {before : Enrolment} {content : Mailbox}
    (brings : move.Brings handle before.face.actionId content) :
    move.Turns handle before (before.settleOwed content) := by
  by_cases owed : before.owed = true
  · refine .inr ⟨owed, content, brings, ?_⟩
    unfold Enrolment.settleOwed
    rw [if_pos owed]
  · refine .inl ?_
    rw [Enrolment.settleOwed_of_not_owed (Bool.eq_false_iff.mpr owed)]
    cases brings <;> rfl

/-- An enrolment to which nothing is owed is left to its caller. -/
theorem Move.Turns.of_not_owed {move : Move} {handle : Handle} {before after : Enrolment}
    (turns : move.Turns handle before after) (settled : before.owed = false) :
    after = move.byOwner handle before := by
  rcases turns with own | ⟨owed, -⟩
  · exact own
  · rw [settled] at owed
    cases owed

end Desk

namespace Registry

open Desk (Move)

variable {registry : Registry} {handle : Handle} {before after : Enrolment}

/-- A registration settles the enrolments under its identifier. -/
theorem getElem?_register (found : registry.enrolments[handle.place]? = some before)
    (isOpen : registry.closed = none) {action : Action} {id : String}
    (again : action.actionId = some id) :
    (registry.register action).enrolments[handle.place]? =
      some (if before.isUnder id then before.settleOwed .orphaned else before) := by
  obtain ⟨there, -⟩ := List.getElem?_eq_some_iff.mp found
  simp only [register, isOpen, again]
  rw [List.getElem?_append_left (by rwa [List.length_map]), List.getElem?_map, found]
  rfl

/-- A cancellation settles the enrolment of its handle. -/
theorem getElem?_cancel (found : registry.enrolments[handle.place]? = some before)
    (other : Handle) :
    (registry.step handle.kind (.cancel other)).enrolments[handle.place]? =
      some (if other = handle then before.settleOwed .orphaned else before) := by
  simp only [step, Move.concerns, decide_eq_true_eq]
  rw [registry.getElem?_change handle other, found]
  split <;> rfl

/-- A close settles every enrolment. -/
theorem getElem?_close (found : registry.enrolments[handle.place]? = some before)
    (reason : DisconnectReason) :
    (registry.step handle.kind (.close reason)).enrolments[handle.place]? =
      some (before.settleOwed (.released reason)) := by
  show (registry.enrolments.map _)[handle.place]? = _
  rw [List.getElem?_map, found]
  rfl

/-- A move turns every enrolment of a registry. -/
theorem turns_step (found : registry.enrolments[handle.place]? = some before) (move : Move) :
    ∃ after, (registry.step handle.kind move).enrolments[handle.place]? = some after ∧
      move.Turns handle before after := by
  have stays : move.byOwner handle = id →
      ∃ after, registry.enrolments[handle.place]? = some after ∧ move.Turns handle before after :=
    fun idle => ⟨before, found, .inl (congrFun idle before).symm⟩
  cases move with
  | register action =>
    unfold step
    split
    case isFalse => exact stays rfl
    cases closed : registry.closed with
    | some reason =>
      simp only [register, closed]
      exact stays rfl
    | none =>
      cases again : action.actionId with
      | none =>
        obtain ⟨there, -⟩ := List.getElem?_eq_some_iff.mp found
        simp only [register, closed, again]
        rw [List.getElem?_append_left there]
        exact stays rfl
      | some id =>
        refine ⟨_, getElem?_register found closed again, ?_⟩
        split
        · next under => exact (Move.Brings.replace (of_decide_eq_true under) again).turns
        · exact .inl rfl
  | cancel other =>
    refine ⟨_, getElem?_cancel found other, ?_⟩
    split
    · next own =>
      rw [own]
      exact Move.Brings.cancel.turns
    · exact .inl rfl
  | drop other =>
    simp only [step, Move.concerns, decide_eq_true_eq]
    rw [registry.getElem?_change handle other, found]
    exact ⟨_, rfl, .inl rfl⟩
  | wait other limitMs =>
    simp only [step, Move.concerns, decide_eq_true_eq]
    rw [registry.getElem?_change handle other, found]
    exact ⟨_, rfl, .inl rfl⟩
  | resolve response =>
    unfold step
    split
    case isFalse => exact stays rfl
    simp only [resolve]
    split
    · rcases (changed_updateFirst ..).getElem? found with same | ⟨owed, settled⟩
      · exact ⟨before, same, .inl rfl⟩
      · exact ⟨_, settled, .inr ⟨owed, _, .answer response, rfl⟩⟩
    · rcases (changed_updateLast ..).getElem? found with same | ⟨-, settled⟩
      · exact ⟨before, same, .inl rfl⟩
      · exact ⟨_, settled, (Move.Brings.answer response).turns⟩
  | close reason => exact ⟨_, getElem?_close found reason, (Move.Brings.release reason).turns⟩

/-- A move leaves the enrolments in their places, and new ones have just been made. -/
theorem grows_step (registry : Registry) (kind : Kind) (move : Move) :
    ∃ earlier fresh, (registry.step kind move).enrolments = earlier ++ fresh ∧
      earlier.length = registry.enrolments.length ∧
      ∀ enrolment ∈ fresh, ∃ action, enrolment = Enrolment.ofAction action := by
  have keeps {later : List Enrolment} (size : later.length = registry.enrolments.length) :
      ∃ earlier fresh, later = earlier ++ fresh ∧ earlier.length = registry.enrolments.length ∧
        ∀ enrolment ∈ fresh, ∃ action, enrolment = Enrolment.ofAction action :=
    ⟨later, [], (List.append_nil later).symm, size, by simp⟩
  unfold step
  split
  case isFalse => exact keeps rfl
  cases move with
  | register action =>
    simp only [register]
    split
    · exact keeps rfl
    · refine ⟨_, [Enrolment.ofAction action], rfl, ?_, by simp⟩
      split <;> simp
  | cancel | drop | wait => exact keeps (List.length_modify ..)
  | resolve response =>
    refine keeps ?_
    simp only [resolve]
    split
    · exact (changed_updateFirst ..).length_eq
    · exact (changed_updateLast ..).length_eq
  | close reason => exact keeps (List.length_map ..)

/-- An enrolment has just been made, or is one of those before the move, turned by it. -/
theorem step_cases {move : Move}
    (found : (registry.step handle.kind move).enrolments[handle.place]? = some after) :
    (∃ action, after = Enrolment.ofAction action) ∨
      ∃ before, registry.enrolments[handle.place]? = some before ∧
        move.Turns handle before after := by
  cases there : registry.enrolments[handle.place]? with
  | some before =>
    obtain ⟨later, same, turns⟩ := turns_step there move
    cases found.symm.trans same
    exact .inr ⟨before, rfl, turns⟩
  | none =>
    obtain ⟨earlier, fresh, enrolments, size, made⟩ := registry.grows_step handle.kind move
    have beyond := List.getElem?_eq_none_iff.mp there
    rw [enrolments, List.getElem?_append_right (by omega)] at found
    exact .inl (made after (List.mem_of_getElem? found))

/-! ### Runs -/

/-- What is left to happen to an enrolment to which nothing is owed is what its caller does. -/
theorem getElem?_foldl_of_not_owed (found : registry.enrolments[handle.place]? = some before)
    (settled : before.owed = false) (moves : List Move) :
    (moves.foldl (step handle.kind) registry).enrolments[handle.place]? =
      some (moves.foldl (fun now move => move.byOwner handle now) before) := by
  induction moves generalizing registry before with
  | nil => exact found
  | cons move rest ih =>
    obtain ⟨after, there, turns⟩ := turns_step found move
    rw [turns.of_not_owed settled] at there
    rw [List.foldl_cons, List.foldl_cons]
    exact ih there ((move.owed_byOwner handle before).trans settled)

end Registry

namespace Desk

variable {handle : Handle} {before after : Enrolment}

/-- What a caller gets it gets by its own wait, which finds what is there. -/
theorem Move.Turns.outcome_cases {move : Move} (turns : move.Turns handle before after) :
    after.face.outcome = before.face.outcome ∨
      ∃ limitMs, move = .wait handle limitMs ∧ before.face.mailbox ≠ .abandoned ∧
        after.face.outcome = some (before.face.mailbox.result?.getD
          (.error (.actionTimeout before.face.action limitMs))) := by
  rcases turns with rfl | ⟨-, content, -, rfl⟩
  · cases move with
    | drop other =>
      simp only [Move.byOwner]
      split <;> exact .inl rfl
    | wait other limitMs =>
      simp only [Move.byOwner]
      split
      · next own =>
        unfold Enrolment.wait
        split
        · exact .inl rfl
        · next held => exact .inr ⟨limitMs, by rw [own], held, rfl⟩
      · exact .inl rfl
    | _ => exact .inl rfl
  · exact .inl rfl

/-- What is in a mailbox and can be taken was there before, or has been brought to a caller that
waited. -/
theorem Move.Turns.mailbox_cases {move : Move} (turns : move.Turns handle before after)
    (came : after.face.mailbox ≠ .waiting) (held : after.face.mailbox ≠ .abandoned) :
    before.face.mailbox = after.face.mailbox ∧ move ≠ .drop handle ∧
        (∀ limitMs, move ≠ .wait handle limitMs) ∨
      before.face.mailbox = .waiting ∧
        move.Brings handle before.face.actionId after.face.mailbox := by
  rcases turns with rfl | ⟨-, content, brings, rfl⟩
  · refine .inl ?_
    have keeps : move ≠ .drop handle := by
      rintro rfl
      simp [Move.byOwner, Enrolment.leave] at held
    have passes (limitMs : Nat) : move ≠ .wait handle limitMs := by
      rintro rfl
      simp only [Move.byOwner, if_true, Enrolment.wait] at held
      split at held
      · next gone => exact held gone
      · exact held rfl
    rw [Move.byOwner_eq_id keeps passes]
    exact ⟨rfl, keeps, passes⟩
  · by_cases waits : before.face.mailbox = .waiting
    · refine .inr ⟨waits, ?_⟩
      simpa [Enrolment.settle, waits] using brings
    · refine .inl ⟨by simp [Enrolment.settle, waits], ?_, ?_⟩ <;> cases brings <;> simp

/-- Whoever has got something has waited for it, and taken what was there. -/
theorem exists_wait {moves : List Move} {enrolment : Enrolment}
    {outcome : Except BridgeError Response}
    (found : (Registry.run handle.kind moves).enrolments[handle.place]? = some enrolment)
    (has : enrolment.face.outcome = some outcome) :
    ∃ earlier limitMs later before, moves = earlier ++ .wait handle limitMs :: later ∧
      (Registry.run handle.kind earlier).enrolments[handle.place]? = some before ∧
      before.face.mailbox ≠ .abandoned ∧
      outcome = before.face.mailbox.result?.getD
        (.error (.actionTimeout before.face.action limitMs)) := by
  induction moves using List.reverseRecOn generalizing enrolment with
  | nil => cases found
  | append_singleton moves last ih =>
    rw [Registry.run_concat] at found
    rcases Registry.step_cases found with ⟨action, rfl⟩ | ⟨before, there, turns⟩
    · cases has
    rcases turns.outcome_cases with same | ⟨limitMs, rfl, held, got⟩
    · obtain ⟨earlier, limitMs, later, first, rfl, rest⟩ := ih there (same.symm.trans has)
      exact ⟨earlier, limitMs, later ++ [last], first, by simp, rest⟩
    · exact ⟨moves, limitMs, [], before, rfl, there, held, Option.some.inj (has.symm.trans got)⟩

/-- What is in a mailbox and can be taken was brought by a move that found the caller waiting, and
has been left there since. -/
theorem exists_cause {moves : List Move} {enrolment : Enrolment}
    (found : (Registry.run handle.kind moves).enrolments[handle.place]? = some enrolment)
    (came : enrolment.face.mailbox ≠ .waiting) (held : enrolment.face.mailbox ≠ .abandoned) :
    ∃ earlier cause quiet before, moves = earlier ++ cause :: quiet ∧
      (Registry.run handle.kind earlier).enrolments[handle.place]? = some before ∧
      before.face.mailbox = .waiting ∧
      cause.Brings handle before.face.actionId enrolment.face.mailbox ∧
      Move.drop handle ∉ quiet ∧ ∀ limitMs, Move.wait handle limitMs ∉ quiet := by
  -- From the end of the run: the last move has brought what is there, or has left it alone.
  induction moves using List.reverseRecOn generalizing enrolment with
  | nil => cases found
  | append_singleton moves last ih =>
    rw [Registry.run_concat] at found
    rcases Registry.step_cases found with ⟨action, rfl⟩ | ⟨before, there, turns⟩
    · exact absurd rfl came
    rcases turns.mailbox_cases came held with ⟨same, keeps, passes⟩ | ⟨waits, brings⟩
    · rw [← same] at came held ⊢
      obtain ⟨earlier, cause, quiet, first, rfl, isThere, waits, brings, kept, passed⟩ :=
        ih there came held
      refine ⟨earlier, cause, quiet ++ [last], first, by simp, isThere, waits, brings, ?_, ?_⟩
      · simp [kept, Ne.symm keeps]
      · intro limitMs
        simp [passed limitMs, Ne.symm (passes limitMs)]
    · exact ⟨moves, last, [], before, rfl, there, waits, brings, by simp, by simp⟩

/-- An enrolment is that of an entry of the ledger. -/
theorem exists_entry {moves : List Move}
    (found : (Registry.run handle.kind moves).enrolments[handle.place]? = some before) :
    ∃ ledger, Ledger.Agrees (run moves) (fun kind => Registry.run kind moves) ledger ∧
      ∃ entry ∈ ledger, entry.kind = handle.kind ∧ entry.enrolment = before := by
  obtain ⟨ledger, agrees⟩ := Ledger.agrees_run moves
  rw [agrees.enrolments, List.getElem?_map] at found
  obtain ⟨entry, there, same⟩ := Option.map_eq_some_iff.mp found
  obtain ⟨listed, own⟩ := List.mem_filter.mp (List.mem_of_getElem? there)
  exact ⟨ledger, agrees, entry, listed, of_decide_eq_true own, same⟩

/-- The identifier of a caller tells its kind. -/
theorem kind_of_found {moves : List Move}
    (found : (Registry.run handle.kind moves).enrolments[handle.place]? = some before) :
    Kind.of before.face.actionId = handle.kind := by
  obtain ⟨ledger, agrees, entry, listed, own, rfl⟩ := exists_entry found
  rw [agrees.faces entry listed]
  exact own

/-- Whoever waits has something owed to it, and there has been no close. -/
theorem open_of_waiting {moves : List Move}
    (found : (Registry.run handle.kind moves).enrolments[handle.place]? = some before)
    (waits : before.face.mailbox = .waiting) :
    before.owed = true ∧ (Registry.run handle.kind moves).closed = none ∧
      ∀ reason, Move.close reason ∉ moves := by
  obtain ⟨ledger, agrees, entry, listed, -, rfl⟩ := exists_entry found
  have waiting : (run moves).correlator.mailbox entry.ticket = .waiting := by
    rw [← waits, agrees.faces entry listed]
    rfl
  have course := course_run moves
  have isOpen : (run moves).correlator.closed = none := by
    by_contra closed
    exact (course.attended Correlator.attended_new).not_waiting closed _ waiting
  refine ⟨agrees.owed_of_waiting listed waiting, (agrees.closed _).trans isOpen, ?_⟩
  intro reason closes
  have given : reason ∈ moves.filterMap Move.reason? :=
    List.mem_filterMap.mpr ⟨_, closes, rfl⟩
  have first := course.closed.symm.trans isOpen
  rw [Correlator.new, Option.none_or, List.head?_eq_none_iff] at first
  rw [first] at given
  cases given

/-! ### The theorem -/

/-- What the caller of a handle can see. -/
def face? (desk : Desk) (handle : Handle) : Option Face :=
  (desk.faces handle.kind)[handle.place]?

theorem face?_run (moves : List Move) (handle : Handle) :
    (run moves).face? handle =
      (Registry.run handle.kind moves).enrolments[handle.place]?.map Enrolment.face := by
  unfold face?
  rw [faces_run]
  exact List.getElem?_map

/-- Whoever is settled and then takes what is there gets what the settling has brought. -/
theorem outcome_of_settled {earlier quiet later : List Move} {cause : Move} {content : Mailbox}
    {outcome : Except BridgeError Response} {limitMs : Nat}
    (settled : (Registry.run handle.kind (earlier ++ [cause])).enrolments[handle.place]? =
      some (before.settleOwed content))
    (owed : before.owed = true) (waits : before.face.mailbox = .waiting)
    (last : content ≠ .abandoned) (holds : content.result? = some outcome)
    (keeps : Move.drop handle ∉ quiet) (passes : ∀ limitMs, Move.wait handle limitMs ∉ quiet) :
    ((run (earlier ++ cause :: (quiet ++ .wait handle limitMs :: later))).face? handle).bind
      Face.outcome = some outcome := by
  have box : (before.settleOwed content).face.mailbox = content := by
    simp [Enrolment.settleOwed, Enrolment.settle, owed, waits]
  have split : earlier ++ cause :: (quiet ++ .wait handle limitMs :: later) =
      (earlier ++ [cause]) ++ (quiet ++ .wait handle limitMs :: later) := by simp
  rw [face?_run, split]
  unfold Registry.run at settled ⊢
  rw [List.foldl_append,
    Registry.getElem?_foldl_of_not_owed settled (Enrolment.owed_settleOwed content before)]
  refine outcome_foldl_wait ?_ ?_ keeps passes limitMs later
  · rwa [box]
  · rw [box]
    exact holds

/-- **When a wait reports a disconnect.** In any run, a caller gets a disconnect from its wait exactly
when a move found it waiting, its handle was kept until the wait, and that move was

* the first close, with the reason that is reported, or
* the cancellation of the caller, or a registration under its identifier; the reason is then that of
  a closed connection. -/
theorem disconnect_reported_iff (moves : List Move) (handle : Handle) (reason : DisconnectReason) :
    ((run moves).face? handle).bind Face.outcome = some (.error (.disconnected reason)) ↔
      ∃ earlier cause quiet limitMs later face,
        moves = earlier ++ cause :: (quiet ++ .wait handle limitMs :: later) ∧
        (run earlier).face? handle = some face ∧ face.mailbox = .waiting ∧
        Move.drop handle ∉ quiet ∧ (∀ limitMs, Move.wait handle limitMs ∉ quiet) ∧
        (cause = .close reason ∧ (∀ other, Move.close other ∉ earlier) ∨
          reason = .connectionClosed ∧
            (cause = .cancel handle ∨
              ∃ action id, cause = .register action ∧ action.actionId = some id ∧
                face.actionId = some id)) := by
  constructor
  · intro reported
    rw [face?_run, Option.bind_map] at reported
    obtain ⟨enrolment, found, has⟩ := Option.bind_eq_some_iff.mp reported
    obtain ⟨before, limitMs, later, taker, rfl, there, held, got⟩ := exists_wait found has
    have came : taker.face.mailbox ≠ .waiting := by
      intro waits
      rw [waits] at got
      cases got
    obtain ⟨earlier, cause, quiet, waiter, rfl, isThere, waits, brings, keeps, passes⟩ :=
      exists_cause there came held
    refine ⟨earlier, cause, quiet, limitMs, later, waiter.face, by simp, ?_, waits, keeps, passes,
      ?_⟩
    · rw [face?_run, isThere]
      rfl
    -- Whatever was brought is what the wait has found, and an answer is no disconnect.
    generalize taker.face.mailbox = content at got brings
    cases brings with
    | answer response => cases got
    | release given =>
      cases got
      exact .inl ⟨rfl, (open_of_waiting isThere waits).2.2⟩
    | cancel =>
      cases got
      exact .inr ⟨rfl, .inl rfl⟩
    | replace under again =>
      cases got
      exact .inr ⟨rfl, .inr ⟨_, _, rfl, again, under⟩⟩
  · rintro ⟨earlier, cause, quiet, limitMs, later, face, rfl, seen, waits, keeps, passes, causes⟩
    rw [face?_run] at seen
    obtain ⟨before, found, rfl⟩ := Option.map_eq_some_iff.mp seen
    obtain ⟨owed, isOpen, -⟩ := open_of_waiting found waits
    rcases causes with ⟨rfl, -⟩ | ⟨rfl, rfl | ⟨action, id, rfl, again, under⟩⟩
    · have settled := Registry.getElem?_close found reason
      rw [← Registry.run_concat] at settled
      exact outcome_of_settled settled owed waits nofun rfl keeps passes
    · have settled := Registry.getElem?_cancel found handle
      rw [if_pos rfl, ← Registry.run_concat] at settled
      exact outcome_of_settled settled owed waits nofun rfl keeps passes
    · have concerns : (Move.register action).concerns handle.kind = true := by
        rw [← kind_of_found found, under, ← again]
        exact decide_eq_true rfl
      have same : before.isUnder id = true := decide_eq_true under
      have settled := Registry.getElem?_register found isOpen again
      have next : Registry.run handle.kind (earlier ++ [.register action]) =
          (Registry.run handle.kind earlier).register action := by
        rw [Registry.run_concat]
        exact if_pos concerns
      rw [if_pos same, ← next] at settled
      exact outcome_of_settled settled owed waits nofun rfl keeps passes

/-- Two callers under one identifier, of whom the first waits. -/
def reused : List Move :=
  [.register (Action.ping.withActionId "x"), .register (Action.ping.withActionId "x"),
    .wait ⟨.tagged, 0⟩ 50]

/-- A caller can be told of a disconnect that it did not bring about, and that never was. -/
theorem reused_identifier_disconnects :
    ¬∀ (moves : List Move) (handle : Handle) (reason : DisconnectReason),
      ((run moves).face? handle).bind Face.outcome = some (.error (.disconnected reason)) →
        Move.cancel handle ∉ moves →
        ∃ earlier later, moves = earlier ++ .close reason :: later ∧
          ∀ other, Move.close other ∉ earlier := by
  intro told
  obtain ⟨earlier, later, split, -⟩ :=
    told reused ⟨.tagged, 0⟩ .connectionClosed rfl (by decide)
  have closes : Move.close .connectionClosed ∈ reused := by
    rw [split]
    exact List.mem_append_right _ List.mem_cons_self
  revert closes
  decide

end Desk

end Switchboard
