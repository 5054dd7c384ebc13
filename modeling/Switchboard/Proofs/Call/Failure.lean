/-
**A failed call was never answered or connected.**

A call fails in one way: it is dialing, the attempt ends with one of the failed dial statuses, none
was answered before, and the record shows no bridge (`fails_cases`). It keeps what it failed with,
because no later event of a call that is over writes how an attempt ended (`attempt_kept`). And it
was never connected, since a connected call can only be hung up.

Answers are remembered: the mark is raised by an attempt that ends with an answer while the call is
dialing, and by nothing else (`answered_after`). `failed_never_connected` puts the parts together
(`Unconnected`).
-/

import Switchboard.Proofs.Call.Bridging

namespace Switchboard.Session

/-! ### The end of a dial attempt -/

/-- Outside a dial attempt its end means nothing. -/
theorem onDialEnd_of_ne {session : Session} (other : session.status ≠ .dialing)
    (dialStatus : Option String) : session.onDialEnd dialStatus = (session, none) := by
  unfold onDialEnd
  split
  · next status => exact absurd status other
  all_goals rfl

/-- Whether an event tells, while the call is dialing, that the attempt was answered. -/
def Taken.answers (taken : Taken) : Bool :=
  match taken.notice.event with
  | .dialEnd (some given) _ => isAnsweredDial given && taken.before.status == .dialing
  | _ => false

theorem answered_onDialEnd (session : Session) (dialStatus : Option String) :
    (session.onDialEnd dialStatus).1.answered =
      (session.answered ||
        (isAnsweredDial (dialStatus.getD "") && session.status == .dialing)) := by
  by_cases dialing : session.status = .dialing
  · unfold onDialEnd
    rw [dialing]
    dsimp only
    cases answered : isAnsweredDial (dialStatus.getD "") with
    | true => simp
    | false =>
      rw [if_neg Bool.false_ne_true]
      split <;> simp
  · rw [onDialEnd_of_ne dialing, beq_eq_false_iff_ne.mpr dialing, Bool.and_false, Bool.or_false]

theorem isAnsweredDial_empty : isAnsweredDial "" = false := by
  decide +kernel

/-- The mark that an attempt was answered is kept, and raised by an answer alone. -/
theorem Taken.answered_after (taken : Taken) :
    taken.after.answered = true ↔ taken.before.answered = true ∨ taken.answers = true := by
  have confined := taken.noted.confined_react taken.notice.event
  rw [after_eq, ← Bool.or_eq_true, ← Bool.eq_iff_iff]
  unfold answers
  split
  · next given destId event =>
    rw [event]
    exact answered_onDialEnd taken.noted (some given)
  · next others =>
    rw [Bool.or_false]
    by_cases ends : ∃ destId, taken.notice.event = .dialEnd none destId
    · obtain ⟨destId, event⟩ := ends
      rw [event]
      refine (answered_onDialEnd taken.noted none).trans ?_
      rw [Option.getD_none, isAnsweredDial_empty, Bool.false_and, Bool.or_false]
      rfl
    · refine (confined.attempt ?_).1
      intro dialStatus destId event
      cases dialStatus with
      | none => exact ends ⟨destId, event⟩
      | some given => exact others given destId event

/-! ### How a call fails -/

/-- A call that an attempt ends had no answer, and keeps the dial status it was ended with. -/
theorem onDialEnd_of_failed {session : Session} {dialStatus : Option String}
    (dialing : session.status = .dialing)
    (failed : (session.onDialEnd dialStatus).1.status = .ended .failed) :
    (session.onDialEnd dialStatus).1.answered = false ∧
      (session.onDialEnd dialStatus).1.dialStatus = dialStatus := by
  unfold onDialEnd at failed ⊢
  rw [dialing] at failed ⊢
  dsimp only at failed ⊢
  split at failed
  · cases failed
  · next unanswered =>
    rw [if_neg unanswered]
    split at failed
    · next ends =>
      rw [if_pos ends]
      rw [Bool.and_eq_true, Bool.and_eq_true, Bool.not_eq_true'] at ends
      exact ⟨ends.1.2, rfl⟩
    · cases failed

/-- Whether the record is that of a call that no attempt was answered of and that ended with one of
the failed dial statuses. -/
def Unanswered (session : Session) : Prop :=
  session.answered = false ∧
    ∃ given, session.dialStatus = some given ∧ isFailedDial given = true

namespace Taken

variable {taken : Taken}

/-- A call fails while it is dialing, by an attempt that ends with a failed dial status. -/
theorem fails_cases (going : taken.before.status ≠ .ended .failed)
    (failed : taken.after.status = .ended .failed) :
    taken.before.status = .dialing ∧ taken.after.Unanswered := by
  have differ : taken.after.status ≠ taken.before.status := fun same => going (same ▸ failed)
  have moves := (taken.before.status_take taken.notice).resolve_left differ
  have made : (taken.before.take taken.notice).status = .ended .failed := failed
  rw [made] at moves
  rw [after_eq] at failed ⊢
  generalize taken.notice.event = event at moves failed ⊢
  generalize there : taken.before.status = earlier at moves
  cases moves with
  | @dialFailed dialStatus destId fails =>
    have dialing : taken.noted.status = .dialing := there
    obtain ⟨unanswered, kept⟩ := onDialEnd_of_failed dialing failed
    exact ⟨rfl, unanswered, dialStatus, kept, fails⟩

/-- How the last attempt ended is not written any more when the call is over. -/
theorem attempt_kept (ended : taken.before.status.isTerminal = true) :
    taken.after.answered = taken.before.answered ∧
      taken.after.dialStatus = taken.before.dialStatus := by
  have confined := taken.noted.confined_react taken.notice.event
  rw [after_eq]
  by_cases ends : ∃ dialStatus destId, taken.notice.event = .dialEnd dialStatus destId
  · obtain ⟨dialStatus, destId, event⟩ := ends
    have other : taken.noted.status ≠ .dialing := by
      intro dialing
      have going : taken.before.status = .dialing := dialing
      rw [going] at ended
      cases ended
    rw [event]
    show (taken.noted.onDialEnd dialStatus).1.answered = _ ∧
      (taken.noted.onDialEnd dialStatus).1.dialStatus = _
    rw [onDialEnd_of_ne other]
    exact ⟨rfl, rfl⟩
  · exact confined.attempt fun dialStatus destId event => ends ⟨dialStatus, destId, event⟩

/-- A failed call stays failed. -/
theorem failed_after (failed : taken.before.status = .ended .failed) :
    taken.after.status = .ended .failed := by
  have ended : taken.before.status.isTerminal = true := by rw [failed]; rfl
  exact (status_takeAll_of_terminal ended [taken.notice]).trans failed

end Taken

/-- A failed call had no answer, and ended with a failed dial status. -/
theorem unanswered_takeAll {session : Session} (going : session.status ≠ .ended .failed)
    (notices : List Notice) (failed : (session.takeAll notices).status = .ended .failed) :
    (session.takeAll notices).Unanswered := by
  revert failed
  refine takeAll_of_kept
    (P := fun session => session.status = .ended .failed → session.Unanswered)
    (fun failed => absurd failed going) ?_
  intro taken _ before failed
  by_cases already : taken.before.status = .ended .failed
  · obtain ⟨unanswered, given, kept, fails⟩ := before already
    obtain ⟨sameAnswer, sameStatus⟩ := Taken.attempt_kept (by rw [already]; rfl)
    exact ⟨sameAnswer.trans unanswered, given, sameStatus.trans kept, fails⟩
  · exact (Taken.fails_cases already failed).2

/-- A call that has failed in the end has failed at one of the events. -/
theorem exists_failing {session : Session} (going : session.status ≠ .ended .failed)
    {notices : List Notice} (failed : (session.takeAll notices).status = .ended .failed) :
    ∃ taken ∈ session.takings notices,
      taken.before.status = .dialing ∧ taken.after.status = .ended .failed := by
  have along := takeAll_iff_exists (fun record => record.status = .ended .failed)
    (fun taken => taken.before.status = .dialing ∧ taken.after.status = .ended .failed) session
    notices fun taken _ => by
      constructor
      · intro failed
        by_cases already : taken.before.status = .ended .failed
        · exact .inl already
        · exact .inr ⟨(Taken.fails_cases already failed).1, failed⟩
      · rintro (already | ⟨-, failed⟩)
        · exact Taken.failed_after already
        · exact failed
  exact (along.mp failed).resolve_left going

/-! ### The theorem -/

/-- What the record of a call shows of answers and bridges, as long as the call was not connected. -/
structure Unconnected (session : Session) (notices : List Notice) : Prop where
  /-- A call that is new or dialing shows no trace of a bridge. -/
  early : (session.takeAll notices).status = .new ∨ (session.takeAll notices).status = .dialing →
    (session.takeAll notices).Untouched
  /-- Neither does a failed call, of which no attempt was answered, and which ended with one of the
  failed dial statuses. -/
  failed : (session.takeAll notices).status = .ended .failed →
    (session.takeAll notices).Untouched ∧ (session.takeAll notices).answered = false ∧
      ∃ given, (session.takeAll notices).dialStatus = some given ∧ isFailedDial given = true
  /-- A failed call has failed at one of the events, while it was dialing. -/
  failing : (session.takeAll notices).status = .ended .failed →
    ∃ taken ∈ session.takings notices,
      taken.before.status = .dialing ∧ taken.after.status = .ended .failed
  /-- And it does not fail otherwise. -/
  fromDialing : ∀ taken ∈ session.takings notices, taken.before.status ≠ .ended .failed →
    taken.after.status = .ended .failed → taken.before.status = .dialing
  /-- That an attempt was answered is kept, and noted for an answer while dialing alone. -/
  answered : ∀ taken ∈ session.takings notices,
    taken.after.answered = true ↔ taken.before.answered = true ∨ taken.answers = true
  /-- A call whose channel has left the bridge was connected. -/
  left : (session.takeAll notices).bridgeLeft = true → session.EverBridged notices

/-- **A failed call was never answered or connected**, whatever its record takes in. -/
theorem failed_never_connected (callId : String) (time : Timestamp) (notices : List Notice) :
    (new callId time).Unconnected notices := by
  have untouched (never : ¬ (new callId time).EverBridged notices) :
      ((new callId time).takeAll notices).Untouched :=
    untouched_takeAll (untouched_new callId time) never
  have going : (new callId time).status ≠ .ended .failed := by simp [new]
  refine ⟨?early, ?failed, exists_failing going, ?fromDialing, ?answered, ?left⟩
  case early =>
    intro early
    refine untouched fun ever => ?_
    rcases ever.outcome with bridged | hungUp
    · simp [bridged] at early
    · simp [hungUp] at early
  case failed =>
    intro failed
    refine ⟨untouched fun ever => ?_, unanswered_takeAll going notices failed⟩
    rcases ever.outcome with bridged | hungUp
    · simp [bridged] at failed
    · simp [hungUp] at failed
  case fromDialing =>
    intro taken _ going failed
    exact (Taken.fails_cases going failed).1
  case answered =>
    intro taken _
    exact taken.answered_after
  case left =>
    intro left
    by_contra never
    rw [(untouched never).inside] at left
    cases left

/-- A call whose second attempt fails, and which is hung up afterwards. -/
def givenUp : List Notice := [
  ⟨.dialBegin (some "PJSIP/8") none, "DialBegin", .epoch⟩,
  ⟨.dialEnd none none, "DialEnd", .epoch⟩,
  ⟨.dialBegin (some "PJSIP/9") none, "DialBegin", .epoch⟩,
  ⟨.dialEnd (some "NOANSWER") none, "DialEnd", .epoch⟩,
  ⟨.hangup (some "No user responding"), "Hangup", .epoch⟩]

/-- The hangup adds its cause, and the call stays one that nobody answered. -/
theorem failed_never_connected_givenUp :
    ((new "1.1" .epoch).takeAll givenUp).status = .ended .failed ∧
      ((new "1.1" .epoch).takeAll givenUp).hangupCause = some "No user responding" ∧
      ((new "1.1" .epoch).takeAll givenUp).Untouched ∧
      ((new "1.1" .epoch).takeAll givenUp).answered = false := by
  have fails : isFailedDial "NOANSWER" = true :=
    List.any_eq_true.mpr ⟨"NOANSWER", by simp [failedDialStatuses], Text.sameName_iff.mpr rfl⟩
  have unanswered := not_isAnsweredDial fails
  obtain ⟨failed, cause⟩ : ((new "1.1" .epoch).takeAll givenUp).status = .ended .failed ∧
      ((new "1.1" .epoch).takeAll givenUp).hangupCause = some "No user responding" := by
    simp [givenUp, takeAll, take, apply, note, new, react, onDialBegin, onDialEnd, onHangup,
      wasBridged, fails, unanswered, isAnsweredDial_empty, isFailedDial_empty]
  have shows := (failed_never_connected "1.1" .epoch givenUp).failed failed
  exact ⟨failed, cause, shows.1, shows.2.1⟩

end Switchboard.Session
