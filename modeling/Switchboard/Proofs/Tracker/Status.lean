/-
**The sessions of a tracker are records of their calls.**

After any run of a new tracker the session of a call is a new record that has taken in events of the
call one after the other (`record_run`), and an event more leaves it alone or is the next that it
takes in (`session?_step`). So what holds of a record along any events holds of the sessions along
any run: the status of a call moves along the call table and in no other way, `status_along_table`.
-/

import Switchboard.Event.SipHash
import Switchboard.Proofs.Call.Table
import Switchboard.Proofs.Tracker.Sessions

namespace Switchboard.Tracker

open Session (Notice)

/-- What the record of the call is told of an accepted event. -/
def Accepted.notice (passed : Accepted) (event : Event) : Notice :=
  ⟨passed.callEvent, event.name, event.receivedAt⟩

/-- Where a call stands; a call of which nothing is known is new. -/
def status (tracker : Tracker) (callId : String) : CallStatus :=
  ((tracker.session? callId).map Session.status).getD .new

/-- The record that an event meets has the status of its call. -/
theorem status_recordFor (tracker : Tracker) (passed : Accepted) (event : Event) :
    (tracker.recordFor passed event).status = tracker.status passed.callId := by
  unfold recordFor status
  cases tracker.session? passed.callId <;> rfl

section Run

variable [Digest]

/-! ### One event -/

/-- An event leaves the session of a call alone, or is the next that the record takes in. -/
theorem session?_step (tracker : Tracker) (event : Event) (callId : String) :
    (tracker.apply event).1.session? callId = tracker.session? callId ∨
      ∃ passed, tracker.accept? event = some passed ∧ passed.callId = callId ∧
        (tracker.apply event).1.session? callId =
          some ((tracker.recordFor passed event).take (passed.notice event)) := by
  cases passes : tracker.accept? event with
  | none => exact .inl (by rw [apply_of_refused passes])
  | some passed =>
    by_cases own : passed.callId = callId
    · exact .inr ⟨passed, rfl, own, by rw [session?_apply passes, if_pos own]; rfl⟩
    · exact .inl (by rw [session?_apply passes, if_neg own])

/-- What an accepted event says is what the tracker reads it to say. -/
theorem callEvent_of_accept? {tracker : Tracker} {event : Event} {passed : Accepted}
    (passes : tracker.accept? event = some passed) :
    passed.callEvent = CallEvent.ofEvent event tracker.recordingVariable := by
  unfold accept? at passes
  split at passes
  · cases passes
  · simp only at passes
    split at passes
    · cases passes
    · split at passes
      · cases passes
      · obtain ⟨window, -, rfl⟩ := Option.map_eq_some_iff.mp passes
        rfl

theorem recordingVariable_apply (tracker : Tracker) (event : Event) :
    (tracker.apply event).1.recordingVariable = tracker.recordingVariable := by
  unfold apply
  split <;> rfl

/-- An event leaves the status of a call, or moves it along the table. -/
theorem status_apply (tracker : Tracker) (event : Event) (callId : String) :
    (tracker.apply event).1.status callId = tracker.status callId ∨
      CallStatus.Moves (CallEvent.ofEvent event tracker.recordingVariable) (tracker.status callId)
        ((tracker.apply event).1.status callId) := by
  rcases tracker.session?_step event callId with same | ⟨passed, passes, rfl, moved⟩
  · exact .inl (by unfold status; rw [same])
  · have later : (tracker.apply event).1.status passed.callId =
        ((tracker.recordFor passed event).take (passed.notice event)).status := by
      unfold status
      rw [moved]
      rfl
    rw [later, ← tracker.status_recordFor passed event, ← callEvent_of_accept? passes]
    exact (tracker.recordFor passed event).status_take (passed.notice event)

/-! ### Runs -/

theorem recordingVariable_after (tracker : Tracker) (events : List Event) :
    (tracker.after events).recordingVariable = tracker.recordingVariable := by
  induction events generalizing tracker with
  | nil => rfl
  | cons event rest ih => exact (ih _).trans (tracker.recordingVariable_apply event)

theorem rank_after (tracker : Tracker) (callId : String) (events : List Event) :
    (tracker.status callId).rank ≤ ((tracker.after events).status callId).rank := by
  induction events generalizing tracker with
  | nil => exact Nat.le_refl _
  | cons event rest ih =>
    refine Nat.le_trans ?_ (ih (tracker.apply event).1)
    rcases tracker.status_apply event callId with same | moves
    · exact Nat.le_of_eq (congrArg CallStatus.rank same.symm)
    · exact Nat.le_of_lt moves.rank_lt

theorem status_after_of_terminal {tracker : Tracker} {callId : String}
    (ended : (tracker.status callId).isTerminal = true) (events : List Event) :
    (tracker.after events).status callId = tracker.status callId := by
  induction events generalizing tracker with
  | nil => rfl
  | cons event rest ih =>
    have same : (tracker.apply event).1.status callId = tracker.status callId := by
      rcases tracker.status_apply event callId with same | moves
      · exact same
      · rw [moves.going] at ended
        cases ended
    exact (ih (same ▸ ended)).trans same

/-- A session that is there stays, and takes in more. -/
theorem session?_after {tracker : Tracker} {callId : String} {session : Session}
    (found : tracker.session? callId = some session) (events : List Event) :
    ∃ notices, (tracker.after events).session? callId = some (session.takeAll notices) := by
  induction events generalizing tracker session with
  | nil => exact ⟨[], found⟩
  | cons event rest ih =>
    rcases tracker.session?_step event callId with same | ⟨passed, -, rfl, moved⟩
    · exact ih (same.trans found)
    · have met : tracker.recordFor passed event = session := by
        unfold recordFor
        rw [found]
        rfl
      rw [met] at moved
      obtain ⟨notices, last⟩ := ih moved
      exact ⟨passed.notice event :: notices, last⟩

/-- The session of a call is a new record that has taken in events. -/
theorem record_run {accountId inboxId : Int} {settings : TrackerSettings} {events : List Event}
    {callId : String} {session : Session}
    (found : ((new accountId inboxId settings).after events).session? callId = some session) :
    ∃ opened notices, session = (Session.new callId opened).takeAll notices := by
  induction events using List.reverseRecOn generalizing session with
  | nil => cases found
  | append_singleton events last ih =>
    rw [after_append] at found
    rcases ((new accountId inboxId settings).after events).session?_step last callId with
      same | ⟨passed, -, rfl, moved⟩
    · exact ih (same.symm.trans found)
    · cases Option.some.inj (moved.symm.trans found)
      cases before : ((new accountId inboxId settings).after events).session? passed.callId with
      | none =>
        refine ⟨last.receivedAt, [passed.notice last], ?_⟩
        unfold recordFor
        rw [before]
        rfl
      | some earlier =>
        obtain ⟨opened, notices, rfl⟩ := ih before
        refine ⟨opened, notices ++ [passed.notice last], ?_⟩
        unfold recordFor
        rw [before, Session.takeAll_append]
        rfl

/-! ### The theorem -/

/-- **Status moves only along the call table.** Of a record that has taken in any events, an event
more keeps the status or moves it along the table, and it makes every move of the table except to
end a call by a failed attempt after an attempt was answered. The rank never falls, and a record
that is at its end keeps the way in which it ended.

The session of a call in any run of a tracker is such a record. An event that is delivered keeps the
status of a call or moves it along the table, as what the event says has it, and the rank and the
end of a call are kept along any run. -/
theorem status_along_table (callId : String) (time : Timestamp) (heard more : List Notice)
    (next : Notice) (accountId inboxId : Int) (settings : TrackerSettings)
    (events later : List Event) (event : Event) :
    let record := (Session.new callId time).takeAll heard
    let tracker := (new accountId inboxId settings).after events
    ((record.take next).status = record.status ∨
      CallStatus.Moves next.event record.status (record.take next).status) ∧
    (∀ status, CallStatus.Moves next.event record.status status →
      (status = .ended .failed → record.answered = false) →
      (record.take next).status = status) ∧
    record.status.rank ≤ (record.takeAll more).status.rank ∧
    (record.status.isTerminal = true → (record.takeAll more).status = record.status) ∧
    (∀ session, tracker.session? callId = some session →
      ∃ opened notices, session = (Session.new callId opened).takeAll notices) ∧
    ((tracker.apply event).1.status callId = tracker.status callId ∨
      CallStatus.Moves (CallEvent.ofEvent event settings.recordingVariable)
        (tracker.status callId) ((tracker.apply event).1.status callId)) ∧
    (tracker.status callId).rank ≤ ((tracker.after later).status callId).rank ∧
    ((tracker.status callId).isTerminal = true →
      (tracker.after later).status callId = tracker.status callId) := by
  intro record tracker
  have reads : tracker.recordingVariable = settings.recordingVariable :=
    recordingVariable_after _ events
  refine ⟨record.status_take next, fun status moves unanswered => ?made, record.rank_takeAll more,
    fun ended => Session.status_takeAll_of_terminal ended more,
    fun session found => record_run found, ?stepped, tracker.rank_after callId later,
    fun ended => status_after_of_terminal ended later⟩
  case made =>
    exact Session.status_take_of_moves (Session.unbridged_takeAll callId time heard) moves
      unanswered
  case stepped =>
    rw [← reads]
    exact tracker.status_apply event callId

end Run

open scoped SipHash

/-- What the record of a call hears that is dialed and found busy. -/
def busy : List Notice := [
  ⟨.dialBegin (some "PJSIP/9") none, "DialBegin", .epoch⟩,
  ⟨.dialEnd (some "BUSY") none, "DialEnd", .epoch⟩]

/-- Nothing turns a failed call into one that was hung up. -/
theorem status_along_table_busy :
    let record := (Session.new "1.1" .epoch).takeAll busy
    record.status = .ended .failed ∧ ∀ more, (record.takeAll more).status = .ended .failed := by
  intro record
  have failed : record.status = .ended .failed := by decide +kernel
  have along (more : List Notice) := status_along_table "1.1" .epoch busy more
    ⟨.hangup none, "Hangup", .epoch⟩ 1 7 TrackerSettings.default [] [] (Event.new "Hangup" [])
  refine ⟨failed, fun more => ?_⟩
  obtain ⟨-, -, -, stays, -⟩ := along more
  exact (stays (by rw [failed]; rfl)).trans failed

end Switchboard.Tracker
