/-
**The session of a call behind an event.**

An event that is accepted moves the session of its own call on and leaves the others
(`session?_putSession`); there is a job exactly where that session has a change to tell, and the job
carries the snapshot after it (`apply_eq_some`). So a tracker that has a record of a call once has a
later record of it ever after (`knows_after`), and no job tells of the same call with the same
snapshot as an earlier one (`Knows.metadata_ne`).
-/

import Switchboard.Proofs.Call.Record
import Switchboard.Proofs.Tracker.Run

namespace Switchboard

theorem session?_putSession (session : Session) (sessions : List Session) (callId : String) :
    (putSession session sessions).find? (·.callId = callId) =
      if session.callId = callId then some session else sessions.find? (·.callId = callId) := by
  induction sessions with
  | nil =>
    unfold putSession
    rw [List.find?_singleton]
    simp only [decide_eq_true_eq]
    rfl
  | cons first rest ih =>
    unfold putSession
    by_cases same : first.callId = session.callId
    · rw [if_pos same, List.find?_cons, List.find?_cons, same]
      by_cases own : session.callId = callId
      · rw [if_pos own, decide_eq_true own]
      · rw [if_neg own, decide_eq_false own]
    · rw [if_neg same, List.find?_cons, List.find?_cons, ih]
      by_cases own : session.callId = callId
      · have other : first.callId ≠ callId := fun equal => same (equal.trans own.symm)
        rw [if_pos own, if_pos own, decide_eq_false other]
      · rw [if_neg own, if_neg own]

namespace Tracker

/-- The record that an accepted event meets: that of its call, or a new one. -/
def recordFor (tracker : Tracker) (passed : Accepted) (event : Event) : Session :=
  (tracker.session? passed.callId).getD (Session.new passed.callId event.receivedAt)

theorem callId_of_session? {tracker : Tracker} {callId : String} {session : Session}
    (found : tracker.session? callId = some session) : session.callId = callId := by
  have named := List.find?_some found
  exact of_decide_eq_true named

theorem callId_recordFor (tracker : Tracker) (passed : Accepted) (event : Event) :
    (tracker.recordFor passed event).callId = passed.callId := by
  unfold recordFor
  cases found : tracker.session? passed.callId with
  | none => rfl
  | some session => exact callId_of_session? found

theorem metadata_jobFor (session : Session) (change : SessionChange) :
    (jobFor session change).metadata = session.metadata := by
  cases change <;> rfl

theorem callId_jobFor (session : Session) (change : SessionChange) :
    (jobFor session change).callId = session.callId := by
  cases change <;> rfl

/-- Only the change that starts a conversation makes a job with the tag of one. -/
theorem change_of_tag {session : Session} {change : SessionChange}
    (tag : (jobFor session change).tag = Job.conversationTag) :
    ∃ number name state, change = .conversationStarted number name state := by
  cases change with
  | conversationStarted number name state => exact ⟨number, name, state, rfl⟩
  | updated previous summary =>
    have differ : Job.updateTag ≠ Job.conversationTag := by decide
    exact absurd tag differ

/-- Whether the tracker has a record of the call that is as late as the given one. -/
def Knows (tracker : Tracker) (record : Session) : Prop :=
  ∃ session, tracker.session? record.callId = some session ∧ record.Precedes session

/-- The record that an event of a known call meets is as late as the known one. -/
theorem Knows.precedes {tracker : Tracker} {record : Session} (knows : tracker.Knows record)
    {passed : Accepted} (own : passed.callId = record.callId) (event : Event) :
    record.Precedes (tracker.recordFor passed event) := by
  obtain ⟨session, found, precedes⟩ := knows
  unfold recordFor
  rw [own, found]
  exact precedes

variable [Digest]

theorem apply_of_accepted {tracker : Tracker} {event : Event} {passed : Accepted}
    (passes : tracker.accept? event = some passed) :
    let moved := (tracker.recordFor passed event).apply passed.callEvent event.name event.receivedAt
    tracker.apply event =
      ({ tracker with
          sessions := putSession moved.1 tracker.sessions
          window := passed.window },
        moved.2.map (jobFor moved.1)) := by
  unfold apply
  rw [passes]
  rfl

/-- The session of a call behind an accepted event. -/
theorem session?_apply {tracker : Tracker} {event : Event} {passed : Accepted}
    (passes : tracker.accept? event = some passed) (callId : String) :
    (tracker.apply event).1.session? callId =
      if passed.callId = callId then
        some ((tracker.recordFor passed event).apply passed.callEvent event.name event.receivedAt).1
      else tracker.session? callId := by
  have precedes := (tracker.recordFor passed event).precedes_apply passed.callEvent event.name
    event.receivedAt
  have own := precedes.callId.trans (tracker.callId_recordFor passed event)
  rw [apply_of_accepted passes]
  unfold session?
  rw [session?_putSession, own]

/-- Where there is a job, an event was accepted and its session has a change to tell. -/
theorem apply_eq_some {tracker : Tracker} {event : Event} {job : Job}
    (made : (tracker.apply event).2 = some job) :
    ∃ passed change, tracker.accept? event = some passed ∧
      let moved := (tracker.recordFor passed event).apply passed.callEvent event.name event.receivedAt
      moved.2 = some change ∧ job = jobFor moved.1 change := by
  cases passes : tracker.accept? event with
  | none =>
    rw [apply_of_refused passes] at made
    cases made
  | some passed =>
    rw [apply_of_accepted passes] at made
    obtain ⟨change, told, rfl⟩ := Option.map_eq_some_iff.mp made
    exact ⟨passed, change, rfl, told, rfl⟩

/-! ### What a tracker knows of a call -/

theorem Knows.apply {tracker : Tracker} {record : Session} (knows : tracker.Knows record)
    (event : Event) : (tracker.apply event).1.Knows record := by
  obtain ⟨session, found, precedes⟩ := knows
  cases passes : tracker.accept? event with
  | none =>
    rw [apply_of_refused passes]
    exact ⟨session, found, precedes⟩
  | some passed =>
    unfold Knows
    rw [session?_apply passes]
    by_cases own : passed.callId = record.callId
    · rw [if_pos own]
      refine ⟨_, rfl, precedes.trans ?_⟩
      have met : tracker.recordFor passed event = session := by
        unfold recordFor
        rw [own, found]
        rfl
      rw [met]
      exact session.precedes_apply _ _ _
    · rw [if_neg own]
      exact ⟨session, found, precedes⟩

/-- What is known once is known ever after. -/
theorem Knows.after {tracker : Tracker} {record : Session} (knows : tracker.Knows record)
    (events : List Event) : (tracker.after events).Knows record := by
  induction events generalizing tracker with
  | nil => exact knows
  | cons event rest ih => exact ih (knows.apply event)

/-- The record that an accepted event leaves is known. -/
theorem knows_apply {tracker : Tracker} {event : Event} {passed : Accepted}
    (passes : tracker.accept? event = some passed) :
    (tracker.apply event).1.Knows
      ((tracker.recordFor passed event).apply passed.callEvent event.name event.receivedAt).1 := by
  have precedes := (tracker.recordFor passed event).precedes_apply passed.callEvent event.name
    event.receivedAt
  have own := precedes.callId.trans (tracker.callId_recordFor passed event)
  refine ⟨_, ?_, .refl _⟩
  rw [session?_apply passes, own, if_pos rfl]

/-- No job has the snapshot of a record that is known already. -/
theorem Knows.metadata_ne {tracker : Tracker} {record : Session} (knows : tracker.Knows record)
    {event : Event} {job : Job} (made : (tracker.apply event).2 = some job) :
    job.metadata ≠ record.metadata := by
  obtain ⟨passed, change, -, -, rfl⟩ := apply_eq_some made
  rw [metadata_jobFor]
  intro same
  have moves := (tracker.recordFor passed event).precedes_apply passed.callEvent event.name
    event.receivedAt
  have own : passed.callId = record.callId :=
    (moves.callId.trans (tracker.callId_recordFor passed event)).symm.trans
      (Session.metadata_inj same).1
  refine (knows.precedes own event).metadata_ne ?_ same
  rw [Session.history_apply, List.length_append, List.length_singleton]
  exact Nat.lt_succ_self _

/-- No conversation starts for a call that is known to have one. -/
theorem Knows.callId_ne {tracker : Tracker} {record : Session} (knows : tracker.Knows record)
    (started : record.conversationStarted = true) {event : Event} {job : Job}
    (made : (tracker.apply event).2 = some job) (starts : job.tag = Job.conversationTag) :
    job.callId ≠ record.callId := by
  obtain ⟨passed, change, -, told, rfl⟩ := apply_eq_some made
  obtain ⟨number, name, state, rfl⟩ := change_of_tag starts
  obtain ⟨unstarted, -⟩ := Session.started_of_react told
  have moves := (tracker.recordFor passed event).precedes_apply passed.callEvent event.name
    event.receivedAt
  rw [callId_jobFor, moves.callId, callId_recordFor]
  intro own
  have already := (knows.precedes own event).started started
  exact Bool.false_ne_true (Eq.trans unstarted.symm already)

end Tracker

end Switchboard
