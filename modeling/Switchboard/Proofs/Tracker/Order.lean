/-
**The jobs of a call come in the order of its life.**

Whoever has two jobs of one call can tell which is the later one. The record behind the later job is
the record behind the earlier one with events more (`Reports.later`); so the later job counts more
events, its status ranks at least as high, and it does not start the conversation again
(`emittedFor_pairwise`).
-/

import Switchboard.Proofs.Job.Payload
import Switchboard.Proofs.Tracker.Reports

namespace Switchboard

open Session (Notice)

namespace Session

theorem length_history_takeAll (session : Session) (notices : List Notice) :
    (session.takeAll notices).history.length = session.history.length + notices.length := by
  induction notices generalizing session with
  | nil => rfl
  | cons notice rest ih =>
    show ((session.take notice).takeAll rest).history.length = _
    rw [ih, take, history_apply, List.length_append, List.length_singleton, List.length_cons]
    omega

theorem precedes_takeAll (session : Session) (notices : List Notice) :
    session.Precedes (session.takeAll notices) := by
  induction notices generalizing session with
  | nil => exact .refl session
  | cons notice rest ih => exact (session.precedes_apply _ _ _).trans (ih _)

end Session

/-- Whether one snapshot of a call may be an earlier one than another: it counts fewer events, and
its status does not rank higher. -/
def Snapshot.Before (earlier later : Json) : Prop :=
  (∃ first second, Snapshot.status? earlier = some first ∧ Snapshot.status? later = some second ∧
    first.rank ≤ second.rank) ∧
  ∃ first second, Snapshot.eventCount? earlier = some first ∧
    Snapshot.eventCount? later = some second ∧ first < second

theorem Snapshot.before_takeAll (session : Session) {notices : List Notice} (some_ : notices ≠ []) :
    Snapshot.Before session.metadata (session.takeAll notices).metadata := by
  refine ⟨⟨_, _, Snapshot.status?_metadata _, Snapshot.status?_metadata _,
    session.rank_takeAll notices⟩, _, _, Snapshot.eventCount?_metadata _,
    Snapshot.eventCount?_metadata _, ?_⟩
  rw [session.length_history_takeAll]
  have := List.length_pos_iff.mpr some_
  omega

namespace Tracker

variable [Digest] {tracker : Tracker} {event : Event} {snapshot : Session} {change : SessionChange}
  {callId : String}

/-- The record behind a report is the one before it with an event more. -/
theorem Reports.taken (reports : tracker.Reports event snapshot change) {record : Session}
    (found : tracker.session? snapshot.callId = some record) :
    (∃ notice, snapshot = record.take notice) ∧
      ((jobFor snapshot change).tag = Job.conversationTag →
        record.conversationStarted = false) := by
  obtain ⟨passed, passes, moved⟩ := reports
  have precedes := (tracker.recordFor passed event).precedes_apply passed.callEvent event.name
    event.receivedAt
  rw [moved] at precedes
  have own : passed.callId = snapshot.callId :=
    (precedes.callId.trans (tracker.callId_recordFor passed event)).symm
  have met : tracker.recordFor passed event = record := by
    unfold recordFor
    rw [own, found]
    rfl
  rw [met] at moved
  refine ⟨⟨passed.notice event, (congrArg Prod.fst moved).symm⟩, fun starts => ?_⟩
  obtain ⟨number, name, state, rfl⟩ := change_of_tag starts
  exact (Session.started_of_react (congrArg Prod.snd moved)).1

/-- A report that starts the conversation leaves a record that says so. -/
theorem Reports.started (reports : tracker.Reports event snapshot change)
    (starts : (jobFor snapshot change).tag = Job.conversationTag) :
    snapshot.conversationStarted = true := by
  obtain ⟨passed, passes, moved⟩ := reports
  obtain ⟨number, name, state, rfl⟩ := change_of_tag starts
  have started := (Session.started_of_react (congrArg Prod.snd moved)).2
  exact (congrArg (fun outcome => outcome.1.conversationStarted) moved).symm.trans started

/-- The record behind a later report is the one behind the earlier with events more, and only one of
them starts the conversation. -/
theorem Reports.later (reports : tracker.Reports event snapshot change) {events : List Event}
    {next : Event} {after : Session} {told : SessionChange}
    (again : ((tracker.apply event).1.after events).Reports next after told)
    (own : after.callId = snapshot.callId) :
    (∃ notices, notices ≠ [] ∧ after = snapshot.takeAll notices) ∧
      ((jobFor snapshot change).tag = Job.conversationTag →
        (jobFor after told).tag ≠ Job.conversationTag) := by
  obtain ⟨notices, found⟩ := session?_after reports.session? events
  obtain ⟨⟨notice, taken⟩, unstarted⟩ := again.taken (own ▸ found)
  refine ⟨⟨notices ++ [notice], List.append_ne_nil_of_right_ne_nil _ (List.cons_ne_nil _ _), ?_⟩,
    fun starts startsAgain => ?_⟩
  · rw [Session.takeAll_append]
    exact taken
  · have started := (snapshot.precedes_takeAll notices).started (reports.started starts)
    exact Bool.false_ne_true ((unstarted startsAgain).symm.trans started)

/-- Every job of a call comes from one of the events. -/
theorem report_of_mem {events : List Event} {job : Job}
    (member : job ∈ tracker.emittedFor callId events) :
    ∃ before event later snapshot change, events = before ++ event :: later ∧
      (tracker.after before).Reports event snapshot change ∧ snapshot.callId = callId ∧
      job = jobFor snapshot change := by
  induction events generalizing tracker with
  | nil => cases member
  | cons event rest ih =>
    rw [emittedFor_cons] at member
    rcases List.mem_append.mp member with first | further
    · rcases tracker.emittedFor_singleton_cases event callId with
        silent | ⟨snapshot, change, reports, own, told⟩
      · rw [silent] at first
        cases first
      · rw [told, List.mem_singleton] at first
        exact ⟨[], event, rest, snapshot, change, rfl, reports, own, first⟩
    · obtain ⟨before, source, later, snapshot, change, rfl, reports, own, made⟩ := ih further
      exact ⟨event :: before, source, later, snapshot, change, rfl, reports, own, made⟩

/-- **The jobs of a call come in order.** Each counts more events than those before it and ranks no
lower, and only one of them starts the conversation. -/
theorem emittedFor_pairwise (tracker : Tracker) (callId : String) (events : List Event) :
    (tracker.emittedFor callId events).Pairwise fun earlier later =>
      Snapshot.Before earlier.metadata later.metadata ∧
        (earlier.tag = Job.conversationTag → later.tag ≠ Job.conversationTag) := by
  induction events generalizing tracker with
  | nil => exact List.Pairwise.nil
  | cons event rest ih =>
    rw [emittedFor_cons]
    rcases tracker.emittedFor_singleton_cases event callId with
      silent | ⟨snapshot, change, reports, own, told⟩
    · rw [silent]
      exact ih _
    · rw [told, List.singleton_append, List.pairwise_cons]
      refine ⟨fun job member => ?_, ih _⟩
      obtain ⟨before, source, later, after, told, rfl, again, ours, rfl⟩ := report_of_mem member
      obtain ⟨⟨notices, more, rfl⟩, once⟩ := reports.later again (ours.trans own.symm)
      rw [metadata_jobFor, metadata_jobFor]
      exact ⟨Snapshot.before_takeAll snapshot more, once⟩

end Tracker

end Switchboard
