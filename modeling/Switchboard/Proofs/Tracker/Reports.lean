/-
**Whoever receives the jobs of a tracker knows where the calls stand.**

An event that changes the status of a call is reported with the status before it
(`reports_of_status_ne`), so along events of which no job tells for a call its status stays
(`status_of_silent`). The last job of a call carries the snapshot of the session right behind the
event that made it, and no later event has a job; so the status in the snapshot is the status now:
`last_job_tells_status`.
-/

import Switchboard.Proofs.Call.Snapshot
import Switchboard.Proofs.Tracker.Status

namespace Switchboard.Tracker

theorem status_eq {tracker : Tracker} {callId : String} {session : Session}
    (found : tracker.session? callId = some session) : tracker.status callId = session.status := by
  unfold status
  rw [found]
  rfl

section Run

variable [Digest]

/-! ### Jobs along a run -/

/-- The jobs that the tracker makes along events, in order. -/
def emitted (tracker : Tracker) (events : List Event) : List Job :=
  (tracker.jobs events).filterMap id

/-- The jobs among them that tell of one call. -/
def emittedFor (tracker : Tracker) (callId : String) (events : List Event) : List Job :=
  (tracker.emitted events).filter (·.callId = callId)

theorem emitted_cons (tracker : Tracker) (event : Event) (rest : List Event) :
    tracker.emitted (event :: rest) =
      (tracker.apply event).2.toList ++ (tracker.apply event).1.emitted rest := by
  unfold emitted
  rw [jobs, List.filterMap_cons]
  cases (tracker.apply event).2 <;> rfl

theorem emitted_append (tracker : Tracker) (first second : List Event) :
    tracker.emitted (first ++ second) =
      tracker.emitted first ++ (tracker.after first).emitted second := by
  induction first generalizing tracker with
  | nil => rfl
  | cons event rest ih =>
    rw [List.cons_append, emitted_cons, emitted_cons, ih, List.append_assoc]
    rfl

theorem emittedFor_append (tracker : Tracker) (callId : String) (first second : List Event) :
    tracker.emittedFor callId (first ++ second) =
      tracker.emittedFor callId first ++ (tracker.after first).emittedFor callId second := by
  unfold emittedFor
  rw [emitted_append, List.filter_append]

theorem emittedFor_cons (tracker : Tracker) (callId : String) (event : Event)
    (rest : List Event) :
    tracker.emittedFor callId (event :: rest) =
      tracker.emittedFor callId [event] ++ (tracker.apply event).1.emittedFor callId rest :=
  tracker.emittedFor_append callId [event] rest

theorem emittedFor_singleton (tracker : Tracker) (callId : String) (event : Event) :
    tracker.emittedFor callId [event] =
      (tracker.apply event).2.toList.filter (·.callId = callId) := by
  unfold emittedFor
  rw [emitted_cons]
  exact congrArg _ (List.append_nil _)

/-! ### One event -/

/-- Whether an event is accepted and moves the session of its call to the given one, with the given
change to tell. -/
def Reports (tracker : Tracker) (event : Event) (snapshot : Session) (change : SessionChange) :
    Prop :=
  ∃ passed, tracker.accept? event = some passed ∧
    (tracker.recordFor passed event).apply passed.callEvent event.name event.receivedAt =
      (snapshot, some change)

section Step

variable {tracker : Tracker} {event : Event} {snapshot : Session} {change : SessionChange}
  {callId : String}

theorem Reports.job (reports : tracker.Reports event snapshot change) :
    (tracker.apply event).2 = some (jobFor snapshot change) := by
  obtain ⟨passed, passes, moved⟩ := reports
  rw [apply_of_accepted passes, moved]
  rfl

theorem Reports.session? (reports : tracker.Reports event snapshot change) :
    (tracker.apply event).1.session? snapshot.callId = some snapshot := by
  obtain ⟨passed, passes, moved⟩ := reports
  have precedes := (tracker.recordFor passed event).precedes_apply passed.callEvent event.name
    event.receivedAt
  have own := precedes.callId.trans (tracker.callId_recordFor passed event)
  rw [moved] at own
  rw [session?_apply passes, if_pos own.symm, moved]

theorem Reports.emittedFor (reports : tracker.Reports event snapshot change)
    (own : snapshot.callId = callId) :
    tracker.emittedFor callId [event] = [jobFor snapshot change] := by
  rw [emittedFor_singleton, reports.job]
  exact List.filter_cons_of_pos (decide_eq_true ((callId_jobFor snapshot change).trans own))

theorem reports_of_job {job : Job} (made : (tracker.apply event).2 = some job) :
    ∃ snapshot change, tracker.Reports event snapshot change ∧ job = jobFor snapshot change := by
  obtain ⟨passed, change, passes, told, rfl⟩ := apply_eq_some made
  exact ⟨_, change, ⟨passed, passes, Prod.ext rfl told⟩, rfl⟩

/-- The job of an event that has one for the call is the only one. -/
theorem emittedFor_singleton_cases (tracker : Tracker) (event : Event) (callId : String) :
    tracker.emittedFor callId [event] = [] ∨
      ∃ snapshot change, tracker.Reports event snapshot change ∧ snapshot.callId = callId ∧
        tracker.emittedFor callId [event] = [jobFor snapshot change] := by
  cases made : (tracker.apply event).2 with
  | none =>
    refine .inl ?_
    rw [emittedFor_singleton, made]
    rfl
  | some job =>
    obtain ⟨snapshot, change, reports, rfl⟩ := reports_of_job made
    by_cases own : snapshot.callId = callId
    · exact .inr ⟨snapshot, change, reports, own, reports.emittedFor own⟩
    · refine .inl ?_
      rw [emittedFor_singleton, made]
      refine List.filter_cons_of_neg ?_
      rw [callId_jobFor, decide_eq_false own]
      exact Bool.false_ne_true

/-- A change of status is reported, with the status before it. -/
theorem reports_of_status_ne
    (changes : (tracker.apply event).1.status callId ≠ tracker.status callId) :
    ∃ snapshot summary, snapshot.callId = callId ∧
      tracker.Reports event snapshot (.updated (tracker.status callId) summary) := by
  rcases tracker.session?_step event callId with same | ⟨passed, passes, rfl, moved⟩
  · exact absurd (by unfold status; rw [same]) changes
  · have now : (tracker.apply event).1.status passed.callId =
        ((tracker.recordFor passed event).take (passed.notice event)).status := by
      unfold status
      rw [moved]
      rfl
    rcases (tracker.recordFor passed event).tells_apply (passed.notice event) with
      same | ⟨-, summary, told⟩
    · exact absurd (now.trans (same.trans (tracker.status_recordFor passed event))) changes
    · rw [status_recordFor] at told
      exact ⟨_, summary, callId_of_session? moved, passed, passes, Prod.ext rfl told⟩

end Step

/-! ### Runs -/

/-- Along events of which nothing is told for a call, its status stays. -/
theorem status_of_silent {tracker : Tracker} {callId : String} {events : List Event}
    (silent : tracker.emittedFor callId events = []) :
    (tracker.after events).status callId = tracker.status callId := by
  induction events generalizing tracker with
  | nil => rfl
  | cons event rest ih =>
    rw [emittedFor_cons, List.append_eq_nil_iff] at silent
    refine (ih silent.2).trans ?_
    by_contra changes
    obtain ⟨snapshot, summary, own, reports⟩ := reports_of_status_ne changes
    rw [reports.emittedFor own] at silent
    cases silent.1

/-- The last job of a call comes from one of the events, and those behind it have none. -/
theorem last_report {tracker : Tracker} {callId : String} {events : List Event} {job : Job}
    (last : (tracker.emittedFor callId events).getLast? = some job) :
    ∃ before event later snapshot change, events = before ++ event :: later ∧
      (tracker.after before).Reports event snapshot change ∧ snapshot.callId = callId ∧
      job = jobFor snapshot change ∧
      ((tracker.after before).apply event).1.emittedFor callId later = [] := by
  induction events using List.reverseRecOn with
  | nil => cases last
  | append_singleton events event ih =>
    rw [emittedFor_append] at last
    rcases (tracker.after events).emittedFor_singleton_cases event callId with
      silent | ⟨snapshot, change, reports, own, told⟩
    · rw [silent, List.append_nil] at last
      obtain ⟨before, earlier, later, snapshot, change, rfl, reports, own, same, quiet⟩ := ih last
      refine ⟨before, earlier, later ++ [event], snapshot, change, List.append_assoc _ _ _, reports,
        own, same, ?_⟩
      rw [after_append] at silent
      rw [emittedFor_append, quiet]
      exact silent
    · rw [told, List.getLast?_concat] at last
      exact ⟨events, event, [], snapshot, change, rfl, reports, own, (Option.some.inj last).symm,
        rfl⟩

/-- **Whoever receives the jobs knows where a call stands.** After any events a new tracker has a
session of the call. If it has made no job for the call, the call is new. Otherwise the status in
the metadata of the last job is that of the session. The metadata is the snapshot of the session
right behind the event that made the job, and the call has had no job since.

An event that changes the status of a call has one job for it. The change that it reports is an
update that carries the status before it. -/
theorem last_job_tells_status {accountId inboxId : Int} {settings : TrackerSettings}
    {events : List Event} {callId : String} {session : Session}
    (found : ((new accountId inboxId settings).after events).session? callId = some session) :
    let tracker := new accountId inboxId settings
    (tracker.emittedFor callId events = [] → session.status = .new) ∧
    (∀ job, (tracker.emittedFor callId events).getLast? = some job →
      Snapshot.status? job.metadata = some session.status ∧
      ∃ before event later snapshot, events = before ++ event :: later ∧
        ((tracker.after before).apply event).2 = some job ∧
        ((tracker.after before).apply event).1.session? callId = some snapshot ∧
        job.metadata = snapshot.metadata ∧
        ((tracker.after before).apply event).1.emittedFor callId later = []) ∧
    ∀ before event later, events = before ++ event :: later →
      let earlier := tracker.after before
      (earlier.apply event).1.status callId ≠ earlier.status callId →
      ∃ snapshot summary,
        earlier.Reports event snapshot (.updated (earlier.status callId) summary) ∧
        (earlier.apply event).1.session? callId = some snapshot ∧
        earlier.emittedFor callId [event] =
          [jobFor snapshot (.updated (earlier.status callId) summary)] := by
  intro tracker
  refine ⟨?unreported, ?reported, ?changed⟩
  case unreported =>
    intro silent
    exact (status_eq found).symm.trans (status_of_silent silent)
  case reported =>
    intro job last
    obtain ⟨before, event, later, snapshot, change, split, reports, own, rfl, quiet⟩ :=
      last_report last
    have there : ((tracker.after before).apply event).1.session? callId = some snapshot :=
      own ▸ reports.session?
    have reached : tracker.after events = ((tracker.after before).apply event).1.after later := by
      rw [split, after_append]
      rfl
    have same : session.status = snapshot.status := calc
      session.status = (tracker.after events).status callId := (status_eq found).symm
      _ = ((tracker.after before).apply event).1.status callId := by
        rw [reached]
        exact status_of_silent quiet
      _ = snapshot.status := status_eq there
    refine ⟨?_, before, event, later, snapshot, split, reports.job, there, metadata_jobFor _ _,
      quiet⟩
    rw [metadata_jobFor, Snapshot.status?_metadata, same]
  case changed =>
    intro before event later split earlier changes
    obtain ⟨snapshot, summary, own, reports⟩ := reports_of_status_ne changes
    exact ⟨snapshot, summary, reports, own ▸ reports.session?, reports.emittedFor own⟩

end Run

open scoped SipHash

/-- A call that is dialed and connected before its channel is heard of. -/
def connecting : List Event := [
  Event.new "DialBegin" [("Uniqueid", "2.1"), ("DialString", "PJSIP/9")],
  Event.new "BridgeEnter" [("Uniqueid", "2.1"), ("BridgeUniqueid", "b1")],
  Event.new "Newchannel" [("Uniqueid", "2.1"), ("Channel", "PJSIP/9-1")]]

/-- The channel is taken over quietly, and the last job tells the status all the same. -/
theorem last_job_tells_status_connecting :
    let tracker := new 1 7 TrackerSettings.default
    ∃ session, (tracker.after connecting).session? "2.1" = some session ∧
      session.channel = some "PJSIP/9-1" ∧
      ∀ job, (tracker.emittedFor "2.1" connecting).getLast? = some job →
        Snapshot.status? job.metadata = some .bridged := by
  intro tracker
  have held : ((tracker.after connecting).session? "2.1").map (fun session =>
      (session.status, session.channel)) = some (.bridged, some "PJSIP/9-1") := by decide +kernel
  obtain ⟨session, found, view⟩ := Option.map_eq_some_iff.mp held
  obtain ⟨status, channel⟩ := Prod.mk.inj view
  refine ⟨session, found, channel, fun job last => ?_⟩
  have told := ((last_job_tells_status found).2.1 job last).1
  rw [told, status]

end Switchboard.Tracker
