/-
**A job is offered once.**

The tracker takes an event in before it offers the job to the queue, and it remembers the event
whatever the queue says. So a refusal is reported to the caller and changes nothing else
(`handleAll_tracker`). The event itself, delivered again while the window remembers it, has no job.
Later it may be taken for a new one, but a job that it has then counts more events. So the queue is
never offered the refused job again: `refused_job_offered_once`.
-/

import Switchboard.Proofs.Tracker.Redelivery
import Switchboard.Proofs.Tracker.Sessions

namespace Switchboard.Tracker

section Run

variable [Digest]

/-! ### A tracker and its queue -/

section Queue

variable {σ : Type} {tracker : Tracker} {event : Event}
  {enqueue : QueuedJob → σ → Except BridgeError Unit × σ} {queue : σ}

/-- The tracker and its queue behind events, each of which is taken in and its job handed over. -/
def handleAll (tracker : Tracker) (enqueue : QueuedJob → σ → Except BridgeError Unit × σ)
    (queue : σ) (events : List Event) : Tracker × σ :=
  events.foldl (fun now event => (now.1.handle event enqueue now.2).2) (tracker, queue)

theorem handle_of_silent (silent : (tracker.apply event).2 = none) :
    tracker.handle event enqueue queue = (.ok (), (tracker.apply event).1, queue) := by
  unfold handle
  split
  · next later applied =>
    rw [applied]
  · next later job applied =>
    rw [applied] at silent
    cases silent

theorem handle_of_job {job : Job} (made : (tracker.apply event).2 = some job) :
    tracker.handle event enqueue queue =
      ((enqueue (tracker.address job) queue).1, (tracker.apply event).1,
        (enqueue (tracker.address job) queue).2) := by
  unfold handle
  split
  · next later applied =>
    rw [applied] at made
    cases made
  · next later other applied =>
    rw [applied] at made ⊢
    cases made
    rfl

/-- What the queue says makes no difference to the tracker. -/
theorem handle_tracker : (tracker.handle event enqueue queue).2.1 = (tracker.apply event).1 := by
  cases made : (tracker.apply event).2 with
  | none => rw [handle_of_silent made]
  | some job => rw [handle_of_job made]

theorem handleAll_tracker (events : List Event) :
    (tracker.handleAll enqueue queue events).1 = tracker.after events := by
  induction events generalizing tracker queue with
  | nil => rfl
  | cons event rest ih =>
    have step : (tracker.handleAll enqueue queue (event :: rest)).1 =
        ((tracker.handle event enqueue queue).2.1.handleAll enqueue
          (tracker.handle event enqueue queue).2.2 rest).1 := rfl
    rw [step, ih, handle_tracker]
    rfl

end Queue

/-! ### After a refusal -/

/-- A copy of an event that was accepted has no job while the window remembers it. -/
theorem silent_of_young {accountId inboxId : Int} {settings : TrackerSettings}
    {events since : List Event} {event copy : Event}
    (passes : (((new accountId inboxId settings).after events).accept? event).isSome = true)
    (copies : event.IsCopy copy)
    (young : ((((new accountId inboxId settings).after events).apply event).1.accepted since).length
      < max settings.dedupWindow 1) :
    let now := (((new accountId inboxId settings).after events).apply event).1.after since
    now.apply copy = (now, none) := by
  intro now
  have reached : now = (new accountId inboxId settings).after (events ++ event :: since) := by
    rw [after_append]
    rfl
  have accepted : (new accountId inboxId settings).accepted (events ++ event :: since) =
      (new accountId inboxId settings).accepted events ++ event ::
        (((new accountId inboxId settings).after events).apply event).1.accepted since := by
    rw [accepted_append, Tracker.accepted, if_pos passes]
  refine apply_of_refused (refused_of_contains ?_)
  rw [copies.fingerprint, reached]
  exact remembers accepted young

/-- **A refused job is offered once.** Whatever the queue has said to earlier jobs, when it refuses
the job of an event:

* the refusal is what the caller gets, and the tracker is as if the queue had taken the job;
* the event and its copies, delivered again while the window remembers them, change nothing, and
  the queue is offered nothing;
* no event that is ever delivered again has this job, and none starts the conversation that the job
  was to start. -/
theorem refused_job_offered_once {σ : Type} {accountId inboxId : Int} {settings : TrackerSettings}
    {enqueue : QueuedJob → σ → Except BridgeError Unit × σ} {first before after : σ}
    {events : List Event} {tracker later : Tracker} {event : Event} {error : BridgeError}
    (reached : (new accountId inboxId settings).handleAll enqueue first events = (tracker, before))
    (refused : tracker.handle event enqueue before = (.error error, later, after)) :
    ∃ job, tracker.apply event = (later, some job) ∧
      enqueue (tracker.address job) before = (.error error, after) ∧
      (∀ copy since, event.IsCopy copy →
        (later.accepted since).length < max 1 settings.dedupWindow →
        ∀ (τ : Type) (offer : QueuedJob → τ → Except BridgeError Unit × τ) (queue : τ),
          (later.after since).handle copy offer queue = (.ok (), later.after since, queue)) ∧
      ∀ since next again, ((later.after since).apply next).2 = some again →
        again ≠ job ∧
        (job.tag = Job.conversationTag → again.tag = Job.conversationTag →
          again.callId ≠ job.callId) := by
  have run : tracker = (new accountId inboxId settings).after events :=
    (congrArg Prod.fst reached).symm.trans (handleAll_tracker events)
  cases made : (tracker.apply event).2 with
  | none =>
    rw [handle_of_silent made] at refused
    cases refused
  | some job =>
    rw [handle_of_job made] at refused
    obtain ⟨answer, moved, rest⟩ : (enqueue (tracker.address job) before).1 = .error error ∧
        (tracker.apply event).1 = later ∧ (enqueue (tracker.address job) before).2 = after := by
      simpa only [Prod.mk.injEq] using refused
    obtain ⟨passed, change, passes, told, rfl⟩ := apply_eq_some made
    have knows := moved ▸ knows_apply passes
    refine ⟨_, Prod.ext moved made, Prod.ext answer rest, ?_, ?_⟩
    · intro copy since copies young τ offer queue
      rw [Nat.max_comm, ← moved, run] at young
      have silent := silent_of_young (by rw [← run, passes]; rfl) copies young
      rw [← run, moved] at silent
      rw [handle_of_silent (by rw [silent]), silent]
    · intro since next again more
      have later_ := knows.after since
      refine ⟨?_, ?_⟩
      · rintro rfl
        exact later_.metadata_ne more (metadata_jobFor _ _)
      · intro starts startsAgain
        obtain ⟨number, name, state, rfl⟩ := change_of_tag starts
        rw [callId_jobFor]
        exact later_.callId_ne (Session.started_of_react told).2 more startsAgain

end Run

open scoped SipHash

/-- A queue that refuses every job. -/
def refuseAll (_ : QueuedJob) (taken : List QueuedJob) : Except BridgeError Unit × List QueuedJob :=
  (.error (.queue "recorder refuses"), taken)

/-- A queue that takes every job. -/
def takeAll (job : QueuedJob) (taken : List QueuedJob) : Except BridgeError Unit × List QueuedJob :=
  (.ok (), taken ++ [job])

/-- A channel that rings, and the dial attempt behind it. -/
def ring : Event :=
  Event.new "Newchannel" [("Uniqueid", "1.1"), ("ChannelStateDesc", "Ring"), ("CallerIDNum", "100")]

def dial : Event :=
  Event.new "DialBegin" [("Uniqueid", "1.1"), ("DialString", "PJSIP/9")]

/-- The tracker that has heard the channel ring. -/
def ringing : Tracker :=
  (new 1 7 TrackerSettings.default).after [ring]

theorem handle_refuseAll (tracker : Tracker) (event : Event) (taken : List QueuedJob)
    (made : (tracker.apply event).2.isSome = true) :
    tracker.handle event refuseAll taken =
      (.error (.queue "recorder refuses"), (tracker.apply event).1, taken) := by
  obtain ⟨job, made⟩ := Option.isSome_iff_exists.mp made
  exact handle_of_job made

theorem refused_job_offered_once_dial :
    (new 1 7 TrackerSettings.default).handleAll refuseAll [] [ring] = (ringing, []) ∧
      ringing.handle dial refuseAll [] =
        (.error (.queue "recorder refuses"), (ringing.apply dial).1, []) ∧
      ∃ job, (ringing.apply dial).2 = some job ∧
        ∀ since next, (((ringing.apply dial).1.after since).apply next).2 ≠ some job := by
  have reached : (new 1 7 TrackerSettings.default).handleAll refuseAll [] [ring] = (ringing, []) :=
    congrArg Prod.snd (handle_refuseAll _ ring [] (by decide +kernel))
  have refused := handle_refuseAll ringing dial [] (by decide +kernel)
  obtain ⟨job, made, -, -, once⟩ := refused_job_offered_once reached refused
  exact ⟨reached, refused, job, congrArg Prod.snd made,
    fun since next again => (once since next job again).1 rfl⟩

theorem redelivery_offers_nothing :
    ¬∀ (settings : TrackerSettings) (events : List Event) (event : Event) (job : Job),
      let tracker := (new 1 7 settings).after events
      let refused := tracker.handle event refuseAll []
      (tracker.apply event).2 = some job →
        (refused.2.1.handle event takeAll []).2.2 = [tracker.address job] := by
  intro resubmits
  have offered : (ringing.apply dial).2.isSome = true := by decide +kernel
  obtain ⟨job, made⟩ := Option.isSome_iff_exists.mp offered
  have submitted := resubmits TrackerSettings.default [ring] dial job made
  have silent : (ringing.apply dial).1.apply dial = ((ringing.apply dial).1, none) :=
    @silent_of_young _ 1 7 TrackerSettings.default [ring] [] dial dial (by decide +kernel)
      ⟨rfl, .refl _⟩ (by decide)
  have nothing : ((ringing.handle dial refuseAll []).2.1.handle dial takeAll []).2.2 = [] := by
    rw [handle_refuseAll ringing dial [] offered, handle_of_silent (congrArg Prod.snd silent)]
  cases nothing.symm.trans submitted

end Switchboard.Tracker
