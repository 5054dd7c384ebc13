/-
**Calls do not influence each other.**

The calls of an inbox share one window. As long as the window forgets nothing and no events collide,
it refuses an event of a call only for an earlier event of that call: the two have one fingerprint
and so the same contents, which tell the channel of an event that names it once. So what a call
comes to is what it comes to in a tracker of its own: `calls_isolated`.

* `contains_iff_of_room`, `nodup_prints`: a window with room for the distinct fingerprints holds all
  of them;
* `AgreeOn.apply`: two trackers that agree on a call take in an event of it alike;
* `Apart`: what a call has in common with itself alone, kept by every event.
-/

import Mathlib.Data.Finset.Dedup
import Switchboard.Proofs.Event.Copy
import Switchboard.Proofs.Tracker.Memory
import Switchboard.Proofs.Tracker.Reports

namespace Switchboard

namespace Tracker

/-- The events of one call. -/
def eventsOf (callId : String) (events : List Event) : List Event :=
  events.filter (·.uniqueId = some callId)

theorem eventsOf_concat (callId : String) (events : List Event) (last : Event) :
    eventsOf callId (events ++ [last]) =
      eventsOf callId events ++ if last.uniqueId = some callId then [last] else [] := by
  unfold eventsOf
  rw [List.filter_append, List.filter_singleton]
  by_cases own : last.uniqueId = some callId
  · rw [decide_eq_true own, if_pos own]
    rfl
  · rw [decide_eq_false own, if_neg own]
    rfl

theorem length_dedup_append_le (first second : List Fingerprint) :
    first.dedup.length ≤ (first ++ second).dedup.length := by
  refine (List.subperm_of_subset first.nodup_dedup fun print member => ?_).length_le
  exact List.mem_dedup.mpr (List.mem_append_left second (List.mem_dedup.mp member))

section Calls

variable [Digest]

/-- The fingerprints of the events that a tracker accepts, one for each time. -/
def prints (tracker : Tracker) (events : List Event) : List Fingerprint :=
  (tracker.accepted events).map Event.fingerprint

variable {tracker whole apart : Tracker} {event : Event} {passed : Accepted} {callId : String}

/-! ### A window that forgets nothing -/

section Window

variable {accountId inboxId : Int} {settings : TrackerSettings} {events : List Event}

/-- As long as the window has room for every fingerprint that was accepted, it holds them all. -/
theorem contains_iff_of_room
    (room : ((new accountId inboxId settings).prints events).length ≤ max settings.dedupWindow 1)
    (print : Fingerprint) :
    ((new accountId inboxId settings).after events).window.contains print = true ↔
      print ∈ (new accountId inboxId settings).prints events := by
  obtain ⟨holds, capacity⟩ := window_run accountId inboxId settings events
  have whole : ((new accountId inboxId settings).after events).window.recent =
      (new accountId inboxId settings).prints events := by
    refine holds.last.eq_of_length ?_
    rw [holds.full, capacity]
    exact Nat.min_eq_right room
  unfold Window.contains
  rw [List.contains_iff_mem, whole]

/-- An event that is accepted while the window holds all fingerprints has a new one. -/
theorem not_mem_prints
    (room : ((new accountId inboxId settings).prints events).length ≤ max settings.dedupWindow 1)
    (passes : ((new accountId inboxId settings).after events).accept? event = some passed) :
    event.fingerprint ∉ (new accountId inboxId settings).prints events := by
  rw [← contains_iff_of_room room]
  intro remembered
  rw [refused_of_contains remembered] at passes
  cases passes

theorem prints_concat (tracker : Tracker) (events : List Event) (last : Event) :
    tracker.prints (events ++ [last]) =
      tracker.prints events ++
        if ((tracker.after events).accept? last).isSome then [last.fingerprint] else [] := by
  unfold prints
  rw [accepted_concat, List.map_append]
  split <;> rfl

/-- The fingerprints that are accepted differ, unless there are more of them than the window has
room for. -/
theorem nodup_prints
    (few : ((new accountId inboxId settings).prints events).dedup.length ≤
      max settings.dedupWindow 1) :
    ((new accountId inboxId settings).prints events).Nodup := by
  induction events using List.reverseRecOn with
  | nil => exact List.nodup_nil
  | append_singleton events last ih =>
    rw [prints_concat] at few ⊢
    have earlier := (length_dedup_append_le _ _).trans few
    have distinct := ih earlier
    rw [distinct.dedup] at earlier
    cases passes : ((new accountId inboxId settings).after events).accept? last with
    | none => rwa [Option.isSome_none, if_neg Bool.false_ne_true, List.append_nil]
    | some passed =>
      rw [Option.isSome_some, if_pos rfl]
      rw [← List.concat_eq_append]
      exact distinct.concat (not_mem_prints earlier passes)

/-- So the window has had room for every fingerprint that was accepted. -/
theorem length_prints_le
    (few : ((new accountId inboxId settings).prints events).dedup.length ≤
      max settings.dedupWindow 1) :
    ((new accountId inboxId settings).prints events).length ≤ max settings.dedupWindow 1 := by
  rwa [(nodup_prints few).dedup] at few

end Window

/-! ### An event of the call -/

theorem uniqueId_of_accept? (passes : tracker.accept? event = some passed) :
    event.uniqueId = some passed.callId := by
  unfold accept? at passes
  split at passes
  · cases passes
  · next callId named =>
    simp only at passes
    split at passes
    · cases passes
    · split at passes
      · cases passes
      · obtain ⟨window, -, rfl⟩ := Option.map_eq_some_iff.mp passes
        exact named

/-- A job tells of the call that the event names. -/
theorem uniqueId_of_job {job : Job} (made : (tracker.apply event).2 = some job) :
    event.uniqueId = some job.callId := by
  obtain ⟨passed, change, passes, -, rfl⟩ := apply_eq_some made
  have precedes := (tracker.recordFor passed event).precedes_apply passed.callEvent event.name
    event.receivedAt
  rw [callId_jobFor, precedes.callId, callId_recordFor]
  exact uniqueId_of_accept? passes

/-- Whether two trackers agree on a call and on an event of it: they read it alike, have one session
of the call, and remember the event or not. -/
structure AgreeOn (whole apart : Tracker) (callId : String) (event : Event) : Prop where
  reads : whole.recordingVariable = apart.recordingVariable
  session : whole.session? callId = apart.session? callId
  known : whole.window.contains event.fingerprint = apart.window.contains event.fingerprint

/-- Trackers that agree let the event through alike. -/
theorem AgreeOn.accept? (agree : AgreeOn whole apart callId event)
    (own : event.uniqueId = some callId) :
    whole.accept? event = none ∧ apart.accept? event = none ∨
      ∃ passed window, passed.callId = callId ∧ whole.accept? event = some passed ∧
        apart.accept? event = some { passed with window } := by
  unfold Tracker.accept?
  rw [own, agree.reads]
  dsimp only
  rw [agree.session]
  split
  · exact .inl ⟨rfl, rfl⟩
  · split
    · exact .inl ⟨rfl, rfl⟩
    · cases remembered : apart.window.contains event.fingerprint with
      | true =>
        rw [Window.insert?_of_contains remembered,
          Window.insert?_of_contains (agree.known.trans remembered)]
        exact .inl ⟨rfl, rfl⟩
      | false =>
        obtain ⟨there, insertedThere⟩ := Window.exists_insert? remembered
        obtain ⟨here, insertedHere⟩ := Window.exists_insert? (agree.known.trans remembered)
        rw [insertedThere, insertedHere]
        exact .inr ⟨_, there, rfl, rfl, rfl⟩

/-- Trackers that agree answer the event alike, and have one session of the call behind it. -/
theorem AgreeOn.apply (agree : AgreeOn whole apart callId event)
    (own : event.uniqueId = some callId) :
    (whole.apply event).2 = (apart.apply event).2 ∧
      (whole.apply event).1.session? callId = (apart.apply event).1.session? callId := by
  rcases agree.accept? own with ⟨here, there⟩ | ⟨passed, window, rfl, here, there⟩
  · rw [apply_of_refused here, apply_of_refused there]
    exact ⟨rfl, agree.session⟩
  · have met : whole.recordFor passed event = apart.recordFor { passed with window } event := by
      unfold recordFor
      rw [agree.session]
    refine ⟨?_, ?_⟩
    · rw [apply_of_accepted here, apply_of_accepted there, met]
    · rw [session?_apply here, session?_apply there, if_pos rfl, if_pos rfl, met]

/-! ### One call among others -/

theorem emittedFor_own (own : event.uniqueId = some callId) :
    tracker.emittedFor callId [event] = (tracker.apply event).2.toList := by
  rw [emittedFor_singleton, List.filter_eq_self]
  intro job made
  have named := uniqueId_of_job (Option.mem_toList.mp made)
  rw [own] at named
  exact decide_eq_true (Option.some.inj named).symm

/-- An event of another call has no job for the call. -/
theorem emittedFor_other (other : event.uniqueId ≠ some callId) :
    tracker.emittedFor callId [event] = [] := by
  rw [emittedFor_singleton, List.filter_eq_nil_iff]
  intro job made tells
  exact other (of_decide_eq_true tells ▸ uniqueId_of_job (Option.mem_toList.mp made))

/-- An event of another call leaves the session of the call alone. -/
theorem session?_other (other : event.uniqueId ≠ some callId) :
    (tracker.apply event).1.session? callId = tracker.session? callId := by
  cases passes : tracker.accept? event with
  | none => rw [apply_of_refused passes]
  | some passed =>
    have differ : passed.callId ≠ callId := fun same => other (same ▸ uniqueId_of_accept? passes)
    rw [session?_apply passes, if_neg differ]

/-- Whether what a tracker has of a call, the session, the jobs and the events accepted, is what it
has where nothing but the events of the call arrive. -/
structure Apart (tracker : Tracker) (callId : String) (events : List Event) : Prop where
  session : (tracker.after events).session? callId =
    (tracker.after (eventsOf callId events)).session? callId
  jobs : tracker.emittedFor callId events = tracker.emitted (eventsOf callId events)
  accepted : tracker.accepted (eventsOf callId events) = eventsOf callId (tracker.accepted events)

/-- An event of another call keeps the call apart. -/
theorem Apart.other {events : List Event} {last : Event} (apart : tracker.Apart callId events)
    (other : last.uniqueId ≠ some callId) : tracker.Apart callId (events ++ [last]) := by
  have same : eventsOf callId (events ++ [last]) = eventsOf callId events := by
    rw [eventsOf_concat, if_neg other, List.append_nil]
  refine ⟨?_, ?_, ?_⟩
  · rw [same, ← apart.session, after_append]
    exact session?_other other
  · rw [same, ← apart.jobs, emittedFor_append, emittedFor_other other, List.append_nil]
  · rw [same, apart.accepted, accepted_concat]
    split
    · rw [eventsOf_concat, if_neg other, List.append_nil]
    · rw [List.append_nil]

/-- An event of the call keeps it apart, if both trackers remember it or neither does. -/
theorem Apart.own {events : List Event} {last : Event} (apart : tracker.Apart callId events)
    (own : last.uniqueId = some callId)
    (known : (tracker.after events).window.contains last.fingerprint =
      (tracker.after (eventsOf callId events)).window.contains last.fingerprint) :
    tracker.Apart callId (events ++ [last]) := by
  have agree : AgreeOn (tracker.after events) (tracker.after (eventsOf callId events)) callId last :=
    { reads := by rw [recordingVariable_after, recordingVariable_after]
      session := apart.session
      known }
  have more : eventsOf callId (events ++ [last]) = eventsOf callId events ++ [last] := by
    rw [eventsOf_concat, if_pos own]
  obtain ⟨job, session⟩ := agree.apply own
  refine ⟨?_, ?_, ?_⟩
  · rw [more, after_append, after_append]
    exact session
  · rw [more, emittedFor_append, emitted_append, apart.jobs, emittedFor_own own, job, emitted_cons]
    exact congrArg _ (List.append_nil _).symm
  · rw [more, accepted_concat, accepted_concat, apart.accepted]
    rcases agree.accept? own with ⟨here, there⟩ | ⟨passed, window, -, here, there⟩
    · rw [here, there, Option.isSome_none, if_neg Bool.false_ne_true, List.append_nil,
        List.append_nil]
    · rw [here, there, Option.isSome_some, Option.isSome_some, if_pos rfl, eventsOf_concat,
        if_pos own]

section Run

variable {accountId inboxId : Int} {settings : TrackerSettings} {events : List Event}

/-- A tracker with room for the fingerprints of all calls remembers an event of one call exactly if
a tracker of its own does. -/
theorem Apart.known {last : Event} (apart : (new accountId inboxId settings).Apart callId events)
    (room : ((new accountId inboxId settings).prints events).length ≤ max settings.dedupWindow 1)
    (single : ∀ earlier ∈ events, ¬Event.Collide last earlier)
    (once : last.HasAtMostOne "Uniqueid") (own : last.uniqueId = some callId) :
    ((new accountId inboxId settings).after events).window.contains last.fingerprint =
      ((new accountId inboxId settings).after (eventsOf callId events)).window.contains
        last.fingerprint := by
  have ours : (new accountId inboxId settings).prints (eventsOf callId events) =
      (eventsOf callId ((new accountId inboxId settings).accepted events)).map
        Event.fingerprint := congrArg (List.map _) apart.accepted
  have roomApart : ((new accountId inboxId settings).prints (eventsOf callId events)).length ≤
      max settings.dedupWindow 1 := by
    refine Nat.le_trans ?_ room
    rw [ours]
    unfold prints
    rw [List.length_map, List.length_map]
    exact List.length_filter_le _ _
  rw [Bool.eq_iff_iff, contains_iff_of_room room, contains_iff_of_room roomApart, ours]
  unfold prints eventsOf
  simp only [List.mem_map, List.mem_filter, decide_eq_true_eq]
  constructor
  · rintro ⟨earlier, member, same⟩
    have apart := single earlier ((accepted_sublist _ events).subset member)
    have named : earlier.uniqueId = last.uniqueId := by
      unfold Event.uniqueId Headers.getNonBlank
      rw [Event.get_of_contents (Event.contents_of_fingerprint apart same.symm) once]
    exact ⟨earlier, ⟨member, named.trans own⟩, same⟩
  · rintro ⟨earlier, ⟨member, -⟩, same⟩
    exact ⟨earlier, member, same⟩

theorem apart_run (distinct : Event.NoCollision events)
    (once : ∀ event ∈ events, event.HasAtMostOne "Uniqueid")
    (few : ((new accountId inboxId settings).prints events).dedup.length ≤
      max settings.dedupWindow 1) :
    (new accountId inboxId settings).Apart callId events := by
  induction events using List.reverseRecOn with
  | nil => exact ⟨rfl, rfl, rfl⟩
  | append_singleton events last ih =>
    rw [prints_concat] at few
    have earlier := (length_dedup_append_le _ _).trans few
    have isNew : last ∈ events ++ [last] := List.mem_append_right _ (List.mem_singleton_self last)
    have apart := ih
      (fun first member second other =>
        distinct first (List.mem_append_left _ member) second (List.mem_append_left _ other))
      (fun event member => once event (List.mem_append_left _ member)) earlier
    by_cases own : last.uniqueId = some callId
    · have single (event : Event) (member : event ∈ events) :=
        distinct last isNew event (List.mem_append_left _ member)
      exact apart.own own (apart.known (length_prints_le earlier) single (once last isNew) own)
    · exact apart.other own

/-- **Calls do not influence each other.** Let no two events of a stream collide, let each name its
channel at most once, and let the tracker have room in its window for the distinct fingerprints that
it accepts. Then the session of any call, or that there is none, and the jobs for the call, in order,
are those of a tracker that sees the events of this call and no others. -/
theorem calls_isolated (distinct : Event.NoCollision events)
    (once : ∀ event ∈ events, event.HasAtMostOne "Uniqueid")
    (few : (((new accountId inboxId settings).accepted events).map Event.fingerprint).dedup.length ≤
      max 1 settings.dedupWindow) (callId : String) :
    let tracker := new accountId inboxId settings
    let own := events.filter (·.uniqueId = some callId)
    (tracker.after events).session? callId = (tracker.after own).session? callId ∧
      tracker.emittedFor callId events = tracker.emitted own := by
  intro tracker own
  rw [Nat.max_comm] at few
  have apart : tracker.Apart callId events := apart_run distinct once few
  exact ⟨apart.session, apart.jobs⟩

end Run

end Calls

open scoped SipHash

/-- Two calls at once: one rings and is dialed, the other is connected in between and hangs up. -/
def crossed : List Event := [
  Event.new "Newchannel" [("Uniqueid", "1.1"), ("ChannelStateDesc", "Ring"), ("CallerIDNum", "100")],
  Event.new "BridgeEnter" [("Uniqueid", "2.1"), ("BridgeUniqueid", "b1")],
  Event.new "DialBegin" [("Uniqueid", "1.1"), ("DialString", "PJSIP/9")],
  Event.new "Hangup" [("Uniqueid", "2.1")]]

/-- A window with just enough room for both calls. -/
def fitting : TrackerSettings :=
  { TrackerSettings.default with dedupWindow := 4 }

theorem calls_isolated_crossed :
    let tracker := new 1 7 fitting
    Event.NoCollision crossed ∧ (∀ event ∈ crossed, event.HasAtMostOne "Uniqueid") ∧
    ((tracker.accepted crossed).map Event.fingerprint).dedup.length ≤
      max 1 fitting.dedupWindow ∧
    (tracker.emittedFor "1.1" crossed).length = 2 ∧ (tracker.emittedFor "2.1" crossed).length = 2 ∧
    tracker.emittedFor "1.1" crossed =
      tracker.emitted (crossed.filter (·.uniqueId = some "1.1")) := by
  intro tracker
  have distinct : Event.NoCollision crossed := by decide +kernel
  have once : ∀ event ∈ crossed, event.HasAtMostOne "Uniqueid" := by
    unfold Event.HasAtMostOne
    decide +kernel
  have few : ((tracker.accepted crossed).map Event.fingerprint).dedup.length ≤
      max 1 fitting.dedupWindow := by
    refine (List.dedup_sublist _).length_le.trans ?_
    rw [List.length_map]
    exact (tracker.accepted_sublist crossed).length_le
  exact ⟨distinct, once, few, by decide +kernel, by decide +kernel,
    (calls_isolated distinct once few "1.1").2⟩

end Tracker

end Switchboard
