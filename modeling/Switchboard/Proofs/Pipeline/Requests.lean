/-
**What the store of conversations sees.**

A flow keeps its books (`Sound`): what the tracker has heard and what is still due to it are the
events of the stream, its jobs are what it was to make of them, and the requests that the store has
had, with those still to come, are those of the jobs that the queue has taken. So the store sees the
jobs of the tracker in order, and only those are missing that the queue has refused.

Nothing that goes wrong makes a difference to anything else. A refused job leaves the queue as it
was, and neither a handler that fails nor a request that fails changes what is asked of the store
(`outline_run`).
-/

import Switchboard.Event.SipHash
import Switchboard.Proofs.Decoder.Arrival
import Switchboard.Proofs.Pipeline.Flow
import Switchboard.Proofs.Tracker.Order
import Switchboard.Proofs.Tracker.Refusal

namespace Switchboard

/-! ### Offers -/

namespace Tracker

variable [Digest]

theorem address_apply (tracker : Tracker) (event : Event) (job : Job) :
    (tracker.apply event).1.address job = tracker.address job := by
  unfold apply
  split <;> rfl

theorem address_after (tracker : Tracker) (events : List Event) (job : Job) :
    (tracker.after events).address job = tracker.address job := by
  induction events generalizing tracker with
  | nil => rfl
  | cons event rest ih => exact (ih _).trans (tracker.address_apply event job)

end Tracker

namespace Pipeline

variable [Digest] {tracker : Tracker} {queue : JobQueue} {event : Event} {job : Job}

theorem runTracker_of_silent (silent : (tracker.apply event).2 = none) :
    runTracker () event (tracker, queue) = (true, (tracker.apply event).1, queue) := by
  unfold runTracker
  rw [Tracker.handle_of_silent silent]

theorem runTracker_of_room (isOpen : queue.isOpen = true)
    (made : (tracker.apply event).2 = some job)
    (room : queue.waiting.length < queue.capacity) :
    runTracker () event (tracker, queue) =
      (true, (tracker.apply event).1,
        { queue with waiting := queue.waiting ++ [tracker.address job] }) := by
  unfold runTracker
  rw [Tracker.handle_of_job made, JobQueue.enqueue_open isOpen, if_neg (Nat.not_le_of_lt room)]

theorem runTracker_of_full (isOpen : queue.isOpen = true)
    (made : (tracker.apply event).2 = some job)
    (full : queue.capacity ≤ queue.waiting.length) :
    runTracker () event (tracker, queue) = (false, (tracker.apply event).1, queue) := by
  unfold runTracker
  rw [Tracker.handle_of_job made, JobQueue.enqueue_open isOpen, if_pos full]

end Pipeline

namespace Flow

variable {η σ : Type}

section Hear

variable [Digest] (flow : Flow η σ) {event : Event} {job : Job}

theorem hear_of_silent (silent : (flow.tracker.apply event).2 = none) :
    flow.hear event =
      { flow with
        tracker := (flow.tracker.apply event).1
        heard := flow.heard ++ [event] } := by
  simp only [hear, Pipeline.runTracker_of_silent silent, silent, count, if_true, Option.map_none,
    Option.toList_none, List.append_nil]

theorem hear_of_room (isOpen : flow.queue.isOpen = true)
    (made : (flow.tracker.apply event).2 = some job)
    (room : flow.queue.waiting.length < flow.queue.capacity) :
    flow.hear event =
      { flow with
        tracker := (flow.tracker.apply event).1
        queue :=
          { flow.queue with waiting := flow.queue.waiting ++ [flow.tracker.address job] }
        heard := flow.heard ++ [event]
        offers := flow.offers ++ [(job, true)] } := by
  simp only [hear, Pipeline.runTracker_of_room isOpen made room, made, count, if_true,
    Option.map_some, Option.toList_some]

theorem hear_of_full (isOpen : flow.queue.isOpen = true)
    (made : (flow.tracker.apply event).2 = some job)
    (full : flow.queue.capacity ≤ flow.queue.waiting.length) :
    flow.hear event =
      { flow with
        tracker := (flow.tracker.apply event).1
        heard := flow.heard ++ [event]
        offers := flow.offers ++ [(job, false)]
        failures := flow.failures + 1 } := by
  simp only [hear, Pipeline.runTracker_of_full isOpen made full, made, count,
    Option.map_some, Option.toList_some]
  rfl

end Hear

/-! ### The books -/

/-- Whether a flow that started with a new tracker and a new queue has lost nothing but the jobs
that the queue has refused. -/
structure Sound [Digest] (wiring : Wiring η σ) (accountId inboxId : Int) (settings : TrackerSettings)
    (capacity : Nat) (flow : Flow η σ) : Prop where
  tracker : flow.tracker = (Tracker.new accountId inboxId settings).after flow.heard
  offered : flow.offers.map Prod.fst = (Tracker.new accountId inboxId settings).emitted flow.heard
  shown : flow.heard ++ wiring.toTracker flow.due =
    wiring.toTracker (flow.frames.flatMap wiring.deliveries)
  conserved : flow.requests ++ flow.ahead = flow.taken.map (·.perform accountId inboxId)
  isOpen : flow.queue.isOpen = true
  capacity : flow.queue.capacity = max capacity 1

section Sound

variable {wiring : Wiring η σ} {accountId inboxId : Int} {settings : TrackerSettings}
  {capacity : Nat} {flow : Flow η σ}

theorem toTracker_append (first second : List (Event × η)) :
    wiring.toTracker (first ++ second) = wiring.toTracker first ++ wiring.toTracker second := by
  unfold Wiring.toTracker
  rw [List.filter_append, List.map_append]

theorem toTracker_cons_of_own {event : Event} {handler : η} (own : wiring.isTracker handler = true)
    (later : List (Event × η)) :
    wiring.toTracker ((event, handler) :: later) = event :: wiring.toTracker later := by
  have keeps : ((event, handler) :: later).filter (fun delivery => wiring.isTracker delivery.2) =
      (event, handler) :: later.filter (fun delivery => wiring.isTracker delivery.2) :=
    List.filter_cons_of_pos own
  unfold Wiring.toTracker
  rw [keeps, List.map_cons]

theorem toTracker_cons_of_other {event : Event} {handler : η}
    (other : ¬wiring.isTracker handler = true) (later : List (Event × η)) :
    wiring.toTracker ((event, handler) :: later) = wiring.toTracker later :=
  congrArg (List.map Prod.fst) (List.filter_cons_of_neg other)

variable [Digest]

theorem sound_start (decoder : Decoder) (state : σ) :
    (start decoder accountId inboxId settings capacity state).Sound wiring accountId inboxId
      settings capacity where
  tracker := rfl
  offered := rfl
  shown := rfl
  conserved := rfl
  isOpen := rfl
  capacity := rfl

theorem Sound.arrive (sound : flow.Sound wiring accountId inboxId settings capacity)
    (bytes : List UInt8) :
    (flow.arrive wiring bytes).Sound wiring accountId inboxId settings capacity where
  tracker := sound.tracker
  offered := sound.offered
  shown := by
    show flow.heard ++ wiring.toTracker (flow.due ++ _) =
      wiring.toTracker ((flow.frames ++ _).flatMap wiring.deliveries)
    rw [toTracker_append, List.flatMap_append, toTracker_append, ← sound.shown, List.append_assoc]
  conserved := sound.conserved
  isOpen := sound.isOpen
  capacity := sound.capacity

/-- The books behind an event that the tracker has heard, but for the requests. -/
theorem Sound.heard (sound : flow.Sound wiring accountId inboxId settings capacity)
    {event : Event} {handler : η} {later : List (Event × η)}
    (due : flow.due = (event, handler) :: later) (own : wiring.isTracker handler = true) :
    (flow.tracker.apply event).1 =
        (Tracker.new accountId inboxId settings).after (flow.heard ++ [event]) ∧
      flow.offers.map Prod.fst ++ (flow.tracker.apply event).2.toList =
        (Tracker.new accountId inboxId settings).emitted (flow.heard ++ [event]) ∧
      flow.heard ++ [event] ++ wiring.toTracker later =
        wiring.toTracker (flow.frames.flatMap wiring.deliveries) := by
  refine ⟨?_, ?_, ?_⟩
  · rw [Tracker.after_append, ← sound.tracker]
    rfl
  · rw [Tracker.emitted_append, ← sound.tracker, sound.offered, Tracker.emitted_cons]
    exact congrArg _ (List.append_nil _).symm
  · rw [← sound.shown, due, toTracker_cons_of_own own, List.append_assoc]
    rfl

theorem Sound.hear (sound : flow.Sound wiring accountId inboxId settings capacity)
    {event : Event} {handler : η} {later : List (Event × η)}
    (due : flow.due = (event, handler) :: later) (own : wiring.isTracker handler = true) :
    ({ flow with due := later }.hear event).Sound wiring accountId inboxId settings capacity := by
  obtain ⟨tracker, offered, shown⟩ := sound.heard due own
  cases made : (flow.tracker.apply event).2 with
  | none =>
    rw [made, Option.toList_none, List.append_nil] at offered
    rw [hear_of_silent { flow with due := later } made]
    exact ⟨tracker, offered, shown, sound.conserved, sound.isOpen, sound.capacity⟩
  | some job =>
    rw [made, Option.toList_some] at offered
    by_cases room : flow.queue.waiting.length < flow.queue.capacity
    · rw [hear_of_room { flow with due := later } sound.isOpen made room]
      refine ⟨tracker, ?_, shown, ?_, sound.isOpen, sound.capacity⟩
      · rw [List.map_append]
        exact offered
      · have asked : (flow.tracker.address job).request? =
            some (job.perform accountId inboxId) := by
          rw [sound.tracker, Tracker.address_after]
          exact Tracker.request?_address _ job
        have ahead : ((flow.inHand.toList ++
            (flow.queue.waiting ++ [flow.tracker.address job])).filterMap QueuedJob.request?) =
              flow.ahead ++ [job.perform accountId inboxId] := by
          rw [← List.append_assoc, List.filterMap_append, List.filterMap_cons, asked]
          rfl
        have taken : ((flow.offers ++ [(job, true)]).filter Prod.snd).map Prod.fst =
            flow.taken ++ [job] := by
          rw [List.filter_append, List.map_append]
          rfl
        show flow.requests ++ List.filterMap _ _ = List.map _ (List.map _ _)
        rw [ahead, taken, ← List.append_assoc, sound.conserved, List.map_append]
        rfl
    · rw [hear_of_full { flow with due := later } sound.isOpen made
        (Nat.le_of_not_lt room)]
      refine ⟨tracker, ?_, shown, ?_, sound.isOpen, sound.capacity⟩
      · rw [List.map_append]
        exact offered
      · have taken : ((flow.offers ++ [(job, false)]).filter Prod.snd).map Prod.fst =
            flow.taken := by
          rw [List.filter_append, List.map_append]
          exact List.append_nil _
        show flow.requests ++ flow.ahead = List.map _ (List.map _ _)
        rw [taken, sound.conserved]

theorem Sound.deliver (sound : flow.Sound wiring accountId inboxId settings capacity)
    (succeeds : Bool) :
    (flow.deliver wiring succeeds).Sound wiring accountId inboxId settings capacity := by
  cases due : flow.due with
  | nil =>
    unfold Flow.deliver
    rw [due]
    exact sound
  | cons delivery later =>
    by_cases own : wiring.isTracker delivery.2 = true
    · rw [deliver_of_own wiring due own]
      exact sound.hear due own
    · rw [deliver_of_other wiring due own]
      refine ⟨sound.tracker, sound.offered, ?_, sound.conserved, sound.isOpen, sound.capacity⟩
      have shown := sound.shown
      rwa [due, toTracker_cons_of_other own] at shown

theorem Sound.take (sound : flow.Sound wiring accountId inboxId settings capacity) :
    flow.take.Sound wiring accountId inboxId settings capacity := by
  unfold Flow.take
  split
  · next job queue free next =>
    unfold JobQueue.take? at next
    split at next
    · cases next
    · next first rest waiting =>
      cases next
      refine ⟨sound.tracker, sound.offered, sound.shown, ?_, sound.isOpen, sound.capacity⟩
      refine Eq.trans ?_ sound.conserved
      show flow.requests ++ (job :: rest).filterMap QueuedJob.request? =
        flow.requests ++ (flow.inHand.toList ++ flow.queue.waiting).filterMap QueuedJob.request?
      rw [free, waiting]
      rfl
  · exact sound

theorem Sound.perform (sound : flow.Sound wiring accountId inboxId settings capacity) :
    (flow.perform wiring).Sound wiring accountId inboxId settings capacity := by
  unfold Flow.perform
  split
  · next job held =>
    refine ⟨sound.tracker, sound.offered, sound.shown, ?_, sound.isOpen, sound.capacity⟩
    rw [JobQueue.performOne_recording]
    refine Eq.trans ?_ sound.conserved
    show flow.requests ++ job.request?.toList ++ flow.queue.waiting.filterMap QueuedJob.request? =
      flow.requests ++ (flow.inHand.toList ++ flow.queue.waiting).filterMap QueuedJob.request?
    rw [held, List.append_assoc, List.filterMap_append]
    cases asked : job.request? <;> simp [asked]
  · exact sound

theorem Sound.step (sound : flow.Sound wiring accountId inboxId settings capacity) (move : Move) :
    (flow.step wiring move).Sound wiring accountId inboxId settings capacity := by
  cases move with
  | arrive bytes => exact sound.arrive bytes
  | deliver succeeds => exact sound.deliver succeeds
  | take => exact sound.take
  | perform => exact sound.perform

/-- A flow keeps its books whatever happens. -/
theorem Sound.run (sound : flow.Sound wiring accountId inboxId settings capacity)
    (moves : List Move) :
    (flow.run wiring moves).Sound wiring accountId inboxId settings capacity := by
  induction moves generalizing flow with
  | nil => exact sound
  | cons move rest ih => exact ih (sound.step move)

end Sound

/-! ### The stream -/

theorem decoder_step [Digest] (wiring : Wiring η σ) (flow : Flow η σ) {move : Move}
    (silent : move.bytes? = none) :
    (flow.step wiring move).decoder = flow.decoder ∧
      (flow.step wiring move).frames = flow.frames := by
  cases move with
  | arrive bytes => cases silent
  | deliver succeeds =>
    simp only [step, deliver]
    split
    · exact ⟨rfl, rfl⟩
    · split <;> exact ⟨rfl, rfl⟩
  | take =>
    simp only [step, take]
    split <;> exact ⟨rfl, rfl⟩
  | perform =>
    simp only [step, perform]
    split <;> exact ⟨rfl, rfl⟩

/-- The frames of a flow are what its decoder makes of the pieces that arrive. -/
theorem frames_run [Digest] (wiring : Wiring η σ) (flow : Flow η σ) (moves : List Move) :
    (flow.run wiring moves).frames =
      flow.frames ++ (flow.decoder.receive (moves.filterMap Move.bytes?)).1 := by
  induction moves generalizing flow with
  | nil => exact (List.append_nil _).symm
  | cons move rest ih =>
    refine (ih (flow.step wiring move)).trans ?_
    cases given : move.bytes? with
    | some bytes =>
      rw [List.filterMap_cons_some given, Decoder.receive_cons]
      cases move with
      | arrive own =>
        cases given
        exact List.append_assoc _ _ _
      | _ => cases given
    | none =>
      rw [List.filterMap_cons_none given]
      obtain ⟨decoder, frames⟩ := flow.decoder_step wiring given
      rw [decoder, frames]

/-! ### What makes no difference -/

/-- The flow without what the store has made of its requests, and without the count of failures. -/
def outline (flow : Flow η σ) : Flow η Unit :=
  { flow with
    store := (flow.requests, ())
    failures := 0 }

/-- The move, where every handler other than the tracker succeeds. -/
def Move.flawless : Move → Move
  | .deliver _ => .deliver true
  | move => move

end Flow

/-- The wiring with another store. -/
def Wiring.withStore {η σ τ : Type} (wiring : Wiring η σ) (store : Store τ) : Wiring η τ :=
  { table := wiring.table
    isTracker := wiring.isTracker
    store }

namespace Flow

variable {η σ τ : Type} {wiring : Wiring η σ}

/-- Flows that have an outline in common differ in the state of the store and the failures alone. -/
theorem eq_of_outline {first : Flow η σ} {second : Flow η τ}
    (alike : first.outline = second.outline) :
    ∃ (state : τ) (failures : Nat),
      second = { first with store := (first.requests, state), failures } := by
  obtain ⟨_, _, _, _, _, ⟨_, _⟩, _, _, _, _⟩ := first
  obtain ⟨_, _, _, _, _, ⟨_, state⟩, _, _, _, failures⟩ := second
  cases alike
  exact ⟨state, failures, rfl⟩

/-- Neither the store nor the handlers beside the tracker make a difference to a step. -/
theorem outline_step [Digest] {first : Flow η σ} {second : Flow η τ}
    (alike : first.outline = second.outline) (store : Store τ) {move other : Move}
    (same : other.flawless = move.flawless) :
    (first.step wiring move).outline =
      (second.step (wiring.withStore store) other).outline := by
  obtain ⟨state, failures, rfl⟩ := eq_of_outline alike
  cases move with
  | arrive bytes =>
    cases other <;> cases same
    rfl
  | deliver succeeds =>
    cases other with
    | deliver otherwise =>
      obtain ⟨_, due, _, _, _, _, _, _, _, _⟩ := first
      cases due with
      | nil => rfl
      | cons delivery later =>
        simp only [step]
        by_cases own : wiring.isTracker delivery.2 = true
        · rw [deliver_of_own wiring rfl own, deliver_of_own (wiring.withStore store) rfl own]
          rfl
        · rw [deliver_of_other wiring rfl own, deliver_of_other (wiring.withStore store) rfl own]
          rfl
    | _ => cases same
  | take =>
    cases other <;> cases same
    obtain ⟨_, _, _, queue, inHand, _, _, _, _, _⟩ := first
    cases inHand with
    | some job => rfl
    | none =>
      simp only [step, take]
      cases queue.take? <;> rfl
  | perform =>
    cases other <;> cases same
    obtain ⟨_, _, _, _, inHand, _, _, _, _, _⟩ := first
    cases inHand with
    | none => rfl
    | some job =>
      simp only [step, perform, outline, requests, Wiring.withStore,
        JobQueue.performOne_recording]

/-- **Nothing that goes wrong makes a difference to anything else.** Another store, and other
handlers that fail, leave a run as it is in all but what the store makes of the requests and the
number of failures. -/
theorem outline_run [Digest] (wiring : Wiring η σ) {first : Flow η σ} {second : Flow η τ}
    (alike : first.outline = second.outline) (store : Store τ) {moves others : List Move}
    (same : others.map Move.flawless = moves.map Move.flawless) :
    (first.run wiring moves).outline =
      (second.run (wiring.withStore store) others).outline := by
  induction moves generalizing first second others with
  | nil =>
    cases List.map_eq_nil_iff.mp same
    exact alike
  | cons move rest ih =>
    cases others with
    | nil => cases same
    | cons other further =>
      obtain ⟨here, later⟩ := List.cons.inj same
      exact ih (outline_step alike store here) later

/-! ### The requests about one call -/

theorem filter_perform (jobs : List Job) (accountId inboxId : Int) (callId : String) :
    (jobs.map (·.perform accountId inboxId)).filter (·.callId = callId) =
      (jobs.filter (·.callId = callId)).map (·.perform accountId inboxId) := by
  rw [List.filter_map]
  congr 1
  refine List.filter_congr fun job _ => ?_
  simp

/-- Where no offer about a call is refused, all of them are taken. -/
theorem filter_taken {offers : List (Job × Bool)} {callId : String}
    (all : ∀ offer ∈ offers, offer.1.callId = callId → offer.2 = true) :
    ((offers.filter Prod.snd).map Prod.fst).filter (·.callId = callId) =
      (offers.map Prod.fst).filter (·.callId = callId) := by
  induction offers with
  | nil => rfl
  | cons offer rest ih =>
    obtain ⟨here, later⟩ := List.forall_mem_cons.mp all
    obtain ⟨job, accepted⟩ := offer
    cases accepted with
    | true =>
      rw [List.filter_cons_of_pos rfl, List.map_cons, List.map_cons, List.filter_cons,
        List.filter_cons, ih later]
    | false =>
      have other : ¬job.callId = callId := fun own => Bool.false_ne_true (here own)
      rw [List.filter_cons_of_neg Bool.false_ne_true, ih later, List.map_cons, List.filter_cons,
        if_neg (by rw [decide_eq_true_eq]; exact other)]

/-- Of members of which no two have a property together, at most one has it. -/
theorem length_filter_le_one {α : Type} {p : α → Bool} {members : List α}
    (apart : members.Pairwise fun earlier later => p earlier = true → ¬p later = true) :
    (members.filter p).length ≤ 1 := by
  induction members with
  | nil => exact Nat.zero_le 1
  | cons first rest ih =>
    obtain ⟨alone, later⟩ := List.pairwise_cons.mp apart
    by_cases has : p first = true
    · have none : rest.filter p = [] := by
        rw [List.filter_eq_nil_iff]
        exact fun member inRest => alone member inRest has
      rw [List.filter_cons_of_pos has, none]
      exact Nat.le_refl 1
    · rw [List.filter_cons_of_neg has]
      exact ih later

section Books

variable [Digest] {wiring : Wiring η σ} {accountId inboxId : Int} {settings : TrackerSettings}
  {capacity : Nat} {flow : Flow η σ}

/-- The store has seen requests of jobs of the tracker, in their order. -/
theorem Sound.requests_sublist (sound : flow.Sound wiring accountId inboxId settings capacity)
    (callId : String) :
    (flow.requests.filter (·.callId = callId)).Sublist
      (((Tracker.new accountId inboxId settings).emittedFor callId flow.heard).map
        (·.perform accountId inboxId)) := by
  have front : flow.requests.Sublist (flow.taken.map (·.perform accountId inboxId)) := by
    rw [← sound.conserved]
    exact List.sublist_append_left _ _
  have part : flow.taken.Sublist ((Tracker.new accountId inboxId settings).emitted flow.heard) := by
    rw [← sound.offered]
    exact List.filter_sublist.map _
  have whole := (front.trans (part.map _)).filter (fun request => request.callId = callId)
  rwa [filter_perform] at whole

/-- Where no offer about a call was refused, the store sees all of them in the end. -/
theorem Sound.requests_complete (sound : flow.Sound wiring accountId inboxId settings capacity)
    {callId : String} (all : ∀ offer ∈ flow.offers, offer.1.callId = callId → offer.2 = true) :
    flow.requests.filter (·.callId = callId) ++ flow.ahead.filter (·.callId = callId) =
      ((Tracker.new accountId inboxId settings).emittedFor callId flow.heard).map
        (·.perform accountId inboxId) := calc
  _ = (flow.requests ++ flow.ahead).filter (·.callId = callId) :=
    (List.filter_append _ _).symm
  _ = (flow.taken.filter (·.callId = callId)).map (·.perform accountId inboxId) := by
    rw [sound.conserved, filter_perform]
  _ = ((flow.offers.map Prod.fst).filter (·.callId = callId)).map (·.perform accountId inboxId) :=
    congrArg _ (filter_taken all)
  _ = _ := by rw [sound.offered]; rfl

/-- Whether the tracker succeeds depends on nothing but the room in the queue. -/
theorem Sound.succeeds_iff (sound : flow.Sound wiring accountId inboxId settings capacity)
    (event : Event) :
    (Pipeline.runTracker () event (flow.tracker, flow.queue)).1 = true ↔
      (flow.tracker.apply event).2 = none ∨ flow.queue.waiting.length < max capacity 1 := by
  rw [← sound.capacity]
  cases made : (flow.tracker.apply event).2 with
  | none =>
    rw [Pipeline.runTracker_of_silent made]
    exact iff_of_true rfl (.inl rfl)
  | some job =>
    by_cases room : flow.queue.waiting.length < flow.queue.capacity
    · rw [Pipeline.runTracker_of_room sound.isOpen made room]
      exact iff_of_true rfl (.inr room)
    · rw [Pipeline.runTracker_of_full sound.isOpen made (Nat.le_of_not_lt room)]
      refine iff_of_false Bool.false_ne_true ?_
      rintro (none | less)
      · cases none
      · exact room less

end Books

/-- The requests of the jobs of one call come in the order of its life. -/
theorem pairwise_perform [Digest] (tracker : Tracker) (callId : String) (events : List Event)
    (accountId inboxId : Int) :
    ((tracker.emittedFor callId events).map (·.perform accountId inboxId)).Pairwise
      fun earlier later => Snapshot.Before earlier.metadata later.metadata ∧
        (earlier.startsConversation = true → ¬later.startsConversation = true) := by
  rw [List.pairwise_map]
  refine (tracker.emittedFor_pairwise callId events).imp fun {earlier later} ordered => ?_
  rw [Job.metadata_perform, Job.metadata_perform, Job.startsConversation_perform,
    Job.startsConversation_perform]
  exact ordered

/-- **What the store of conversations sees.** Whatever arrives, in whatever pieces, however the
tracker is registered, beside whatever other handlers, whatever room the queue has, whatever the
store makes of its requests, and in whatever order all this takes place:

* the tracker hears every event of the stream in order, as often as it is registered for it, and
  offers each of its jobs to the queue;
* the requests about a call are, in order, those of jobs of the tracker about it. If none of these
  was refused, then with those that are still to come they are those of all the jobs; and the worker
  performs them all if it is given the time;
* at most one of them starts a conversation, the rank of the status in their snapshots never falls,
  and the number of events in them rises;
* the queue takes a job exactly if it has room, whatever it has refused before; and with another
  store, whatever it makes of its requests, and other handlers that fail, the requests are the
  same;
* a pipeline whose tracker sees the events along any route takes its turns in one of these orders,
  so all this holds of it. -/
theorem store_sees_jobs_in_order [Digest] (wiring : Wiring η σ) (decoder : Decoder)
    (accountId inboxId : Int) (settings : TrackerSettings) (capacity : Nat) (state : σ)
    (moves : List Move) (callId : String) :
    let flow := (start decoder accountId inboxId settings capacity state).run wiring moves
    let tracker := Tracker.new accountId inboxId settings
    let wanted := (tracker.emittedFor callId flow.heard).map (·.perform accountId inboxId)
    let seen := flow.requests.filter (·.callId = callId)
    flow.heard ++ wiring.toTracker flow.due =
        wiring.toTracker
          ((decoder.receive (moves.filterMap Move.bytes?)).1.flatMap wiring.deliveries) ∧
      flow.offers.map Prod.fst = tracker.emitted flow.heard ∧
      seen.Sublist wanted ∧
      ((∀ offer ∈ flow.offers, offer.1.callId = callId → offer.2 = true) →
        seen ++ flow.ahead.filter (·.callId = callId) = wanted ∧
        (flow.run wiring flow.settling).requests.filter (·.callId = callId) = wanted) ∧
      (seen.filter StoreCall.startsConversation).length ≤ 1 ∧
      (seen.Pairwise fun earlier later => Snapshot.Before earlier.metadata later.metadata) ∧
      (∀ event, (Pipeline.runTracker () event (flow.tracker, flow.queue)).1 = true ↔
        (flow.tracker.apply event).2 = none ∨ flow.queue.waiting.length < max capacity 1) ∧
      (∀ (τ : Type) (store : Store τ) (other : τ) (others : List Move),
        others.map Move.flawless = moves.map Move.flawless →
        ((start decoder accountId inboxId settings capacity other).run (wiring.withStore store)
          others).requests = flow.requests) ∧
      ∀ (route : Route) (turns : List Pipeline.Turn),
        let single := Wiring.ofRoute route wiring.store
        ∃ steps, steps.filterMap Move.bytes? = turns.filterMap Pipeline.Turn.bytes? ∧
          AtRest single
            ((start (Decoder.new true Decoder.defaultMaxBlockSize) accountId inboxId settings
              capacity state).run single steps)
            ((Pipeline.new accountId inboxId settings route capacity).run wiring.store.recording
              ([], state) turns) := by
  intro flow tracker wanted seen
  have sound : flow.Sound wiring accountId inboxId settings capacity :=
    (sound_start decoder state).run moves
  have part : seen.Sublist wanted := sound.requests_sublist callId
  have ordered := (pairwise_perform tracker callId flow.heard accountId inboxId).sublist part
  refine ⟨?heard, sound.offered, part, ?complete, ?once, ordered.imp And.left, sound.succeeds_iff,
    ?alike, fun route turns => ?turns⟩
  case heard =>
    have frames : flow.frames = (decoder.receive (moves.filterMap Move.bytes?)).1 :=
      frames_run wiring _ moves
    rw [← frames]
    exact sound.shown
  case complete =>
    intro all
    have whole := sound.requests_complete all
    refine ⟨whole, ?_⟩
    rw [run_settling]
    exact (List.filter_append _ _).trans whole
  case once =>
    exact length_filter_le_one (ordered.imp And.right)
  case alike =>
    intro τ store other others same
    have begins : (start decoder accountId inboxId settings capacity state : Flow η σ).outline =
        (start decoder accountId inboxId settings capacity other : Flow η τ).outline := rfl
    have alike : flow.outline = _ := outline_run wiring begins store same
    exact (congrArg (fun outline => outline.store.1) alike).symm
  case turns =>
    have rests := atRest_start route wiring.store accountId inboxId settings capacity state
    exact rests.run rfl turns

open scoped SipHash

/-- A tracker that sees all events, and a store that fails every time. -/
def failing : Wiring Unit Unit :=
  Wiring.ofRoute .any fun _ _ => (.error (.queue "store is down"), ())

/-- A call that is dialed, connected and hung up, with room for one job only: the second job comes
before the worker has taken the first. -/
def crowded : Flow Unit Unit :=
  (start (Decoder.new false 64) 1 7 TrackerSettings.default 1 ()).run failing [
    .arrive (Text.Utf8.bytesOf "Event:DialBegin\nUniqueid:1\n\nEvent:BridgeEnter\nUniqueid:1\n\n"),
    .deliver true, .deliver true, .take, .perform,
    .arrive (Text.Utf8.bytesOf "Event:Hangup\nUniqueid:1\n\n"), .deliver true, .take, .perform]

theorem store_sees_jobs_in_order_crowded :
    crowded.offers.map Prod.snd = [true, false, true] ∧
      (crowded.requests.map fun request => Snapshot.status? request.metadata) =
        [some .dialing, some (.ended .hungUp)] ∧
      (crowded.requests.filter (·.callId = "1")).Sublist
        (((Tracker.new 1 7 TrackerSettings.default).emittedFor "1" crowded.heard).map
          (·.perform 1 7)) := by
  have view : (crowded.offers.map Prod.snd,
      crowded.requests.map fun request => Snapshot.status? request.metadata) =
        ([true, false, true], [some .dialing, some (.ended .hungUp)]) := by decide +kernel
  obtain ⟨offers, statuses⟩ := Prod.mk.inj view
  obtain ⟨-, -, part, -⟩ := store_sees_jobs_in_order failing (Decoder.new false 64) 1 7
    TrackerSettings.default 1 () _ "1"
  exact ⟨offers, statuses, part⟩

end Flow

end Switchboard
