/-
**A queue and its worker, one thing at a time.**

Jobs are handed in while the worker takes them out and waits for the store, in any order of the two.
A bench keeps a record of it: the jobs that the queue has taken in, those that the worker has taken
out, and the requests that the store has had. The worker reads a job as soon as it has taken it, and
asks the store at once; only then does it wait, so that it may be aborted with a request out but
never between a job and its request.

A worker comes to its end in two ways. When nobody is left to hand jobs in, it empties the queue
first. When it is aborted, the jobs in the queue go with it.

* `Bench.step`, `Bench.run`: what the moves do;
* `Bench.Sound`: what every move keeps;
* `Bench.run_turns`: left alone, the worker does what `JobQueue.work` does;
* `Bench.outline_run`: what the store makes of its requests is no matter to anything else.
-/

import Switchboard.Proofs.Job.Queue

namespace Switchboard

/-- What the worker of a queue is doing. -/
inductive Worker where
  | idle
  /-- A request to the store is out. -/
  | busy
  /-- It found the queue empty, and nobody to fill it. -/
  | ended
  | aborted
  deriving DecidableEq, Repr

/-- Whether the worker still takes jobs. -/
def Worker.isAlive : Worker → Bool
  | idle | busy => true
  | ended | aborted => false

/-- A queue, its worker, and what has gone through it. -/
structure Bench (σ : Type) where
  queue : JobQueue
  /-- Whether somebody is left to hand jobs in. -/
  isFed : Bool
  worker : Worker
  /-- The jobs that the queue has taken in, in order. -/
  accepted : List QueuedJob
  /-- The jobs that the worker has taken out, in order. -/
  taken : List QueuedJob
  /-- The jobs that were in the queue when its worker was aborted. -/
  lost : List QueuedJob
  /-- The requests that the store has had, and its state. -/
  store : List StoreCall × σ

namespace Bench

/-- What may happen, one thing at a time. -/
inductive Move where
  | enqueue (job : QueuedJob)
  /-- The worker looks for the next job. -/
  | take
  /-- The store is done with the request that is out. -/
  | settle
  /-- Whoever could hand jobs in is gone. -/
  | drop
  | abort
  deriving DecidableEq

section Steps

variable {σ : Type}

/-- A new queue, and a worker who waits for jobs. -/
def start (capacity : Nat) (state : σ) : Bench σ :=
  { queue := JobQueue.new "local" capacity
    isFed := true
    worker := .idle
    accepted := []
    taken := []
    lost := []
    store := ([], state) }

/-- The requests that the store has had, in order. -/
def requests (bench : Bench σ) : List StoreCall :=
  bench.store.1

/-- Somebody hands a job in, if somebody is left. -/
def enqueue (bench : Bench σ) (job : QueuedJob) : Bench σ :=
  if bench.isFed then
    match JobQueue.enqueue job bench.queue with
    | (.ok (), queue) => { bench with queue, accepted := bench.accepted ++ [job] }
    | (.error _, queue) => { bench with queue }
  else bench

/-- What the worker does next with a job: it waits for the store, unless the job cannot be read. -/
def workerAfter (job : QueuedJob) : Worker :=
  if (Job.ofPayload? job.payload).isSome then .busy else .idle

/-- The worker, unless a request is out, takes the next job and asks the store. It ends when there
is no job and nobody is left to hand one in. -/
def take (store : Store σ) (bench : Bench σ) : Bench σ :=
  match bench.worker, bench.queue.take? with
  | .idle, some (job, queue) =>
    { bench with
      queue
      worker := workerAfter job
      taken := bench.taken ++ [job]
      store := JobQueue.performOne store.recording bench.store job }
  | .idle, none =>
    if bench.isFed then bench else { bench with queue := bench.queue.abort, worker := .ended }
  | _, _ => bench

/-- The store is done with the request that is out. -/
def settle (bench : Bench σ) : Bench σ :=
  match bench.worker with
  | .busy => { bench with worker := .idle }
  | _ => bench

/-- The worker is gone, and the jobs in the queue with it. -/
def abort (bench : Bench σ) : Bench σ :=
  if bench.worker.isAlive then
    { bench with
      queue := bench.queue.abort
      worker := .aborted
      lost := bench.queue.waiting }
  else bench

/-- The bench after one move; a move for which there is nothing to do changes nothing. -/
def step (store : Store σ) (bench : Bench σ) : Move → Bench σ
  | .enqueue job => bench.enqueue job
  | .take => bench.take store
  | .settle => bench.settle
  | .drop => { bench with isFed := false }
  | .abort => bench.abort

/-- The bench after moves, one after the other. -/
def run (store : Store σ) (bench : Bench σ) (moves : List Move) : Bench σ :=
  moves.foldl (step store) bench

theorem run_append (store : Store σ) (bench : Bench σ) (first second : List Move) :
    bench.run store (first ++ second) = (bench.run store first).run store second :=
  List.foldl_append

end Steps

/-! ### What every move keeps -/

/-- Whether a bench that started with an empty queue has lost nothing but what was in the queue of
an aborted worker, and has asked the store for every job that was taken out. -/
structure Sound {σ : Type} (capacity : Nat) (bench : Bench σ) : Prop where
  label : bench.queue.label = "local"
  capacity : bench.queue.capacity = max capacity 1
  room : bench.queue.waiting.length ≤ bench.queue.capacity
  isOpen : bench.queue.isOpen = bench.worker.isAlive
  conserved : bench.accepted = bench.taken ++ bench.lost ++ bench.queue.waiting
  spared : bench.worker ≠ .aborted → bench.lost = []
  bare : bench.worker.isAlive = false → bench.queue.waiting = []
  unfed : bench.worker = .ended → bench.isFed = false
  asked : bench.requests = bench.taken.filterMap QueuedJob.request?

section Sound

variable {σ : Type} {capacity : Nat} {bench : Bench σ}

theorem sound_start (state : σ) : Sound capacity (start capacity state) where
  label := rfl
  capacity := rfl
  room := Nat.zero_le _
  isOpen := rfl
  conserved := rfl
  spared _ := rfl
  bare _ := rfl
  unfed ended := nomatch ended
  asked := rfl

theorem Sound.lost_of_alive (sound : bench.Sound capacity) (alive : bench.worker.isAlive = true) :
    bench.lost = [] := by
  refine sound.spared fun gone => ?_
  rw [gone] at alive
  cases alive

/-- A refused job changes nothing. -/
theorem enqueue_of_refused {job : QueuedJob} {error : BridgeError}
    (refused : (JobQueue.enqueue job bench.queue).1 = .error error) : bench.enqueue job = bench := by
  have same : (JobQueue.enqueue job bench.queue).2 = bench.queue := by
    unfold JobQueue.enqueue at refused ⊢
    split at refused
    · cases refused
    · rfl
  unfold enqueue
  split
  · split
    · next later taken =>
      rw [taken] at refused
      cases refused
    · next error later taken =>
      rw [taken] at same
      show { bench with queue := later } = bench
      rw [show later = bench.queue from same]
  · rfl

/-- A queue whose worker is alive refuses a job when it is full, and otherwise puts it at the
end. -/
theorem Sound.enqueue_eq (sound : bench.Sound capacity) (alive : bench.worker.isAlive = true)
    (job : QueuedJob) :
    JobQueue.enqueue job bench.queue =
      if max capacity 1 ≤ bench.queue.waiting.length then
        (.error (JobQueue.refusalError "local" (.full job.tag)), bench.queue)
      else (.ok (), { bench.queue with waiting := bench.queue.waiting ++ [job] }) := by
  rw [JobQueue.enqueue_open (sound.isOpen.trans alive), ← sound.label, ← sound.capacity]

/-- A queue whose worker is gone refuses every job. -/
theorem Sound.enqueue_of_gone (sound : bench.Sound capacity) (gone : bench.worker.isAlive = false)
    (job : QueuedJob) :
    JobQueue.enqueue job bench.queue =
      (.error (JobQueue.refusalError "local" .closed), bench.queue) := by
  rw [JobQueue.enqueue_closed (sound.isOpen.trans gone), sound.label]

theorem Sound.enqueue (sound : bench.Sound capacity) (job : QueuedJob) :
    (bench.enqueue job).Sound capacity := by
  by_cases alive : bench.worker.isAlive = true
  case neg =>
    have refused := sound.enqueue_of_gone (Bool.eq_false_iff.mpr alive) job
    rw [enqueue_of_refused (congrArg Prod.fst refused)]
    exact sound
  by_cases full : max capacity 1 ≤ bench.queue.waiting.length
  · have refused := (sound.enqueue_eq alive job).trans (if_pos full)
    rw [enqueue_of_refused (congrArg Prod.fst refused)]
    exact sound
  have took := (sound.enqueue_eq alive job).trans (if_neg full)
  unfold Bench.enqueue
  split
  case isFalse => exact sound
  rw [took]
  exact { sound with
    room := by
      show (bench.queue.waiting ++ [job]).length ≤ bench.queue.capacity
      rw [List.length_append, List.length_singleton, sound.capacity]
      exact Nat.lt_of_not_le full
    conserved := by
      show bench.accepted ++ [job] = _ ++ (bench.queue.waiting ++ [job])
      rw [sound.conserved, List.append_assoc _ bench.queue.waiting]
    bare := fun gone => nomatch alive.symm.trans gone }

theorem Sound.take (sound : bench.Sound capacity) (store : Store σ) :
    (bench.take store).Sound capacity := by
  unfold Bench.take JobQueue.take?
  cases idle : bench.worker with
  | idle =>
    have alive : bench.worker.isAlive = true := by rw [idle]; rfl
    cases next : bench.queue.waiting with
    | nil =>
      simp only
      split
      · exact sound
      · next unfed =>
        exact {
          label := sound.label
          capacity := sound.capacity
          room := Nat.zero_le _
          isOpen := rfl
          conserved := by
            show bench.accepted = bench.taken ++ bench.lost ++ []
            rw [sound.conserved, next]
          spared := fun _ => sound.lost_of_alive alive
          bare := fun _ => rfl
          unfed := fun _ => Bool.eq_false_iff.mpr unfed
          asked := sound.asked }
    | cons job rest =>
      have stays : (workerAfter job).isAlive = true := by
        unfold workerAfter
        split <;> rfl
      exact {
        label := sound.label
        capacity := sound.capacity
        room := by
          have room := sound.room
          rw [next, List.length_cons] at room
          exact Nat.le_of_succ_le room
        isOpen := sound.isOpen.trans (alive.trans stays.symm)
        conserved := by
          show bench.accepted = bench.taken ++ [job] ++ bench.lost ++ rest
          rw [sound.conserved, sound.lost_of_alive alive, next]
          simp
        spared := fun _ => sound.lost_of_alive alive
        bare := fun gone => nomatch stays.symm.trans gone
        unfed := fun ended => by
          have alive : (workerAfter job).isAlive = true := stays
          rw [show workerAfter job = .ended from ended] at alive
          cases alive
        asked := by
          show (JobQueue.performOne store.recording bench.store job).1 = _
          rw [JobQueue.performOne_recording, List.filterMap_append, ← sound.asked]
          cases request : job.request? <;> simp [request, requests] }
  | busy | ended | aborted =>
    exact sound

theorem Sound.settle (sound : bench.Sound capacity) : bench.settle.Sound capacity := by
  unfold Bench.settle
  split
  · next busy =>
    have alive : bench.worker.isAlive = true := by rw [busy]; rfl
    exact { sound with
      isOpen := sound.isOpen.trans alive
      spared := fun _ => sound.lost_of_alive alive
      bare := nofun
      unfed := nofun }
  · exact sound

theorem Sound.drop (sound : bench.Sound capacity) : Sound capacity { bench with isFed := false } :=
  { sound with unfed := fun _ => rfl }

theorem Sound.abort (sound : bench.Sound capacity) : bench.abort.Sound capacity := by
  unfold Bench.abort
  split
  · next alive =>
    exact {
      label := sound.label
      capacity := sound.capacity
      room := Nat.zero_le _
      isOpen := rfl
      conserved := by
        show bench.accepted = bench.taken ++ bench.queue.waiting ++ []
        rw [sound.conserved, sound.lost_of_alive alive, List.append_nil, List.append_nil]
      spared := fun other => absurd rfl other
      bare := fun _ => rfl
      unfed := nofun
      asked := sound.asked }
  · exact sound

theorem Sound.step (sound : bench.Sound capacity) (store : Store σ) (move : Move) :
    (bench.step store move).Sound capacity := by
  cases move with
  | enqueue job => exact sound.enqueue job
  | take => exact sound.take store
  | settle => exact sound.settle
  | drop => exact sound.drop
  | abort => exact sound.abort

theorem Sound.run (sound : bench.Sound capacity) (store : Store σ) (moves : List Move) :
    (bench.run store moves).Sound capacity := by
  induction moves generalizing bench with
  | nil => exact sound
  | cons move rest ih => exact ih (sound.step store move)

end Sound

/-! ### The worker left alone -/

section Turns

variable {σ : Type} (store : Store σ)

/-- The worker waits for the store if it has to, and then takes one job after the other. -/
def turns (bench : Bench σ) : List Move :=
  .settle :: (List.replicate bench.queue.waiting.length [Move.take, .settle]).flatten

theorem settle_of_alive {bench : Bench σ} (alive : bench.worker.isAlive = true) :
    bench.settle = { bench with worker := .idle } := by
  obtain ⟨_, _, worker, _, _, _, _⟩ := bench
  cases worker with
  | idle | busy => rfl
  | ended | aborted => cases alive

/-- The worker takes the next job out, asks the store for it, and waits if it has asked. -/
theorem take_of_next {bench : Bench σ} (idle : bench.worker = .idle) {job : QueuedJob}
    {rest : List QueuedJob} (next : bench.queue.waiting = job :: rest) :
    bench.take store =
      { bench with
        queue := { bench.queue with waiting := rest }
        worker := workerAfter job
        taken := bench.taken ++ [job]
        store := JobQueue.performOne store.recording bench.store job } := by
  unfold take JobQueue.take?
  rw [idle, next]

theorem run_take_settle {bench : Bench σ} (idle : bench.worker = .idle) {job : QueuedJob}
    {rest : List QueuedJob} (next : bench.queue.waiting = job :: rest) :
    bench.run store [.take, .settle] =
      { bench with
        queue := { bench.queue with waiting := rest }
        worker := .idle
        taken := bench.taken ++ [job]
        store := JobQueue.performOne store.recording bench.store job } := by
  have took := take_of_next store idle next
  have alive : (bench.take store).worker.isAlive = true := by
    rw [took]
    unfold workerAfter
    split <;> rfl
  show (bench.take store).settle = _
  rw [settle_of_alive alive, took]

theorem run_taking (waiting : List QueuedJob) {bench : Bench σ} (idle : bench.worker = .idle)
    (there : bench.queue.waiting = waiting) :
    bench.run store (List.replicate waiting.length [Move.take, .settle]).flatten =
      { bench with
        queue := { bench.queue with waiting := [] }
        worker := .idle
        taken := bench.taken ++ waiting
        store := waiting.foldl (JobQueue.performOne store.recording) bench.store } := by
  induction waiting generalizing bench with
  | nil =>
    obtain ⟨⟨_, _, _, _⟩, _, _, _, taken, _, _⟩ := bench
    cases idle
    cases there
    rw [List.append_nil taken]
    rfl
  | cons job rest ih =>
    rw [List.length_cons, List.replicate_succ, List.flatten_cons, run_append,
      run_take_settle store idle there, ih rfl rfl]
    simp only [List.append_assoc, List.singleton_append, List.foldl_cons]

/-- Left alone, the worker performs the jobs in the queue as `JobQueue.work` does. -/
theorem run_turns {bench : Bench σ} (alive : bench.worker.isAlive = true) :
    bench.run store bench.turns =
      { bench with
        queue := (bench.queue.work store.recording bench.store).1
        worker := .idle
        taken := bench.taken ++ bench.queue.waiting
        store := (bench.queue.work store.recording bench.store).2 } := by
  show bench.settle.run store _ = _
  rw [settle_of_alive alive]
  exact run_taking store bench.queue.waiting rfl rfl

/-- When nobody is left to hand jobs in, the worker performs those in the queue and ends. -/
theorem run_turns_take {bench : Bench σ} (alive : bench.worker.isAlive = true)
    (unfed : bench.isFed = false) :
    let last := bench.run store (bench.turns ++ [.take])
    last.worker = .ended ∧ last.taken = bench.taken ++ bench.queue.waiting ∧
      last.accepted = bench.accepted := by
  intro last
  have ends : last = (bench.run store bench.turns).take store := run_append store bench bench.turns _
  rw [ends, run_turns store alive]
  unfold take JobQueue.take? JobQueue.work
  simp only [unfed]
  exact ⟨rfl, rfl, rfl⟩

end Turns

/-! ### After the worker is aborted -/

section Aborted

variable {σ : Type} {capacity : Nat} {bench : Bench σ}

theorem Sound.step_of_aborted (sound : bench.Sound capacity) (gone : bench.worker = .aborted)
    (store : Store σ) (move : Move) :
    bench.step store move = bench ∨ bench.step store move = { bench with isFed := false } := by
  cases move with
  | enqueue job =>
    have shut : bench.worker.isAlive = false := by rw [gone]; rfl
    exact .inl (enqueue_of_refused (congrArg Prod.fst (sound.enqueue_of_gone shut job)))
  | take =>
    refine .inl ?_
    show bench.take store = bench
    unfold Bench.take
    rw [gone]
  | settle =>
    refine .inl ?_
    show bench.settle = bench
    unfold Bench.settle
    rw [gone]
  | drop => exact .inr rfl
  | abort =>
    refine .inl ?_
    show bench.abort = bench
    unfold Bench.abort
    rw [gone]
    rfl

/-- Nothing happens any more at a bench whose worker has been aborted. -/
theorem Sound.run_of_aborted (sound : bench.Sound capacity) (gone : bench.worker = .aborted)
    (store : Store σ) (moves : List Move) :
    ∃ isFed, bench.run store moves = { bench with isFed } := by
  induction moves generalizing bench with
  | nil => exact ⟨bench.isFed, rfl⟩
  | cons move rest ih =>
    show ∃ isFed, (bench.step store move).run store rest = _
    rcases sound.step_of_aborted gone store move with same | dropped
    · rw [same]
      exact ih sound gone
    · rw [dropped]
      exact ih sound.drop gone

end Aborted

/-! ### What makes no difference -/

/-- The bench without what the store has made of its requests. -/
def outline {σ : Type} (bench : Bench σ) : Bench Unit :=
  { bench with store := (bench.requests, ()) }

section Outline

variable {σ τ : Type} {first : Bench σ} {second : Bench τ}

/-- Benches that have an outline in common differ in the state of the store alone. -/
theorem eq_of_outline (alike : first.outline = second.outline) :
    ∃ state : τ, second = { first with store := (first.requests, state) } := by
  obtain ⟨_, _, _, _, _, _, ⟨_, _⟩⟩ := first
  obtain ⟨_, _, _, _, _, _, ⟨_, state⟩⟩ := second
  cases alike
  exact ⟨state, rfl⟩

theorem outline_step (alike : first.outline = second.outline) (store : Store σ) (other : Store τ)
    (move : Move) : (first.step store move).outline = (second.step other move).outline := by
  obtain ⟨state, rfl⟩ := eq_of_outline alike
  obtain ⟨queue, isFed, worker, _, _, _, _⟩ := first
  cases move with
  | enqueue job =>
    simp only [step, enqueue]
    split
    · split <;> rfl
    · rfl
  | take =>
    simp only [step, take]
    cases worker with
    | idle =>
      cases queue.take? with
      | none =>
        cases isFed <;> rfl
      | some next =>
        simp only [outline, requests, JobQueue.performOne_recording]
    | busy | ended | aborted => rfl
  | settle =>
    cases worker <;> rfl
  | drop => rfl
  | abort =>
    cases worker <;> rfl

/-- What the store makes of its requests is no matter to anything else. -/
theorem outline_run (alike : first.outline = second.outline) (store : Store σ) (other : Store τ)
    (moves : List Move) : (first.run store moves).outline = (second.run other moves).outline := by
  induction moves generalizing first second with
  | nil => exact alike
  | cons move rest ih => exact ih (outline_step alike store other move)

end Outline

/-! ### The theorem -/

/-- **A queue performs the jobs that it takes in once each, and in order.** Whatever its capacity,
whoever hands in what and when, and whatever the store makes of its requests:

* the jobs taken in are those that the worker has taken out and then those in the queue, behind
  which nothing is missing unless the worker was aborted; and the queue never holds more than it
  has room for;
* the store has had one request for each job taken out that can be read, with the job's own account
  and inbox, and none for the others. Neither what the store makes of a request nor a job that
  cannot be read changes anything that comes after;
* while the worker is alive, a job is refused exactly when the queue is full. A refusal changes
  nothing;
* a worker that has ended has performed everything, and nobody was left to hand jobs in. When nobody
  is left, the worker needs nothing but its own turns to end so;
* once the worker is aborted, no job is taken out any more, and every job is refused because the
  queue is closed. -/
theorem accepted_jobs_performed_in_order {σ τ : Type} (store : Store σ) (other : Store τ)
    (capacity : Nat) (state : σ) (otherState : τ) (moves : List Move) :
    let bench := (start capacity state).run store moves
    (bench.accepted = bench.taken ++ bench.lost ++ bench.queue.waiting ∧
      (bench.worker ≠ .aborted → bench.lost = []) ∧
      bench.queue.waiting.length ≤ max 1 capacity) ∧
    (bench.requests = bench.taken.filterMap QueuedJob.request? ∧
      ((start capacity otherState).run other moves).outline = bench.outline) ∧
    (bench.worker.isAlive = true → ∀ job,
      JobQueue.enqueue job bench.queue =
        if max 1 capacity ≤ bench.queue.waiting.length then
          (.error (JobQueue.refusalError "local" (.full job.tag)), bench.queue)
        else (.ok (), { bench.queue with waiting := bench.queue.waiting ++ [job] })) ∧
    (∀ job error, (JobQueue.enqueue job bench.queue).1 = .error error →
      bench.step store (.enqueue job) = bench) ∧
    (bench.worker = .ended →
      bench.isFed = false ∧ bench.queue.waiting = [] ∧ bench.taken = bench.accepted) ∧
    (bench.worker.isAlive = true → bench.isFed = false →
      let last := bench.run store (bench.turns ++ [.take])
      last.worker = .ended ∧ last.taken = bench.accepted ∧ last.accepted = bench.accepted) ∧
    (bench.worker.isAlive = true → (bench.step store .abort).worker = .aborted) ∧
    (bench.worker = .aborted → ∀ later,
      let last := bench.run store later
      last.taken = bench.taken ∧ last.requests = bench.requests ∧
        last.accepted = bench.accepted ∧
        ∀ job, (JobQueue.enqueue job last.queue).1 =
          .error (JobQueue.refusalError "local" .closed)) := by
  intro bench
  have sound : bench.Sound capacity := (sound_start state).run store moves
  have bound : max 1 capacity = max capacity 1 := Nat.max_comm 1 capacity
  rw [bound]
  refine ⟨⟨sound.conserved, sound.spared, ?room⟩, ⟨sound.asked, ?alike⟩, sound.enqueue_eq, ?refused,
    ?ended, ?ends, ?aborts, ?aborted⟩
  case room =>
    rw [← sound.capacity]
    exact sound.room
  case alike =>
    have begun : (start capacity otherState).outline = (start capacity state).outline := rfl
    exact outline_run begun other store moves
  case refused =>
    intro job error refused
    exact enqueue_of_refused refused
  case ended =>
    intro ended
    have bare : bench.queue.waiting = [] := sound.bare (by rw [ended]; rfl)
    have spared : bench.lost = [] := sound.spared (by rw [ended]; nofun)
    refine ⟨sound.unfed ended, bare, ?_⟩
    rw [sound.conserved, spared, bare, List.append_nil, List.append_nil]
  case ends =>
    intro alive unfed last
    obtain ⟨ended, taken, accepted⟩ := run_turns_take store alive unfed
    refine ⟨ended, taken.trans ?_, accepted⟩
    rw [sound.conserved, sound.lost_of_alive alive, List.append_nil]
  case aborts =>
    intro alive
    show bench.abort.worker = _
    unfold abort
    rw [if_pos alive]
  case aborted =>
    intro gone later last
    obtain ⟨isFed, quiet⟩ := sound.run_of_aborted gone store later
    have same : last = { bench with isFed } := quiet
    have shut : bench.worker.isAlive = false := by rw [gone]; rfl
    rw [same]
    exact ⟨rfl, rfl, rfl, fun job => congrArg Prod.fst (sound.enqueue_of_gone shut job)⟩

/-- A store that fails every request. -/
def broken : Store Unit :=
  fun _ state => (.error (.queue "no room"), state)

def unreadable : QueuedJob :=
  { tag := "update_call", accountId := 1, inboxId := 7
    payload := .obj [("job_type", .str "nonsense")] }

def hangup : QueuedJob :=
  { tag := "update_call", accountId := 2, inboxId := 9
    payload := (Job.updateCall "1.2" "Call hung up." .null).toPayload }

/-- A queue with room for one job, which is asked to take a second one beside a job that cannot be
read, and takes it later; and the same queue, when its worker is aborted with that job in it. -/
theorem accepted_jobs_performed_in_order_unreadable :
    let crowded := (start 0 ()).run broken [.enqueue unreadable]
    let left := crowded.run broken [.enqueue hangup, .take, .enqueue hangup, .drop]
    let last := left.run broken (left.turns ++ [.take])
    let aborted := left.run broken [.abort]
    JobQueue.enqueue hangup crowded.queue =
        (.error (.queue "local task queue full, refusing update_call job"), crowded.queue) ∧
      last.worker = .ended ∧ last.taken = [unreadable, hangup] ∧
      last.requests = [.applyCallLifecycleUpdate 2 9 "1.2" "Call hung up." .null] ∧
      aborted.accepted = [unreadable] ++ [hangup] ∧
      (aborted.run broken [.take]).taken = [unreadable] ∧
      (JobQueue.enqueue hangup (aborted.run broken [.take]).queue).1 =
        .error (.queue "local task queue is closed") := by
  intro crowded left last aborted
  obtain ⟨-, -, full, -⟩ := accepted_jobs_performed_in_order broken broken 0 () ()
    [.enqueue unreadable]
  obtain ⟨-, -, -, -, -, ends, -⟩ := accepted_jobs_performed_in_order broken broken 0 () ()
    ([.enqueue unreadable] ++ [.enqueue hangup, .take, .enqueue hangup, .drop])
  obtain ⟨⟨kept, -⟩, -, -, -, -, -, -, gone⟩ :=
    accepted_jobs_performed_in_order broken broken 0 () ()
      ([.enqueue unreadable] ++ [.enqueue hangup, .take, .enqueue hangup, .drop] ++ [.abort])
  have wording : JobQueue.refusalError "local" (.full hangup.tag) =
      .queue "local task queue full, refusing update_call job" := by decide
  have refused := (full (by decide) hangup).trans (if_pos (by decide))
  rw [wording] at refused
  obtain ⟨ended, taken, -⟩ := ends (by decide) (by decide)
  obtain ⟨taken', -, -, closed⟩ := gone (by decide) [.take]
  exact ⟨refused, ended, taken.trans (by decide), by decide, kept.trans (by decide),
    taken'.trans (by decide), closed hangup⟩

end Bench

end Switchboard
