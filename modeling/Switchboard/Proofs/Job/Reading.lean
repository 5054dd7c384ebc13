/-
**What payloads are read as.**

A payload is read as a job exactly when it carries the job: it is an object with the tag and the
fields of the job, where the optional ones may be missing for null, or an array of the tag and the
fields in order (`ofPayload?_eq_some_iff`). What a job is written as carries this job and no other.
An object with another tag, or none, carries no job at all.

So the worker of a queue asks of the store what the job would have asked, had it been performed
where it was written, and nothing for an object with a strange tag (`jobs_survive_queue`).
-/

import Mathlib.Data.List.Forall2
import Switchboard.Proofs.Job.Bench

namespace Switchboard

namespace Job

variable {object : List (String × Json)} {names optional : List String} {values : List Json}
  {name tag : String} {value : Json} {job : Job}

/-! ### Reading the values -/

theorem text?_eq_some_iff {text : String} : text? value = some text ↔ value = .str text := by
  cases value <;> simp [text?]

theorem optionalText?_eq_some_iff {text : Option String} :
    optionalText? value = some text ↔ value = .ofText? text := by
  cases text <;> cases value <;> simp [optionalText?, Json.ofText?]

/-- Whether an object gives a field this value: under its name, or, for null, by leaving an optional
name out. -/
def Gives (object : List (String × Json)) (optional : List String) (name : String) (value : Json) :
    Prop :=
  Json.find? name object = some value ∨
    name ∈ optional ∧ Json.find? name object = none ∧ value = .null

theorem gives_iff :
    (Json.find? name object).or (if optional.contains name then some .null else none) =
      some value ↔ Gives object optional name value := by
  unfold Gives
  rw [Option.or_eq_some_iff]
  refine or_congr_right ?_
  by_cases spared : name ∈ optional
  · simp [spared, eq_comm]
  · simp [spared]

theorem valuesOf?_eq_some_iff :
    valuesOf? names optional object = some values ↔
      List.Forall₂ (Gives object optional) names values := by
  unfold valuesOf?
  induction names generalizing values with
  | nil =>
    rw [List.mapM_nil, List.forall₂_nil_left_iff]
    exact Option.some_inj.trans eq_comm
  | cons name rest ih =>
    simp only [List.mapM_cons, Option.bind_eq_bind, Option.bind_eq_some_iff, gives_iff, ih,
      List.forall₂_cons_left_iff, Option.pure_def, Option.some.injEq]
    constructor
    · rintro ⟨value, given, others, behind, rfl⟩
      exact ⟨value, others, given, behind, rfl⟩
    · rintro ⟨value, others, given, behind, rfl⟩
      exact ⟨value, given, others, behind, rfl⟩

/-- Values are those of a job exactly when they are its fields, behind its tag. -/
theorem ofValues?_eq_some_iff :
    ofValues? tag values = some job ↔ job.tag = tag ∧ job.fields.map Prod.snd = values := by
  constructor
  · intro read
    unfold ofValues? at read
    split at read
    · next conversation =>
      split at read
      · simp only [Option.bind_eq_bind, Option.bind_eq_some_iff, text?_eq_some_iff,
          optionalText?_eq_some_iff, Option.pure_def, Option.some.injEq] at read
        obtain ⟨callId, rfl, callerNumber, rfl, callerName, rfl, channelState, rfl, summary, rfl,
          rfl⟩ := read
        exact ⟨conversation.symm, rfl⟩
      · cases read
    · split at read
      · next update =>
        split at read
        · simp only [Option.bind_eq_bind, Option.bind_eq_some_iff, text?_eq_some_iff,
            Option.pure_def, Option.some.injEq] at read
          obtain ⟨callId, rfl, statusSummary, rfl, rfl⟩ := read
          exact ⟨update.symm, rfl⟩
        · cases read
      · cases read
  · rintro ⟨rfl, rfl⟩
    exact job.ofValues?_fields

/-! ### What a payload carries -/

/-- Whether a payload carries a job. -/
inductive Carries (job : Job) : Json → Prop
  | object {object : List (String × Json)}
      (tagged : Json.find? tagKey object = some (.str job.tag))
      (filled : ∀ field ∈ job.fields, Gives object job.optionalNames field.1 field.2) :
      Carries job (.obj object)
  | array : Carries job (.arr (.str job.tag :: job.fields.map Prod.snd))

theorem gives_fields_iff :
    List.Forall₂ (Gives object optional) (job.fields.map Prod.fst) (job.fields.map Prod.snd) ↔
      ∀ field ∈ job.fields, Gives object optional field.1 field.2 := by
  rw [List.forall₂_map_left_iff, List.forall₂_map_right_iff, List.forall₂_same]

theorem ofPayload?_obj_eq_some_iff :
    ofPayload? (.obj object) = some job ↔ job.Carries (.obj object) := by
  unfold ofPayload?
  simp only [Option.bind_eq_bind, Option.bind_eq_some_iff, text?_eq_some_iff,
    ofValues?_eq_some_iff, valuesOf?_eq_some_iff]
  constructor
  · rintro ⟨_, tagged, _, rfl, ⟨names, optional⟩, layout, _, given, rfl, rfl⟩
    rw [job.layout?_tag] at layout
    cases layout
    exact .object tagged (gives_fields_iff.mp given)
  · rintro ⟨tagged, filled⟩
    exact ⟨_, tagged, _, rfl, _, job.layout?_tag, _, gives_fields_iff.mpr filled, rfl, rfl⟩

theorem ofPayload?_arr_eq_some_iff {items : List Json} :
    ofPayload? (.arr items) = some job ↔ job.Carries (.arr items) := by
  cases items with
  | nil => exact iff_of_false nofun nofun
  | cons first values =>
    simp only [ofPayload?, Option.bind_eq_bind, Option.bind_eq_some_iff, text?_eq_some_iff,
      ofValues?_eq_some_iff]
    constructor
    · rintro ⟨_, rfl, rfl, rfl⟩
      exact .array
    · rintro ⟨⟩
      exact ⟨_, rfl, rfl, rfl⟩

/-- **A payload is read as a job exactly when it carries it.** -/
theorem ofPayload?_eq_some_iff {payload : Json} :
    ofPayload? payload = some job ↔ job.Carries payload := by
  cases payload with
  | obj object => exact ofPayload?_obj_eq_some_iff
  | arr items => exact ofPayload?_arr_eq_some_iff
  | null | bool | int | float | str => exact iff_of_false nofun nofun

/-- Whether an object has no tag, or one that no job has. -/
def Untagged (object : List (String × Json)) : Prop :=
  ∀ tag ∈ [conversationTag, updateTag], Json.find? tagKey object ≠ some (.str tag)

theorem tag_mem (job : Job) : job.tag ∈ [conversationTag, updateTag] := by
  cases job with
  | conversationFromCall => exact List.mem_cons_self
  | updateCall => exact List.mem_cons_of_mem _ List.mem_cons_self

/-- An object with a strange tag is not read at all. -/
theorem ofPayload?_of_untagged (strange : Untagged object) : ofPayload? (.obj object) = none := by
  by_contra read
  obtain ⟨job, read⟩ := Option.ne_none_iff_exists'.mp read
  cases ofPayload?_eq_some_iff.mp read with
  | object tagged => exact strange job.tag job.tag_mem tagged

end Job

theorem QueuedJob.request?_of_unread {queued : QueuedJob}
    (unread : Job.ofPayload? queued.payload = none) : queued.request? = none := by
  unfold QueuedJob.request?
  rw [unread]
  rfl

/-! ### The worker -/

namespace Bench

open Job

variable {σ : Type} (store : Store σ)

/-- The next job makes its request, if it can be read, and nothing else is asked of the store. -/
theorem store_take {bench : Bench σ} (idle : bench.worker = .idle) {queued : QueuedJob}
    {rest : List QueuedJob} (next : bench.queue.waiting = queued :: rest) :
    (bench.step store .take).store =
      (bench.requests ++ queued.request?.toList, JobQueue.performOne store bench.store.2 queued) := by
  show (bench.take store).store = _
  rw [take_of_next store idle next]
  exact JobQueue.performOne_recording store bench.store queued

/-- **A job survives the queue**, whatever its texts and its snapshot are.

* It is written as an object in which no name comes twice and its tag stands under `job_type`. This
  is read as the same job again, which is performed by the same request.
* A payload is read as a job exactly when it carries it. An object without a tag, or with one that
  no job has, is not read.
* When the next payload in the queue is that of a job, the worker makes the request of this job, and
  no other. When it is an object with a strange tag, the store does not hear of it: the worker asks
  nothing, and looks for the job behind it.
* So, over any run, the store has had one request for each job taken out that can be read. -/
theorem jobs_survive_queue {σ : Type} (store : Store σ) :
    (∀ (job : Job) (accountId inboxId : Int),
      (∃ fields, job.toPayload = .obj fields ∧ (fields.map Prod.fst).Nodup ∧
        Json.find? tagKey fields = some (.str job.tag)) ∧
      ofPayload? job.toPayload = some job ∧
      (ofPayload? job.toPayload).map (·.perform accountId inboxId) =
        some (job.perform accountId inboxId)) ∧
    (∀ payload job, ofPayload? payload = some job ↔ job.Carries payload) ∧
    (∀ object, Untagged object → ofPayload? (.obj object) = none) ∧
    (∀ (bench : Bench σ) (queued : QueuedJob) (rest : List QueuedJob),
      bench.worker = .idle → bench.queue.waiting = queued :: rest →
        let later := bench.step store .take
        later.queue.waiting = rest ∧
        (∀ job : Job, queued.payload = job.toPayload →
          let request := job.perform queued.accountId queued.inboxId
          later.store = (bench.requests ++ [request], (store request bench.store.2).2)) ∧
        ∀ object, queued.payload = .obj object → Untagged object →
          later.store = bench.store ∧ later.worker = .idle) ∧
    ∀ (capacity : Nat) (state : σ) (moves : List Move),
      let bench := (start capacity state).run store moves
      bench.requests = bench.taken.filterMap QueuedJob.request? := by
  refine ⟨?written, fun payload job => ofPayload?_eq_some_iff, fun object => ofPayload?_of_untagged,
    ?worker, ?run⟩
  case written =>
    intro job accountId inboxId
    have read := job.ofPayload?_toPayload
    exact ⟨⟨_, rfl, job.nodup_keys, if_pos rfl⟩, read, by rw [read]; rfl⟩
  case worker =>
    intro bench queued rest idle next later
    have took : later = _ := take_of_next store idle next
    have asked : later.store = _ := store_take store idle next
    refine ⟨by rw [took], ?_, ?_⟩
    · intro job wrote request
      have read : ofPayload? queued.payload = some job := wrote ▸ job.ofPayload?_toPayload
      rw [asked, QueuedJob.request?_of_read read]
      unfold JobQueue.performOne
      rw [read]
      rfl
    · intro object stray strange
      have unread : ofPayload? queued.payload = none := stray ▸ ofPayload?_of_untagged strange
      refine ⟨?_, ?_⟩
      · rw [asked, QueuedJob.request?_of_unread unread]
        unfold JobQueue.performOne
        rw [unread]
        exact Prod.ext (List.append_nil _) rfl
      · rw [took]
        show workerAfter queued = .idle
        unfold workerAfter
        rw [unread]
        rfl
  case run =>
    intro capacity state moves bench
    exact ((sound_start state).run store moves : bench.Sound capacity).asked

/-- A caller without a name whose snapshot holds tags of its own, behind an object whose tag is in
the wrong case. -/
theorem jobs_survive_queue_nested :
    let metadata : Json :=
      .obj [("job_type", .str "update_call"), ("inner", .obj [("job_type", .null)])]
    let job : Job := .conversationFromCall "1.2" "5551234" (some " ") none "Incoming call" metadata
    let object : List (String × Json) := [("job_type", .str "Update_Call"), ("metadata", .null)]
    let stray : QueuedJob :=
      { tag := "update_call", accountId := 1, inboxId := 7, payload := .obj object }
    let handed : QueuedJob :=
      { tag := job.tag, accountId := 1, inboxId := 7, payload := job.toPayload }
    let bench := (start 2 ()).run broken [.enqueue stray, .enqueue handed]
    let behind := bench.step broken .take
    ofPayload? job.toPayload = some job ∧ ofPayload? (.obj object) = none ∧
      behind.requests = [] ∧
      (behind.step broken .take).requests =
        [.ensureConversationStarted 1 7 "5551234" "5551234" "1.2" metadata] := by
  intro metadata job object stray handed bench behind
  obtain ⟨written, -, unread, worker, -⟩ := jobs_survive_queue broken
  have strange : Untagged object := by
    unfold Untagged
    decide
  obtain ⟨left, -, silent⟩ := worker bench stray [handed] rfl rfl
  obtain ⟨same, ready⟩ := silent object rfl strange
  obtain ⟨-, asks, -⟩ := worker behind handed [] ready left
  have asked := congrArg Prod.fst (asks job rfl)
  have nothing : behind.requests = [] := congrArg Prod.fst same
  refine ⟨(written job 1 7).2.1, unread object strange, nothing, asked.trans ?_⟩
  dsimp only
  rw [nothing]
  decide

end Bench

end Switchboard
