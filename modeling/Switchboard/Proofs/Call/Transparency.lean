/-
**Recordings and the life of a call do not touch each other.**

What a record says of the life of a call (`life`) is one thing, and what stands in its margin another:
the log of its events, its times, and the path of its recording. An event of the life of the call
neither reads the margin nor writes it (`react_withMarginOf`), and the others write nothing else
(`life_react_of_aside`). So without the others the life of the call and what is told of it are the
same (`driving_agree`). Conversely the path of the recording and the texts by which recordings are
told come of the recordings alone (`recordings_agree`).

The status that goes with such a text is that of the call at the time. So what is told of a recording
does depend on the other events (`recording_carries_status`), but in nothing else:
`recordings_transparent`.
-/

import Switchboard.Proofs.Call.Notification

namespace Switchboard

/-- Whether an event says nothing of the life of a call: it tells of a recording or of another
variable, or is of no known kind. -/
def CallEvent.isAside : CallEvent → Bool
  | recording _ | ignoredVariable | other => true
  | _ => false

/-- Whether an event tells of a recording. -/
def CallEvent.isRecording : CallEvent → Bool
  | recording _ => true
  | _ => false

/-- The text, if a change tells that a recording is available. -/
def SessionChange.recordingText? : SessionChange → Option String
  | updated _ summary =>
    if "Call recording available: ".toList <+: summary.toList then some summary else none
  | conversationStarted _ _ _ => none

theorem SessionChange.recordingText?_recording (previous : CallStatus) (path : String) :
    (updated previous ("Call recording available: " ++ path)).recordingText? =
      some ("Call recording available: " ++ path) := by
  have begins : "Call recording available: ".toList <+:
      ("Call recording available: " ++ path).toList := by
    rw [String.toList_append]
    exact List.prefix_append _ _
  exact if_pos begins

/-- Whether a change tells that a recording is available. -/
def SessionChange.tellsRecording (change : SessionChange) : Bool :=
  change.recordingText?.isSome

namespace Session

/-! ### The margin -/

/-- The record with the margin of another: the log of the events, the times, and the path of the
recording. -/
def withMarginOf (session other : Session) : Session :=
  { session with
    lastEventName := other.lastEventName
    recordingPath := other.recordingPath
    history := other.history
    createdAt := other.createdAt
    updatedAt := other.updatedAt }

/-- What a record says of the life of the call: the record with a blank margin. What remains are the
status, the caller, channel, dial, bridge and hangup fields, and the three marks. -/
def life (session : Session) : Session :=
  session.withMarginOf (new session.callId .epoch)

/-- An event of the life of a call neither reads the margin nor writes it. -/
theorem react_withMarginOf (session other : Session) {event : CallEvent}
    (driving : event.isAside = false) :
    (session.withMarginOf other).react event =
      (session.react event).map (·.withMarginOf other) id := by
  obtain ⟨_, status, _, _, _, _, _, _, _, _, _, _, _, _, _, left, _, _, _⟩ := session
  cases event with
  | newChannel state number name channel =>
    cases number with
    | none => rfl
    | some number =>
      simp only [react, onNewChannel]
      rw [apply_ite (Prod.map (fun after : Session => after.withMarginOf other) id)]
      rfl
  | dialBegin dialString destId => cases status <;> rfl
  | dialEnd dialStatus destId =>
    cases status with
    | dialing =>
      simp only [react, onDialEnd]
      rw [apply_ite (Prod.map (fun after : Session => after.withMarginOf other) id),
        apply_ite (Prod.map (fun after : Session => after.withMarginOf other) id)]
      rfl
    | new => rfl
    | bridged => rfl
    | ended reason => rfl
  | bridgeEnter bridgeId peer => cases status <;> rfl
  | bridgeLeave bridgeId => cases status <;> cases left <;> rfl
  | hangup cause => cases status <;> rfl
  | recording path => cases driving
  | ignoredVariable => cases driving
  | other => cases driving

/-- So its effect on the life of the call, and what is told of it, come of the life alone. -/
theorem life_react (session : Session) {event : CallEvent} (driving : event.isAside = false) :
    session.life.react event = ((session.react event).1.life, (session.react event).2) := by
  have callId : (session.react event).1.callId = session.callId :=
    (session.keeps_react event).callId
  unfold life
  rw [react_withMarginOf session _ driving, callId]
  rfl

/-- The other events write in the margin alone. -/
theorem life_react_of_aside (session : Session) {event : CallEvent} (aside : event.isAside = true) :
    (session.react event).1.life = session.life := by
  cases event with
  | recording path =>
    simp only [react, onRecording]
    split <;> rfl
  | ignoredVariable => rfl
  | other => rfl
  | newChannel | dialBegin | dialEnd | bridgeEnter | bridgeLeave | hangup => cases aside

/-! ### What is told -/

/-- A text that begins otherwise is no text of a recording. -/
theorem recordingText?_of_opening {previous : CallStatus} {summary : String}
    (otherwise : opening summary ≠ opening "Call recording available: ") :
    (SessionChange.updated previous summary).recordingText? = none := by
  refine if_neg ?_
  rintro ⟨path, same⟩
  refine otherwise ?_
  unfold opening
  rw [← same, List.take_append_of_le_length (by decide)]

/-- A text tells of a recording if an event that tells of one is the cause. -/
theorem Announces.tellsRecording {session : Session} {event : CallEvent} {change : SessionChange}
    (told : session.Announces event change) : change.tellsRecording = event.isRecording := by
  cases change with
  | conversationStarted number name state => cases told; rfl
  | updated previous summary =>
    have begins := opening_of_announces told
    unfold SessionChange.tellsRecording
    cases told with
    | recorded other =>
      rw [SessionChange.recordingText?_recording]
      rfl
    | _ =>
      rw [recordingText?_of_opening (by rw [begins]; simp [words, opening])]
      rfl

/-- What a record tells while it takes in events. -/
def told (session : Session) (notices : List Notice) : List SessionChange :=
  (session.takings notices).filterMap Taken.change?

/-- The texts among it by which recordings are told. -/
def recordingTexts (session : Session) (notices : List Notice) : List String :=
  (session.told notices).filterMap SessionChange.recordingText?

theorem told_cons (session : Session) (notice : Notice) (rest : List Notice) :
    session.told (notice :: rest) =
      (Taken.change? ⟨session, notice⟩).toList ++ (session.take notice).told rest := by
  unfold told
  rw [takings, List.filterMap_cons]
  cases Taken.change? ⟨session, notice⟩ <;> rfl

theorem recordingTexts_cons (session : Session) (notice : Notice) (rest : List Notice) :
    session.recordingTexts (notice :: rest) =
      (Taken.change? ⟨session, notice⟩).toList.filterMap SessionChange.recordingText? ++
        (session.take notice).recordingTexts rest := by
  unfold recordingTexts
  rw [told_cons, List.filterMap_append]

namespace Taken

variable {taken : Taken}

/-- What is told of an event tells of a recording exactly if the event does. -/
theorem tellsRecording_of_mem {change : SessionChange} (member : change ∈ taken.change?.toList) :
    change.tellsRecording = taken.notice.event.isRecording :=
  (announces (Option.mem_toList.mp member)).tellsRecording

/-- What is told of events that tell of no recording is no text of one. -/
theorem texts_of_other (other : taken.notice.event.isRecording = false) :
    taken.change?.toList.filterMap SessionChange.recordingText? = [] := by
  rw [List.filterMap_eq_nil_iff]
  intro change member
  have silent : change.tellsRecording = false := (tellsRecording_of_mem member).trans other
  unfold SessionChange.tellsRecording at silent
  exact Option.isNone_iff_eq_none.mp (Option.isSome_eq_false_iff.mp silent)

/-- A recording is told unless it was the last one, with the status of the call. -/
theorem change?_of_recording {path : String} (event : taken.notice.event = .recording path) :
    taken.change? = if taken.before.recordingPath = some path then none
      else some (.updated taken.before.status ("Call recording available: " ++ path)) := by
  rw [change?_eq, event]
  show (taken.noted.onRecording path).2 = _
  unfold onRecording
  exact apply_ite Prod.snd _ _ _

/-- And so is its text. -/
theorem texts_of_recording {path : String} (event : taken.notice.event = .recording path) :
    taken.change?.toList.filterMap SessionChange.recordingText? =
      if taken.before.recordingPath = some path then []
      else ["Call recording available: " ++ path] := by
  rw [change?_of_recording event]
  split
  · rfl
  · exact List.filterMap_cons_some (SessionChange.recordingText?_recording _ path)

/-- Nothing is told of variables and unknown kinds of events. -/
theorem change?_of_aside (aside : taken.notice.event.isAside = true)
    (other : taken.notice.event.isRecording = false) : taken.change? = none := by
  rw [change?_eq]
  generalize taken.notice.event = event at aside other
  cases event with
  | ignoredVariable => rfl
  | other => rfl
  | recording path => cases other
  | newChannel | dialBegin | dialEnd | bridgeEnter | bridgeLeave | hangup => cases aside

/-- All that is told of events of the life of a call is told of something else than recordings. -/
theorem told_of_driving (driving : taken.notice.event.isAside = false) :
    taken.change?.toList.filter (fun change => !change.tellsRecording) = taken.change?.toList := by
  rw [List.filter_eq_self]
  intro change member
  rw [tellsRecording_of_mem member]
  generalize taken.notice.event = event at driving
  cases event with
  | recording path => cases driving
  | _ => rfl

/-- And of the others nothing else than recordings is told. -/
theorem told_of_aside (aside : taken.notice.event.isAside = true) :
    taken.change?.toList.filter (fun change => !change.tellsRecording) = [] := by
  rw [List.filter_eq_nil_iff]
  intro change member
  cases records : taken.notice.event.isRecording with
  | true => simp [tellsRecording_of_mem member, records]
  | false =>
    rw [change?_of_aside aside records] at member
    cases member

/-- An event of the life of a call does the same to records that agree on it. -/
theorem life_after_of_driving (taken : Taken) (driving : taken.notice.event.isAside = false) :
    (taken.after.life, taken.change?) = taken.before.life.react taken.notice.event :=
  (taken.noted.life_react driving).symm

theorem life_after_of_aside (taken : Taken) (aside : taken.notice.event.isAside = true) :
    taken.after.life = taken.before.life :=
  taken.noted.life_react_of_aside aside

end Taken

/-! ### The life of the call without the other events -/

/-- The events of the life of a call. -/
def driving (notices : List Notice) : List Notice :=
  notices.filter fun notice => !notice.event.isAside

/-- The events that tell of recordings. -/
def recordings (notices : List Notice) : List Notice :=
  notices.filter fun notice => notice.event.isRecording

/-- Records that agree on the life of a call agree on it behind any events, where the one takes in
those of the life of the call alone; and the one tells what the other does but for the recordings. -/
theorem driving_agree {apart whole : Session} (agree : apart.life = whole.life)
    (notices : List Notice) :
    (apart.takeAll (driving notices)).life = (whole.takeAll notices).life ∧
      apart.told (driving notices) =
        (whole.told notices).filter fun change => !change.tellsRecording := by
  induction notices generalizing apart whole with
  | nil => exact ⟨agree, rfl⟩
  | cons notice rest ih =>
    rw [told_cons whole, List.filter_append]
    cases aside : notice.event.isAside with
    | true =>
      have dropped : driving (notice :: rest) = driving rest :=
        List.filter_cons_of_neg (by simp [aside])
      have still : (whole.take notice).life = whole.life :=
        Taken.life_after_of_aside ⟨whole, notice⟩ aside
      rw [dropped, Taken.told_of_aside aside]
      exact ih (agree.trans still.symm)
    | false =>
      have kept : driving (notice :: rest) = notice :: driving rest :=
        List.filter_cons_of_pos (by simp [aside])
      have left := Taken.life_after_of_driving ⟨apart, notice⟩ aside
      have right := Taken.life_after_of_driving ⟨whole, notice⟩ aside
      have same := left.trans ((congrArg (·.react notice.event) agree).trans right.symm)
      obtain ⟨life, change⟩ := Prod.mk.inj same
      obtain ⟨final, further⟩ := ih life
      rw [kept, told_cons, Taken.told_of_driving aside, change]
      exact ⟨final, congrArg _ further⟩

/-! ### The recordings without the other events -/

/-- Records with one path of a recording have one behind any events, where the one takes in the
recordings alone; and they tell the same texts of recordings. -/
theorem recordings_agree {apart whole : Session} (agree : apart.recordingPath = whole.recordingPath)
    (notices : List Notice) :
    (apart.takeAll (recordings notices)).recordingPath = (whole.takeAll notices).recordingPath ∧
      apart.recordingTexts (recordings notices) = whole.recordingTexts notices := by
  induction notices generalizing apart whole with
  | nil => exact ⟨agree, rfl⟩
  | cons notice rest ih =>
    rw [recordingTexts_cons whole]
    cases records : notice.event.isRecording with
    | false =>
      have others : ∀ path, notice.event ≠ .recording path := by
        intro path event
        rw [event] at records
        cases records
      have still : (whole.take notice).recordingPath = whole.recordingPath :=
        (spares_react (whole.note notice.name notice.time) notice.event).path others
      have dropped : recordings (notice :: rest) = recordings rest :=
        List.filter_cons_of_neg (by simp [records])
      rw [dropped, Taken.texts_of_other records]
      exact ih (agree.trans still.symm)
    | true =>
      obtain ⟨path, event⟩ : ∃ path, notice.event = .recording path := by
        cases event : notice.event with
        | recording path => exact ⟨path, rfl⟩
        | _ => rw [event] at records; cases records
      have kept : recordings (notice :: rest) = notice :: recordings rest :=
        List.filter_cons_of_pos records
      have left : (Taken.mk apart notice).after.recordingPath = some path :=
        Taken.path_of_recording event
      have right : (Taken.mk whole notice).after.recordingPath = some path :=
        Taken.path_of_recording event
      obtain ⟨final, further⟩ := ih (left.trans right.symm)
      have texts : (Taken.change? ⟨apart, notice⟩).toList.filterMap SessionChange.recordingText? =
          (Taken.change? ⟨whole, notice⟩).toList.filterMap SessionChange.recordingText? := by
        rw [Taken.texts_of_recording event, Taken.texts_of_recording event]
        exact congrArg (fun last => if last = some path then [] else _) agree
      rw [kept, recordingTexts_cons, texts]
      exact ⟨final, congrArg _ further⟩

/-! ### The theorem -/

/-- **Recordings and the life of a call do not touch each other**, whatever the record takes in.
Without the events that say nothing of the life of the call its life is the same in the end, and so is
all that is told of it but the recordings. Conversely the recordings alone leave the same path of a
recording, and the same texts are told of them, in one order.

With the text goes the status of the call at the time, as with every change of its record. -/
theorem recordings_transparent (callId : String) (time : Timestamp) (notices : List Notice) :
    let start := new callId time
    (start.takeAll (driving notices)).life = (start.takeAll notices).life ∧
    start.told (driving notices) =
      (start.told notices).filter (fun change => !change.tellsRecording) ∧
    (start.takeAll (recordings notices)).recordingPath = (start.takeAll notices).recordingPath ∧
    start.recordingTexts (recordings notices) = start.recordingTexts notices ∧
    ∀ taken ∈ start.takings notices, ∀ change, taken.change? = some change →
      change.tellsRecording = true → ∃ path, taken.notice.event = .recording path ∧
        change = .updated taken.before.status ("Call recording available: " ++ path) := by
  intro start
  obtain ⟨life, others⟩ := driving_agree (rfl : start.life = start.life) notices
  obtain ⟨path, texts⟩ := recordings_agree (rfl : start.recordingPath = start.recordingPath) notices
  refine ⟨life, others, path, texts, ?carried⟩
  case carried =>
    intro taken _ change told records
    have announced := Taken.announces told
    rw [announced.tellsRecording] at records
    generalize taken.notice.event = event at announced records
    cases announced with
    | recorded other => exact ⟨_, rfl, rfl⟩
    | _ => cases records

/-- A call that is dialing when its recording is told. -/
def recordedWhileDialing : List Notice := [
  ⟨.dialBegin none none, "DialBegin", .epoch⟩,
  ⟨.recording "/rec/R.wav", "VarSet", .epoch⟩]

/-- What is told of a recording carries the status of the call. So it does depend on the events of the
life of the call. -/
theorem recording_carries_status :
    let start := new "R" .epoch
    (start.told recordedWhileDialing).filter SessionChange.tellsRecording =
      [.updated .dialing "Call recording available: /rec/R.wav"] ∧
    start.told (recordings recordedWhileDialing) =
      [.updated .new "Call recording available: /rec/R.wav"] ∧
    ¬ ∀ notices, start.told (recordings notices) =
      (start.told notices).filter SessionChange.tellsRecording := by
  intro start
  have whole : (start.told recordedWhileDialing).filter SessionChange.tellsRecording =
      [.updated .dialing "Call recording available: /rec/R.wav"] := by decide +kernel
  have apart : start.told (recordings recordedWhileDialing) =
      [.updated .new "Call recording available: /rec/R.wav"] := by decide +kernel
  refine ⟨whole, apart, fun always => ?_⟩
  have same := apart.symm.trans ((always recordedWhileDialing).trans whole)
  cases same

end Session

end Switchboard
