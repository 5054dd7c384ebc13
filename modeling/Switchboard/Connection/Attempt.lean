/-
**Connecting: an attempt to make a connection ready.**

An attempt opens a stream, logs in, and probes the link with a ping. Only then is the status set
to `ready`, and only if the link's reader has not ended in the meantime. The reader works beside
the attempt from the moment the stream is open, so everything may happen between two steps of it.
An attempt that fails ends its link and leaves the status `failed`, with the wording of its
error.

* `Attempt.step`: one step of the attempt, or of what happens beside it;
* `Attempt.conclude`: the rest of the attempt when nothing else happens any more. It ends because,
  where nobody waits, every step comes nearer to the end (`press_remaining`);
* `Connection.connect`: a whole attempt along a schedule.
-/

import Switchboard.Connection

namespace Switchboard

/-- What comes of opening a stream. -/
inductive Reach where
  | opened
  | refused (fault : String)
  | timedOut
  /-- The stream opens, but cannot be set up. -/
  | broken (fault : String)
  deriving DecidableEq, Repr

/-- How far an attempt has come. -/
inductive Stage where
  /-- The stream is open, and its reader is at work. -/
  | opened
  /-- The status says so. -/
  | authenticating
  | loggingIn (pending : Pending)
  | loggedIn
  | probing (pending : Pending)
  | probed
  /-- Something went wrong; the link is still to be ended. -/
  | failing (error : BridgeError)
  | finished (outcome : Except BridgeError Unit)
  deriving Repr

/-- An attempt under way. -/
structure Attempt where
  connection : Connection
  stage : Stage
  deriving Repr

/-- What may happen while an attempt is under way, one thing at a time. -/
inductive Move where
  /-- The attempt goes on, unless it waits. If it writes, the write fails with the fault that is
  given; if it ends its link, the reader stops at once. -/
  | goOn (fault : Option WriteFault)
  /-- The attempt has waited long enough. -/
  | timeUp
  /-- The attempt, if it is failing, ends its link in the way that is given. -/
  | undo (ending : LinkEnding)
  | beside (happening : Happening)
  deriving DecidableEq, Repr

namespace Reach

/-- The error of a stream that does not open. -/
def error? (settings : ConnectionSettings) : Reach → Option BridgeError
  | .opened => none
  | .refused fault => some (.connection (settings.serverId ++ ": " ++ fault))
  | .timedOut =>
    some (.connectTimeout settings.host settings.port settings.connectTimeoutMs)
  | .broken fault => some (.stream fault)

end Reach

namespace Attempt

/-- What is said of a probe that the switch rejects. -/
def probeRejected (message : String) : String :=
  "ping probe rejected: " ++ message

/-- The stage behind a response to the login. -/
def afterLogin (response : Response) : Stage :=
  if response.succeeded then .loggedIn
  else .failing (.authFailed response.messageOrDefault)

/-- The stage behind a response to the probe. -/
def afterProbe (response : Response) : Stage :=
  if response.succeeded then .probed
  else .failing (.authFailed (probeRejected response.messageOrDefault))

/-- The stage behind a wait. -/
def afterWait (result : Except BridgeError Response) (next : Response → Stage) : Stage :=
  match result with
  | .ok response => next response
  | .error error => .failing error

/-- Sends an action and goes on to wait for its response. -/
def sendAndWait (attempt : Attempt) (action : Action) (fault : Option WriteFault)
    (next : Pending → Stage) : Attempt :=
  match attempt.connection.link with
  | none => { attempt with stage := .failing (.disconnected .connectionClosed) }
  | some link =>
    match attempt.connection.sendOn link action fault with
    | (.ok pending, connection) => { connection, stage := next pending }
    | (.error refusal, connection) => { connection, stage := .failing refusal }

/-- Whether a response, or the news that none will come, is there. -/
def hasArrived (attempt : Attempt) (pending : Pending) : Bool :=
  match attempt.connection.link with
  | none => true
  | some link => (link.correlator.arrived? pending).isSome

/-- Ends a wait with what has come, or with a time limit that is passed. -/
def endWait (attempt : Attempt) (pending : Pending) (next : Response → Stage) : Attempt :=
  let (result, connection) :=
    attempt.connection.await pending attempt.connection.settings.readTimeoutMs
  { connection, stage := afterWait result next }

/-- Makes the connection ready, unless its link is over. -/
def promote (attempt : Attempt) : Attempt :=
  match attempt.connection.link with
  | none => { attempt with stage := .failing (.disconnected .connectionClosed) }
  | some link =>
    if attempt.connection.status = .authenticating ∧ link.correlator.closed = none then
      { connection := { attempt.connection with status := .ready }
        stage := .finished (.ok ()) }
    else
      { attempt with
        stage := .failing (.disconnected (link.correlator.closed.getD .connectionClosed)) }

/-- Ends the link of an attempt that fails. -/
def fail (attempt : Attempt) (error : BridgeError) (ending : LinkEnding) : Attempt :=
  { connection :=
      { attempt.connection.teardown ending with
        status := .failed (.connectFailed error.message) }
    stage := .finished (.error error) }

/-- The attempt's own next step. A wait for a response ends only when something has come. -/
def goOn (attempt : Attempt) (fault : Option WriteFault) : Attempt :=
  match attempt.stage with
  | .opened =>
    { connection := { attempt.connection with status := .authenticating }
      stage := .authenticating }
  | .authenticating =>
    let settings := attempt.connection.settings
    attempt.sendAndWait (Action.login settings.username settings.secret) fault .loggingIn
  | .loggingIn pending =>
    if attempt.hasArrived pending then attempt.endWait pending afterLogin else attempt
  | .loggedIn => attempt.sendAndWait Action.ping fault .probing
  | .probing pending =>
    if attempt.hasArrived pending then attempt.endWait pending afterProbe else attempt
  | .probed => attempt.promote
  | .failing error => attempt.fail error .prompt
  | .finished _ => attempt

/-- A wait that has lasted as long as it may. -/
def timeUp (attempt : Attempt) : Attempt :=
  match attempt.stage with
  | .loggingIn pending => attempt.endWait pending afterLogin
  | .probing pending => attempt.endWait pending afterProbe
  | _ => attempt

/-- The end of an attempt that is failing. -/
def undo (attempt : Attempt) (ending : LinkEnding) : Attempt :=
  match attempt.stage with
  | .failing error => attempt.fail error ending
  | _ => attempt

/-- One step of the attempt, or of what happens beside it. -/
def step (attempt : Attempt) : Move → Attempt
  | .goOn fault => attempt.goOn fault
  | .timeUp => attempt.timeUp
  | .undo ending => attempt.undo ending
  | .beside happening =>
    { attempt with connection := attempt.connection.happen happening }

/-- Steps along a schedule. -/
def run (attempt : Attempt) (schedule : List Move) : Attempt :=
  schedule.foldl step attempt

/-- The attempt goes on, and does not wait where nothing has come. -/
def press (attempt : Attempt) : Attempt :=
  (attempt.goOn none).timeUp

/-! ### The end of an attempt -/

/-- How many stages an attempt has in front of it, at most. -/
def remaining (attempt : Attempt) : Nat :=
  match attempt.stage with
  | .opened => 7
  | .authenticating => 6
  | .loggingIn _ => 5
  | .loggedIn => 4
  | .probing _ => 3
  | .probed => 2
  | .failing _ => 1
  | .finished _ => 0

theorem afterWait_cases (result : Except BridgeError Response) (next : Response → Stage) :
    (∃ response, afterWait result next = next response) ∨
      ∃ error, afterWait result next = .failing error := by
  cases result with
  | ok response => exact .inl ⟨response, rfl⟩
  | error error => exact .inr ⟨error, rfl⟩

theorem afterLogin_cases (response : Response) :
    afterLogin response = .loggedIn ∨ ∃ error, afterLogin response = .failing error := by
  simp only [afterLogin]
  split
  · exact .inl rfl
  · exact .inr ⟨_, rfl⟩

theorem afterProbe_cases (response : Response) :
    afterProbe response = .probed ∨ ∃ error, afterProbe response = .failing error := by
  simp only [afterProbe]
  split
  · exact .inl rfl
  · exact .inr ⟨_, rfl⟩

/-- A wait for the login leaves at most four stages. -/
theorem endWait_afterLogin_remaining (attempt : Attempt) (pending : Pending) :
    (attempt.endWait pending afterLogin).remaining ≤ 4 := by
  simp only [endWait, remaining]
  rcases afterWait_cases
    (attempt.connection.await pending attempt.connection.settings.readTimeoutMs).1 afterLogin with
    ⟨response, stage⟩ | ⟨error, stage⟩
  · rcases afterLogin_cases response with accepted | ⟨error, rejected⟩ <;> simp_all
  · simp_all

/-- A wait for the probe leaves at most two stages. -/
theorem endWait_afterProbe_remaining (attempt : Attempt) (pending : Pending) :
    (attempt.endWait pending afterProbe).remaining ≤ 2 := by
  simp only [endWait, remaining]
  rcases afterWait_cases
    (attempt.connection.await pending attempt.connection.settings.readTimeoutMs).1 afterProbe with
    ⟨response, stage⟩ | ⟨error, stage⟩
  · rcases afterProbe_cases response with accepted | ⟨error, rejected⟩ <;> simp_all
  · simp_all

/-- A send leaves the stages behind it, or one where it fails. -/
theorem sendAndWait_stage (attempt : Attempt) (action : Action) (fault : Option WriteFault)
    (next : Pending → Stage) :
    (∃ pending, (attempt.sendAndWait action fault next).stage = next pending) ∨
      ∃ error, (attempt.sendAndWait action fault next).stage = .failing error := by
  simp only [sendAndWait]
  split
  · exact .inr ⟨_, rfl⟩
  · split
    · exact .inl ⟨_, rfl⟩
    · exact .inr ⟨_, rfl⟩

/-- A promotion ends the attempt, or leaves one stage. -/
theorem promote_remaining (attempt : Attempt) : attempt.promote.remaining ≤ 1 := by
  simp only [promote]
  split
  · simp [remaining]
  · split <;> simp [remaining]

/-- A wait that runs out does not go back. -/
theorem timeUp_remaining (attempt : Attempt) : attempt.timeUp.remaining ≤ attempt.remaining := by
  cases stage : attempt.stage with
  | loggingIn pending =>
    have := attempt.endWait_afterLogin_remaining pending
    simp only [timeUp, stage]
    simp only [remaining, stage] at this ⊢
    omega
  | probing pending =>
    have := attempt.endWait_afterProbe_remaining pending
    simp only [timeUp, stage]
    simp only [remaining, stage] at this ⊢
    omega
  | opened | authenticating | loggedIn | probed | failing _ | finished _ =>
    simp [timeUp, remaining, stage]

/-- Without waiting, an attempt that is not over comes nearer to its end. -/
theorem press_remaining {attempt : Attempt} (under : attempt.remaining ≠ 0) :
    attempt.press.remaining < attempt.remaining := by
  have later := (attempt.goOn none).timeUp_remaining
  cases stage : attempt.stage with
  | opened =>
    have : (attempt.goOn none).remaining = 6 := by simp [goOn, remaining, stage]
    simp only [press, remaining, stage] at later this ⊢
    omega
  | authenticating =>
    have sent := attempt.sendAndWait_stage
      (Action.login attempt.connection.settings.username attempt.connection.settings.secret)
      none .loggingIn
    have : (attempt.goOn none).remaining ≤ 5 := by
      rcases sent with ⟨pending, next⟩ | ⟨error, next⟩ <;> simp [goOn, remaining, stage, next]
    simp only [press, remaining, stage] at later this ⊢
    omega
  | loggingIn pending =>
    have arrived := attempt.endWait_afterLogin_remaining pending
    have : attempt.press.remaining ≤ 4 := by
      simp only [press, goOn, stage] at later ⊢
      split
      · next here =>
        simp only [here, if_true] at later
        omega
      · simpa [timeUp, stage] using arrived
    simp only [remaining, stage] at this ⊢
    omega
  | loggedIn =>
    have sent := attempt.sendAndWait_stage Action.ping none .probing
    have : (attempt.goOn none).remaining ≤ 3 := by
      rcases sent with ⟨pending, next⟩ | ⟨error, next⟩ <;> simp [goOn, remaining, stage, next]
    simp only [press, remaining, stage] at later this ⊢
    omega
  | probing pending =>
    have arrived := attempt.endWait_afterProbe_remaining pending
    have : attempt.press.remaining ≤ 2 := by
      simp only [press, goOn, stage] at later ⊢
      split
      · next here =>
        simp only [here, if_true] at later
        omega
      · simpa [timeUp, stage] using arrived
    simp only [remaining, stage] at this ⊢
    omega
  | probed =>
    have : (attempt.goOn none).remaining ≤ 1 := by
      simpa [goOn, stage] using attempt.promote_remaining
    simp only [press, remaining, stage] at later this ⊢
    omega
  | failing error =>
    have : (attempt.goOn none).remaining = 0 := by simp [goOn, fail, remaining, stage]
    simp only [press, remaining, stage] at later this ⊢
    omega
  | finished outcome => simp [remaining, stage] at under

/-- The outcome of an attempt beside which nothing happens any more: every wait runs out. -/
def conclude (attempt : Attempt) : Except BridgeError Unit × Connection :=
  match _stage : attempt.stage with
  | .finished outcome => (outcome, attempt.connection)
  | .opened | .authenticating | .loggingIn _ | .loggedIn | .probing _ | .probed | .failing _ =>
    attempt.press.conclude
termination_by attempt.remaining
decreasing_by all_goals exact press_remaining (by simp [remaining, _stage])

/-- The attempt on a stream that has just been opened. What came of earlier links is forgotten,
apart from the count of lost events. -/
def start (connection : Connection) : Attempt :=
  { connection :=
      { connection with
        link := some (Link.new connection.settings.eventQueueSize connection.dropped)
        version := none }
    stage := .opened }

end Attempt

namespace Connection

/-- The connection on which an attempt begins: the link of before is ended. -/
def beginConnecting (connection : Connection) (ending : LinkEnding) : Connection :=
  { connection.teardown ending with status := .connecting }

/-- Makes the connection ready, if it is not. The ending says how the link of before goes, the reach
what comes of opening the stream, and the schedule what happens from then on. -/
def connect (connection : Connection) (ending : LinkEnding) (reach : Reach) (schedule : List Move) :
    Except BridgeError Unit × Connection :=
  if connection.isReady then (.ok (), connection)
  else
    let opening := connection.beginConnecting ending
    match reach.error? connection.settings with
    | some error =>
      (.error error, { opening with status := .failed (.connectFailed error.message) })
    | none => ((Attempt.start opening).run schedule).conclude

end Connection

end Switchboard
