/-
**An exchange: one link, its callers, and the switch at the other end.**

Callers write actions to the link and wait; the switch writes frames to the stream, one after the
other; the reader takes them off in the same order. An exchange records who wrote what: every frame
carries the caller whose action it answers, if it answers one (`Parcel.owner`), and every frame that
has been read carries the tickets under which it was delivered (`Receipt.recipients`), as the
mailboxes show it. Nothing of that is known to the link.

* `Exchange.step`, `Exchange.run`: what may happen, one move at a time and in any order;
* `Exchange.Permits`: what callers and the switch promise. Callers use each identifier once. The
  switch answers each action once, those without an identifier in the order of the wire, and an
  answer carries the identifier of its action. An answer may be malformed;
* `Exchange.Lawful`: a run that keeps the promises.
-/

import Switchboard.Connection.Link

namespace Switchboard

/-- An action on the wire, with its caller. -/
structure Letter where
  pending : Pending
  action : Action
  deriving DecidableEq, Repr

/-- A frame from the switch, with the caller whose action it answers. -/
structure Parcel where
  owner : Option Pending
  frame : Frame
  deriving DecidableEq, Repr

/-- A frame that has been read, with the tickets under which it was delivered. -/
structure Receipt where
  parcel : Parcel
  recipients : List Nat
  deriving DecidableEq, Repr

/-- A link and all that went over it. -/
structure Exchange where
  link : Link
  /-- The actions on the wire, in order. -/
  sent : List Letter
  /-- What the switch has written and nobody has read yet. -/
  stream : List Parcel
  /-- What has been read, in order. -/
  read : List Receipt
  /-- What callers got for their wait, told by their tickets. -/
  outcomes : List (Nat × Except BridgeError Response)

namespace Parcel

/-- Whether the frame answers an action without an identifier. -/
def takesTurn (parcel : Parcel) : Bool :=
  parcel.owner.any fun pending => pending.actionId.isNone

def isResponse (parcel : Parcel) : Bool :=
  match parcel.frame with
  | .response _ => true
  | _ => false

end Parcel

namespace Exchange

/-- What may happen, one thing at a time. -/
inductive Move where
  /-- A caller gets in line and writes its action. With a fault, the write fails, and the switch takes
  what has got out of the block for no action. -/
  | send (action : Action) (fault : Option WriteFault)
  /-- The caller of a letter throws its handle away. -/
  | giveUp (place : Nat)
  /-- The caller of a letter takes what is there when its time is up, if it still has its handle. -/
  | collect (place limitMs : Nat)
  /-- The switch writes a frame. -/
  | emit (parcel : Parcel)
  /-- The reader takes the next frame off the stream. -/
  | hear
  /-- The handlers of events do something. -/
  | serve (move : EventQueue.Move)
  | release (reason : DisconnectReason)
  | stop (reason : DisconnectReason)
  | retire

/-- A link whose stream has just been opened. -/
def start (queueSize dropped : Nat) : Exchange :=
  { link := Link.new queueSize dropped, sent := [], stream := [], read := [], outcomes := [] }

/-- The tickets whose callers waited before and do not wait any more. -/
def reached (before after : Correlator) : List Nat :=
  (List.range before.mailboxes.length).filter fun ticket =>
    before.isListening ticket && !after.isListening ticket

def send (exchange : Exchange) (action : Action) (fault : Option WriteFault) : Exchange :=
  match exchange.link.send action fault with
  | (.ok pending, link) =>
    { exchange with link, sent := exchange.sent ++ [{ pending, action }] }
  | (.error _, link) => { exchange with link }

def giveUp (exchange : Exchange) (pending : Pending) : Exchange :=
  { exchange with link := exchange.link.giveUp pending }

def collect (exchange : Exchange) (pending : Pending) (limitMs : Nat) : Exchange :=
  if exchange.link.correlator.isHeld pending.ticket then
    { exchange with
      link := (exchange.link.collect pending limitMs).2
      outcomes :=
        exchange.outcomes ++ [(pending.ticket, (exchange.link.collect pending limitMs).1)] }
  else exchange

def hear (exchange : Exchange) (parcel : Parcel) (later : List Parcel) : Exchange :=
  { exchange with
    link := exchange.link.hear parcel.frame
    stream := later
    read := exchange.read ++
      [{ parcel
         recipients :=
          reached exchange.link.correlator (exchange.link.hear parcel.frame).correlator }] }

/-- The exchange after one move; a move of somebody who is not there changes nothing. -/
def step (exchange : Exchange) : Move → Exchange
  | .send action fault => exchange.send action fault
  | .giveUp place =>
    match exchange.sent[place]? with
    | some letter => exchange.giveUp letter.pending
    | none => exchange
  | .collect place limitMs =>
    match exchange.sent[place]? with
    | some letter => exchange.collect letter.pending limitMs
    | none => exchange
  | .emit parcel => { exchange with stream := exchange.stream ++ [parcel] }
  | .hear =>
    match exchange.link.reader, exchange.stream with
    | .reading, parcel :: later => exchange.hear parcel later
    | _, _ => exchange
  | .serve move =>
    { exchange with
      link := { exchange.link with events := exchange.link.events.move move } }
  | .release reason => { exchange with link := exchange.link.release reason }
  | .stop reason => { exchange with link := exchange.link.stop reason }
  | .retire => { exchange with link := exchange.link.retire }

/-- The exchange after moves, one after the other. -/
def run (exchange : Exchange) (moves : List Move) : Exchange :=
  moves.foldl step exchange

/-! ### Promises -/

/-- Whether an identifier comes back as it was sent: not blank, and without blanks around it. -/
def IsPlain (id : String) : Prop :=
  ¬Text.isBlankText id ∧ Text.trim id = id

/-- Everything the switch has written, in order. -/
def written (exchange : Exchange) : List Parcel :=
  exchange.read.map Receipt.parcel ++ exchange.stream

/-- The callers whose actions have been answered, in the order of the answers. -/
def answered (exchange : Exchange) : List Pending :=
  exchange.written.filterMap Parcel.owner

/-- Those without an identifier among callers. -/
def turns (callers : List Pending) : List Pending :=
  callers.filter fun pending => pending.actionId.isNone

/-- The callers without an identifier, in the order in which their actions were written. -/
def line (exchange : Exchange) : List Pending :=
  turns (exchange.sent.map Letter.pending)

/-- Whether a frame is an answer to the action of a caller: a response as it is read off a block,
with that caller's identifier, which loses the blanks around it, or without one; or a block that
cannot be read. -/
def Answers (pending : Pending) : Frame → Prop
  | .response response =>
    Response.ofHeaders? response.attributes response.output = some response ∧
      response.header Action.idKey = pending.actionId.map Text.trim
  | .malformed _ => True
  | .banner _ | .event _ => False

/-- Whether a frame is what the switch writes for its owner; a response always has one. -/
def Honest (parcel : Parcel) : Prop :=
  match parcel.owner with
  | none => parcel.isResponse = false
  | some pending => Answers pending parcel.frame

/-- What callers and the switch promise about their next move. -/
def Permits (exchange : Exchange) : Move → Prop
  | .send action _ =>
    ∀ id, action.actionId = some id →
      IsPlain id ∧ ∀ letter ∈ exchange.sent, letter.pending.actionId ≠ some id
  | .emit parcel =>
    Honest parcel ∧ ∀ pending, parcel.owner = some pending →
      pending ∈ exchange.sent.map Letter.pending ∧ pending ∉ exchange.answered ∧
        turns (exchange.answered ++ [pending]) <+: exchange.line
  | _ => True

/-- A run in which every promise is kept. -/
def Lawful (exchange : Exchange) : List Move → Prop
  | [] => True
  | move :: rest => exchange.Permits move ∧ Lawful (exchange.step move) rest

instance (id : String) : Decidable (IsPlain id) :=
  inferInstanceAs (Decidable (_ ∧ _))

instance (pending : Pending) : (frame : Frame) → Decidable (Answers pending frame)
  | .response _ => inferInstanceAs (Decidable (_ ∧ _))
  | .malformed _ => .isTrue trivial
  | .banner _ | .event _ => .isFalse id

instance : (parcel : Parcel) → Decidable (Honest parcel)
  | ⟨none, frame⟩ => inferInstanceAs (Decidable (Parcel.isResponse ⟨none, frame⟩ = false))
  | ⟨some pending, frame⟩ => inferInstanceAs (Decidable (Answers pending frame))

instance (exchange : Exchange) : (move : Move) → Decidable (exchange.Permits move)
  | .send action _ =>
    inferInstanceAs (Decidable (∀ id ∈ action.actionId, IsPlain id ∧
      ∀ letter ∈ exchange.sent, letter.pending.actionId ≠ some id))
  | .emit parcel =>
    inferInstanceAs (Decidable (Honest parcel ∧ ∀ pending ∈ parcel.owner,
      pending ∈ exchange.sent.map Letter.pending ∧ pending ∉ exchange.answered ∧
        turns (exchange.answered ++ [pending]) <+: exchange.line))
  | .giveUp _ | .collect _ _ | .hear | .serve _ | .release _ | .stop _ | .retire => .isTrue trivial

instance decidableLawful (exchange : Exchange) : (moves : List Move) → Decidable (exchange.Lawful moves)
  | [] => .isTrue trivial
  | move :: rest =>
    have := decidableLawful (exchange.step move) rest
    inferInstanceAs (Decidable (exchange.Permits move ∧ (exchange.step move).Lawful rest))

/-! ### What a run adds up to -/

theorem run_append (exchange : Exchange) (first second : List Move) :
    exchange.run (first ++ second) = (exchange.run first).run second :=
  List.foldl_append

theorem lawful_append {exchange : Exchange} {first second : List Move} :
    exchange.Lawful (first ++ second) ↔
      exchange.Lawful first ∧ (exchange.run first).Lawful second := by
  induction first generalizing exchange with
  | nil => exact (iff_of_eq (true_and _)).symm
  | cons move rest ih =>
    show exchange.Permits move ∧ Lawful (exchange.step move) (rest ++ second) ↔ _
    rw [ih, ← and_assoc]
    rfl

/-- The frames that a move puts on the stream. -/
def Move.emitted : Move → List Parcel
  | .emit parcel => [parcel]
  | _ => []

/-- A frame that is read stays in what has been written. -/
theorem written_step (exchange : Exchange) (move : Move) :
    (exchange.step move).written = exchange.written ++ move.emitted := by
  cases move with
  | emit parcel => exact (List.append_assoc _ _ _).symm
  | send action fault =>
    simp only [step, send, Move.emitted, List.append_nil]
    split <;> rfl
  | giveUp place =>
    simp only [step, giveUp, Move.emitted, List.append_nil]
    split <;> rfl
  | collect place limitMs =>
    simp only [step, collect, Move.emitted, List.append_nil]
    split
    · split <;> rfl
    · rfl
  | hear =>
    simp only [step, Move.emitted, List.append_nil]
    split
    · next stream =>
      unfold written
      rw [stream]
      simp [hear]
    · rfl
  | _ => exact (List.append_nil _).symm

/-- What has been written is what the moves have put on the stream. -/
theorem written_run (exchange : Exchange) (moves : List Move) :
    (exchange.run moves).written = exchange.written ++ moves.flatMap Move.emitted := by
  induction moves generalizing exchange with
  | nil => exact (List.append_nil _).symm
  | cons move rest ih =>
    show ((exchange.step move).run rest).written = _
    rw [ih, written_step, List.append_assoc, List.flatMap_cons]

/-- What has been sent stays sent. -/
theorem sent_step (exchange : Exchange) (move : Move) :
    exchange.sent <+: (exchange.step move).sent := by
  cases move with
  | send action fault =>
    simp only [step, send]
    split
    · exact List.prefix_append _ _
    · exact List.prefix_rfl
  | giveUp place =>
    simp only [step, giveUp]
    split <;> exact List.prefix_rfl
  | collect place limitMs =>
    simp only [step, collect]
    split
    · split <;> exact List.prefix_rfl
    · exact List.prefix_rfl
  | hear =>
    simp only [step, hear]
    split <;> exact List.prefix_rfl
  | _ => exact List.prefix_rfl

/-- What a caller got it does not lose. -/
theorem outcomes_step (exchange : Exchange) (move : Move) :
    exchange.outcomes <+: (exchange.step move).outcomes := by
  cases move with
  | send action fault =>
    simp only [step, send]
    split <;> exact List.prefix_rfl
  | giveUp place =>
    simp only [step, giveUp]
    split <;> exact List.prefix_rfl
  | collect place limitMs =>
    simp only [step, collect]
    split
    · split
      · exact List.prefix_append _ _
      · exact List.prefix_rfl
    · exact List.prefix_rfl
  | hear =>
    simp only [step, hear]
    split <;> exact List.prefix_rfl
  | _ => exact List.prefix_rfl

theorem outcomes_run (exchange : Exchange) (moves : List Move) :
    exchange.outcomes <+: (exchange.run moves).outcomes := by
  induction moves generalizing exchange with
  | nil => exact List.prefix_rfl
  | cons move rest ih => exact (outcomes_step exchange move).trans (ih (exchange.step move))

/-- The line is a matter of what has been sent. -/
theorem line_congr {exchange next : Exchange} (sent : next.sent = exchange.sent) :
    next.line = exchange.line := by
  unfold line
  rw [sent]

/-- What has been written is a matter of what has been read and of what is still to be read. -/
theorem written_congr {exchange next : Exchange} (read : next.read = exchange.read)
    (stream : next.stream = exchange.stream) : next.written = exchange.written := by
  unfold written
  rw [read, stream]

/-- Who has been answered is a matter of what has been written. -/
theorem answered_congr {exchange next : Exchange} (written : next.written = exchange.written) :
    next.answered = exchange.answered := by
  unfold answered
  rw [written]

/-- The bytes of letters, in order. -/
def bytesOf (letters : List Letter) : List UInt8 :=
  letters.flatMap fun letter => Text.Utf8.bytesOf letter.action.wire

/-- Whether a write that fails leaves nothing on the stream. -/
def Move.Untorn : Move → Prop
  | .send _ (some fault) => fault.sent = 0
  | _ => True

/-- Where no write is torn, the wire holds the letters, one block behind the other, and nothing
else. -/
theorem wire_step {exchange : Exchange} (wire : exchange.link.written = bytesOf exchange.sent)
    {move : Move} (untorn : move.Untorn) :
    (exchange.step move).link.written = bytesOf (exchange.step move).sent := by
  cases move with
  | send action fault =>
    simp only [step, send, Link.send]
    cases action.framingFault? with
    | some field => exact wire
    | none =>
      cases exchange.link.correlator.register action with
      | error refusal => exact wire
      | ok registered =>
        cases fault with
        | some fault =>
          show exchange.link.written ++ List.take fault.sent _ = bytesOf exchange.sent
          rw [show fault.sent = 0 from untorn, List.take_zero, List.append_nil, wire]
        | none =>
          show exchange.link.written ++ _ = bytesOf (exchange.sent ++ [_])
          rw [wire]
          simp [bytesOf]
  | giveUp place =>
    simp only [step, giveUp]
    split <;> exact wire
  | collect place limitMs =>
    simp only [step, collect]
    split
    · split <;> exact wire
    · exact wire
  | hear =>
    simp only [step]
    split
    · next parcel later _ _ =>
      show (exchange.link.hear parcel.frame).written = _
      cases parcel.frame <;> exact wire
    · exact wire
  | _ => exact wire

theorem wire_run {exchange : Exchange} (wire : exchange.link.written = bytesOf exchange.sent)
    {moves : List Move} (untorn : ∀ move ∈ moves, move.Untorn) :
    (exchange.run moves).link.written = bytesOf (exchange.run moves).sent := by
  induction moves generalizing exchange with
  | nil => exact wire
  | cons move rest ih =>
    rw [List.forall_mem_cons] at untorn
    exact ih (wire_step wire untorn.1) untorn.2

end Exchange

end Switchboard
