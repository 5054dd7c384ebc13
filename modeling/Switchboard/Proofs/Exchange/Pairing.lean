/-
**Everybody gets the answer to its own action.**

In a lawful exchange in which the switch writes no malformed answer (`Clean`), a response reaches
its owner or nobody (`recipients_of_clean`), and it does reach an owner who still waits
(`reaches_owner`). What has arrived stays until its caller takes it (`obtains`). `own_response` puts
the three together.
-/

import Switchboard.Proofs.Exchange.Invariant

namespace Switchboard

open Correlator

namespace Exchange

/-! ### Without malformed answers -/

/-- Whether every answer that the switch writes is well-formed. -/
def Clean (moves : List Move) : Prop :=
  ∀ parcel, .emit parcel ∈ moves → parcel.owner.isSome → parcel.isResponse = true

/-- Without malformed answers no receipt is one. -/
theorem spoiled_of_clean {queueSize dropped : Nat} {moves : List Move} (clean : Clean moves)
    {receipts : List Receipt}
    (part : ∀ receipt ∈ receipts, receipt ∈ ((start queueSize dropped).run moves).read) :
    spoiled receipts = 0 := by
  unfold spoiled
  rw [List.countP_eq_zero]
  intro receipt member
  have inWritten : receipt.parcel ∈ ((start queueSize dropped).run moves).written :=
    List.mem_append_left _ (List.mem_map_of_mem (part receipt member))
  rw [written_run] at inWritten
  obtain ⟨move, inMoves, emits⟩ := List.mem_flatMap.mp (inWritten : receipt.parcel ∈ moves.flatMap _)
  cases move with
  | emit parcel =>
    rw [List.mem_singleton.mp emits]
    unfold Parcel.takesTurn
    cases owner : parcel.owner with
    | none => simp
    | some pending => simp [clean parcel inMoves (by rw [owner]; rfl)]
  | _ => cases emits

namespace Sound

variable {exchange : Exchange}

/-- The owner of an answer without an identifier that has been read. -/
theorem line_of_receipt (sound : Sound exchange) {place : Nat} {receipt : Receipt}
    (here : exchange.read[place]? = some receipt) {pending : Pending}
    (owner : receipt.parcel.owner = some pending) (untagged : pending.actionId = none) :
    exchange.line[taken (exchange.read.take place) + spoiled (exchange.read.take place)]? =
      some pending := by
  obtain ⟨inside, same⟩ := List.getElem?_eq_some_iff.mp here
  have written : exchange.written =
      (exchange.read.take place).map Receipt.parcel ++ receipt.parcel ::
        ((exchange.read.drop (place + 1)).map Receipt.parcel ++ exchange.stream) := by
    unfold Exchange.written
    rw [← List.cons_append, ← List.append_assoc, ← List.map_cons, ← List.map_append, ← same,
      ← List.drop_eq_getElem_cons inside, List.take_append_drop]
  rw [← length_turns]
  exact sound.turn written owner untagged

/-- Where no malformed answer has been read before, a frame reaches its owner or nobody. -/
theorem recipients_of_unspoiled (sound : Sound exchange) {place : Nat} {receipt : Receipt}
    (here : exchange.read[place]? = some receipt)
    (unspoiled : spoiled (exchange.read.take place) = 0) :
    receipt.recipients = [] ∨
      ∃ pending, receipt.parcel.owner = some pending ∧ receipt.recipients = [pending.ticket] := by
  refine (sound.delivered place receipt here).imp_right ?_
  rintro ⟨-, caller, claims, reached⟩
  unfold claimant? at claims
  split at claims
  · next pending owner =>
    split at claims
    · exact ⟨pending, owner, by rw [Option.some.inj claims, reached]⟩
    · next untagged =>
      have own := sound.line_of_receipt here owner (by simpa using untagged)
      rw [unspoiled, Nat.add_zero, claims] at own
      exact ⟨pending, owner, by rw [reached, Option.some.inj own]⟩
  · cases claims

/-- Where no malformed answer has been read, the next response reaches its owner if that waits. -/
theorem reaches_owner (sound : Sound exchange) (unspoiled : spoiled exchange.read = 0)
    (reading : exchange.link.reader = .reading) {parcel : Parcel} {later : List Parcel}
    (stream : exchange.stream = parcel :: later) {pending : Pending}
    (owner : parcel.owner = some pending) {response : Response}
    (frame : parcel.frame = .response response)
    (waiting : exchange.link.correlator.mailbox pending.ticket = .waiting) :
    (exchange.step .hear).link.correlator.mailbox pending.ticket = .answered response := by
  obtain ⟨letter, member, rfl⟩ := List.mem_map.mp (sound.owner_of_next stream owner)
  have gets : exchange.link.correlator.recipient? response = some letter.pending.ticket := by
    unfold recipient?
    rw [sound.actionId_of_next stream owner frame]
    cases tag : letter.pending.actionId with
    | some id => exact sound.tidy.listed letter member waiting id tag
    | none =>
      -- As many turns have come as callers have been taken off, so the owner is the head.
      have own := sound.turn (congrArg _ stream) owner tag
      rw [length_turns, unspoiled, Nat.add_zero] at own
      show exchange.link.correlator.inOrder.head? = _
      rw [sound.inLine (sound.isOpen reading), List.head?_map, List.head?_drop, own]
      rfl
  have after : (exchange.step .hear).link.correlator =
      exchange.link.correlator.resolve response := by
    simp only [Exchange.step, reading, stream]
    show (exchange.link.hear parcel.frame).correlator = _
    rw [frame]
    rfl
  rw [after, mailbox_resolve, if_pos ⟨gets, waiting⟩]

/-! ### What has arrived stays -/

/-- What has arrived stays, whatever happens, unless its caller takes it or goes away. -/
theorem keeps (sound : Sound exchange) {place : Nat} {letter : Letter}
    (here : exchange.sent[place]? = some letter) {response : Response}
    (arrived : exchange.link.correlator.mailbox letter.pending.ticket = .answered response)
    {move : Move} (stays : move ≠ .giveUp place) (waits : ∀ limitMs, move ≠ .collect place limitMs) :
    (exchange.step move).link.correlator.mailbox letter.pending.ticket = .answered response := by
  have settled : exchange.link.correlator.mailbox letter.pending.ticket ≠ .waiting := by
    rw [arrived]
    exact Mailbox.noConfusion
  have apart : ∀ other second, exchange.sent[second]? = some other → place ≠ second →
      (exchange.link.correlator.abandon other.pending).mailbox letter.pending.ticket =
        .answered response := by
    intro other second there differ
    rw [mailbox_abandon, if_neg (sound.tidy.ticket_ne here there differ), arrived]
  cases move with
  | send action fault =>
    have earlier := sound.tidy.bounded letter (List.mem_of_getElem? here)
    have enlisted : (exchange.link.correlator.enlist action.actionId).mailbox
        letter.pending.ticket = .answered response :=
      (mailbox_enlist_of_settled sound.tidy.keyed earlier settled).trans arrived
    simp only [Exchange.step, Exchange.send, Link.send]
    cases action.framingFault? with
    | some field => exact arrived
    | none =>
      cases closed : exchange.link.correlator.closed with
      | some reason =>
        rw [register_closed closed]
        exact arrived
      | none =>
        rw [register_open closed]
        cases fault with
        | none => exact enlisted
        | some text =>
          have after : (exchange.link.correlator.enlist action.actionId).mailbox
              letter.pending.ticket ≠ .waiting := by
            rw [enlisted]
            exact Mailbox.noConfusion
          exact (mailbox_cancel_of_settled after).trans enlisted
  | giveUp second =>
    simp only [Exchange.step]
    split
    · next other there => exact apart other second there fun same => stays (same ▸ rfl)
    · exact arrived
  | collect second limitMs =>
    simp only [Exchange.step, Exchange.collect]
    split
    · next other there =>
      split
      · exact apart other second there fun same => waits limitMs (same ▸ rfl)
      · exact arrived
    · exact arrived
  | emit parcel => exact arrived
  | hear =>
    simp only [Exchange.step]
    split
    · next parcel later _ _ =>
      show (exchange.link.hear parcel.frame).correlator.mailbox letter.pending.ticket = _
      cases parcel.frame with
      | response answer => exact (mailbox_resolve_of_settled settled).trans arrived
      | _ => exact arrived
    · exact arrived
  | serve move => exact arrived
  | release reason => exact (mailbox_close_of_settled settled).trans arrived
  | stop reason => exact arrived
  | retire => exact (mailbox_close_of_settled settled).trans arrived

/-- A caller that looks finds what has arrived. -/
theorem finds {place : Nat} {letter : Letter} (here : exchange.sent[place]? = some letter)
    {response : Response}
    (arrived : exchange.link.correlator.mailbox letter.pending.ticket = .answered response)
    (limitMs : Nat) :
    (letter.pending.ticket, .ok response) ∈ (exchange.step (.collect place limitMs)).outcomes := by
  have held : exchange.link.correlator.isHeld letter.pending.ticket = true := by
    unfold isHeld
    rw [arrived]
    rfl
  simp only [Exchange.step, here, Exchange.collect, held, if_true]
  refine List.mem_append_right _ (List.mem_singleton.mpr ?_)
  exact congrArg (Prod.mk _) (collect_eq_ok_iff.mpr arrived).symm

/-- A caller that has an answer obtains it, if it looks and does not go away before. -/
theorem obtains (sound : Sound exchange) {later : List Move} (lawful : exchange.Lawful later)
    {place : Nat} {letter : Letter} (here : exchange.sent[place]? = some letter)
    {response : Response}
    (arrived : exchange.link.correlator.mailbox letter.pending.ticket = .answered response)
    (stays : .giveUp place ∉ later) (looks : ∃ limitMs, .collect place limitMs ∈ later) :
    (letter.pending.ticket, .ok response) ∈ (exchange.run later).outcomes := by
  induction later generalizing exchange with
  | nil =>
    obtain ⟨limitMs, member⟩ := looks
    cases member
  | cons move rest ih =>
    show _ ∈ ((exchange.step move).run rest).outcomes
    by_cases now : ∃ limitMs, move = .collect place limitMs
    · obtain ⟨limitMs, rfl⟩ := now
      exact (outcomes_run _ rest).subset (finds here arrived limitMs)
    · have waits : ∀ limitMs, move ≠ .collect place limitMs :=
        fun limitMs same => now ⟨limitMs, same⟩
      rw [List.mem_cons, not_or] at stays
      refine ih (sound.step lawful.1) lawful.2 ?_ ?_ stays.2 ?_
      · obtain ⟨new, same⟩ := sent_step exchange move
        rw [← same, List.getElem?_append_left (List.getElem?_eq_some_iff.mp here).1, here]
      · exact sound.keeps here arrived (Ne.symm stays.1) waits
      · obtain ⟨limitMs, member⟩ := looks
        exact ⟨limitMs, (List.mem_cons.mp member).resolve_left (Ne.symm (waits limitMs))⟩

end Sound

/-! ### The answer to its own action -/

/-- **Everybody gets the answer to its own action.** Whatever the order in which callers send, wait
and give up, and the switch writes and the reader reads, as long as the promises are kept and every
answer is well-formed:

* the wire holds the actions in the order of the letters, unless a write that fails leaves a part of
  its block there;
* a caller that gets a response gets one that answers its own action and reached nobody else;
* what is read reaches its owner or nobody, and no two frames that are read have one owner;
* a caller who still waits when its answer is read gets it, if it looks and does not go away. -/
theorem own_response {queueSize dropped : Nat} {moves : List Move}
    (lawful : (start queueSize dropped).Lawful moves) (clean : Clean moves) :
    let last := (start queueSize dropped).run moves
    ((∀ move ∈ moves, move.Untorn) → last.link.written = bytesOf last.sent) ∧
    (∀ ticket response, (ticket, .ok response) ∈ last.outcomes →
      ∃ receipt ∈ last.read, ∃ letter ∈ last.sent, letter.pending.ticket = ticket ∧
        receipt.parcel = ⟨some letter.pending, .response response⟩ ∧
        receipt.recipients = [ticket]) ∧
    (∀ receipt ∈ last.read, receipt.recipients = [] ∨
      ∃ pending, receipt.parcel.owner = some pending ∧ receipt.recipients = [pending.ticket]) ∧
    (last.read.filterMap fun receipt => receipt.parcel.owner).Nodup ∧
    (∀ before after, moves = before ++ .hear :: after →
      let now := (start queueSize dropped).run before
      ∀ (place : Nat) (letter : Letter) (response : Response) (later : List Parcel),
        now.sent[place]? = some letter →
        now.stream = ⟨some letter.pending, .response response⟩ :: later →
        now.link.reader = .reading →
        now.link.correlator.mailbox letter.pending.ticket = .waiting →
        .giveUp place ∉ after → (∃ limitMs, .collect place limitMs ∈ after) →
        (letter.pending.ticket, .ok response) ∈ last.outcomes) := by
  intro last
  have sound : Sound last := sound_run lawful
  have reaches : ∀ receipt ∈ last.read, receipt.recipients = [] ∨
      ∃ pending, receipt.parcel.owner = some pending ∧ receipt.recipients = [pending.ticket] := by
    intro receipt member
    obtain ⟨place, here⟩ := List.mem_iff_getElem?.mp member
    exact sound.recipients_of_unspoiled here
      (spoiled_of_clean clean fun _ inPart => List.mem_of_mem_take inPart)
  refine ⟨wire_run rfl, ?own, reaches, ?once, ?waits⟩
  case own =>
    intro ticket response got
    obtain ⟨receipt, member, reached, frame⟩ := sound.earned ticket response (.inr got)
    rcases reaches receipt member with nobody | ⟨pending, owner, one⟩
    · rw [nobody] at reached
      cases reached
    · have inSent : pending ∈ last.sent.map Letter.pending :=
        sound.asked pending (List.mem_filterMap.mpr
          ⟨receipt.parcel, List.mem_append_left _ (List.mem_map_of_mem member), owner⟩)
      obtain ⟨letter, isLetter, rfl⟩ := List.mem_map.mp inSent
      have same : ticket = letter.pending.ticket := by
        rwa [one, List.mem_singleton] at reached
      refine ⟨receipt, member, letter, isLetter, same.symm, ?_, same ▸ one⟩
      rw [← owner, ← frame]
  case once =>
    have part : (last.read.filterMap fun receipt => receipt.parcel.owner).Sublist last.answered := by
      unfold answered written
      rw [List.filterMap_append, List.filterMap_map]
      exact List.sublist_append_left _ _
    exact part.nodup sound.once
  case waits =>
    rintro before after rfl now place letter response later here stream reading waiting stays looks
    obtain ⟨lawfulBefore, permits, lawfulAfter⟩ := lawful_append.mp lawful
    have soundNow : Sound now := sound_run lawfulBefore
    have cleanBefore : Clean before :=
      fun parcel member => clean parcel (List.mem_append_left _ member)
    have arrived := soundNow.reaches_owner (spoiled_of_clean cleanBefore fun _ inRead => inRead)
      reading stream rfl rfl waiting
    have split : last = (now.step .hear).run after := run_append _ before (.hear :: after)
    rw [split]
    refine (soundNow.step permits).obtains lawfulAfter ?_ arrived stays looks
    obtain ⟨new, same⟩ := sent_step now .hear
    rw [← same, List.getElem?_append_left (List.getElem?_eq_some_iff.mp here).1, here]

/-- A bare `Success`, with an identifier or without one. -/
def success (actionId : Option String) : Response :=
  { succeeded := true
    status := "Success"
    message := none
    actionId := actionId
    attributes :=
      ⟨(Response.key, "Success") :: actionId.toList.map fun id => (Action.idKey, id)⟩
    output := [] }

/-- Two callers of one action each, and what they get in line for. -/
def plainCaller : Pending := ⟨0, "Ping", none⟩

def taggedCaller : Pending := ⟨1, "Ping", some "a"⟩

/-- The answer to the second action overtakes the answer to the first. -/
def overtaking : List Move :=
  [.send Action.ping none, .send (Action.ping.withActionId "a") none,
    .emit ⟨none, .malformed .unnamedEvent⟩,
    .emit ⟨some taggedCaller, .response (success (some "a"))⟩,
    .emit ⟨some plainCaller, .response (success none)⟩,
    .hear, .hear, .hear, .collect 0 5000, .collect 1 5000]

theorem own_response_overtaking :
    ((start 8 0).Lawful overtaking ∧ Clean overtaking) ∧
      (0, .ok (success none)) ∈ ((start 8 0).run overtaking).outcomes ∧
      (1, .ok (success (some "a"))) ∈ ((start 8 0).run overtaking).outcomes := by
  have lawful : (start 8 0).Lawful overtaking := by decide +kernel
  have clean : Clean overtaking := by
    intro parcel member owned
    simp only [overtaking, List.mem_cons, reduceCtorEq, Move.emit.injEq, false_or,
      List.not_mem_nil, or_false] at member
    rcases member with rfl | rfl | rfl
    · cases owned
    · rfl
    · rfl
  obtain ⟨-, -, -, -, waits⟩ := own_response lawful clean
  refine ⟨⟨lawful, clean⟩, ?_, ?_⟩
  · exact waits (overtaking.take 7) [.collect 0 5000, .collect 1 5000] rfl 0 ⟨plainCaller, Action.ping⟩
      (success none) [] rfl rfl rfl rfl (by simp) ⟨5000, by simp⟩
  · exact waits (overtaking.take 6) (overtaking.drop 7) rfl 1
      ⟨taggedCaller, Action.ping.withActionId "a"⟩ (success (some "a")) _ rfl rfl rfl rfl
      (by simp [overtaking]) ⟨5000, by simp [overtaking]⟩

end Exchange

end Switchboard
