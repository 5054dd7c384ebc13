/-
**An identifier that the switch sends back.**

The switch answers an action with a block that holds the very line of the action's identifier. On
the way back three things happen to that line: the decoder takes the blanks around the value away
(`Echo.pair_mem`), a value of which nothing is left counts as no identifier, and the table of those
who wait is asked for exactly what is left. So the response reaches the caller of the action exactly
when the identifier is plain and no other one stands before it in the block (`echo_reaches_iff`).

A blank identifier does harm: its response is taken for one without an identifier, and uses up the
turn of whoever is first in line (`Echo.takes_turn`, `echo_misses`).
-/

import Switchboard.Proofs.Action.Framing
import Switchboard.Proofs.Correlator.Refinement
import Switchboard.Proofs.Decoder.RoundTrip
import Switchboard.Proofs.Exchange.Letters

namespace Switchboard

open Text Block

/-! ### What comes back -/

theorem Frame.formed_of_ofBlock {block : Block} {response : Response}
    (spells : ofBlock block = .response response) :
    Response.ofHeaders? block.headers block.loose = some response := by
  unfold ofBlock ofEventBlock ofResponseBlock at spells
  repeat' split at spells
  all_goals cases spells
  next formed => exact formed

/-- A response holds the headers and the loose lines from which it is formed. -/
theorem Response.ofHeaders?_self {attributes : Headers} {output : List String} {response : Response}
    (formed : ofHeaders? attributes output = some response) :
    ofHeaders? response.attributes response.output = some response := by
  have same := formed
  unfold ofHeaders? at same
  obtain ⟨value, -, rfl⟩ := Option.map_eq_some_iff.mp same
  exact formed

/-- The line of an identifier is read as that identifier without the blanks around it. -/
theorem Line.ofChars_idLine {id : String} (inLine : '\n' ∉ id.toList) (ending : Ending) :
    Line.ofChars ((Action.lineText (Action.idKey, id)).toList ++ ending.lead) =
      .header Action.idKey (trim id) := by
  have keyed : Action.idKey ≠ "" := by decide
  have colonFree : ':' ∉ Action.idKey.toList := by decide
  have keyInLine : '\n' ∉ Action.idKey.toList := by decide
  have keyTrimmed : trim Action.idKey = Action.idKey := by decide
  have trimmed : (trim id).toList = trimChars id.toList := String.toList_ofList
  refine Block.ofChars_lineText_trim
    ⟨keyed, colonFree, keyInLine, keyTrimmed, ?_, Line.trim_ofList_trimChars _⟩ ending
  rw [trimmed]
  exact fun member => inLine (mem_of_mem_trimChars member)

namespace Exchange

/-- The bytes of one block, which spell a response and hold the line of an identifier as it was
written. -/
structure Echo (id : String) (bytes : List UInt8) (response : Response) : Prop where
  begins : blankLine? bytes = none
  ends : blockEnd? bytes = some bytes.length
  spells : Frame.ofBytes bytes = .response response
  echoed : ∃ text, Utf8.decode bytes = .ok text ∧ ∃ ending : Ending,
    (Action.lineText (Action.idKey, id)).toList ++ ending.lead ∈ splitLines text

namespace Echo

variable {id : String} {bytes : List UInt8} {response : Response}

theorem block (echo : Echo id bytes response) :
    ∃ text, Utf8.decode bytes = .ok text ∧
      Block.ofChars text = ⟨response.attributes, response.output⟩ ∧
      Response.ofHeaders? response.attributes response.output = some response := by
  obtain ⟨text, read, -⟩ := echo.echoed
  have spells := echo.spells
  unfold Frame.ofBytes at spells
  rw [read] at spells
  dsimp only at spells
  have whole : (Frame.ofBlock (Block.ofChars text)).headers? = some response.attributes := by
    rw [spells]
    rfl
  refine ⟨text, read, ?_, Response.ofHeaders?_self (Frame.formed_of_ofBlock spells)⟩
  rw [Frame.block_of_headers? whole, spells]
  rfl

/-- The line comes back as a pair, without the blanks around the identifier. -/
theorem pair_mem (echo : Echo id bytes response) :
    (Action.idKey, trim id) ∈ response.attributes.pairs := by
  obtain ⟨text, read, whole, -⟩ := echo.block
  obtain ⟨text', read', ending, inside⟩ := echo.echoed
  cases read.symm.trans read'
  have inId : '\n' ∉ id.toList := by
    refine fun member => not_mem_of_mem_splitLines text _ inside (List.mem_append_left _ ?_)
    unfold Action.lineText
    rw [String.toList_append]
    exact List.mem_append_right _ member
  have header := Line.ofChars_idLine inId ending
  have pairs := congrArg (fun block => block.headers.pairs) whole
  rw [← pairs]
  exact List.mem_filterMap.mpr ⟨_, List.mem_map_of_mem inside, congrArg Line.pair? header⟩

/-- No value of the block has blanks around it. -/
theorem trim_header (echo : Echo id bytes response) {key value : String}
    (found : response.header key = some value) : trim value = value := by
  obtain ⟨text, -, whole, -⟩ := echo.block
  have legible := Block.legible_ofChars text
  rw [whole] at legible
  obtain ⟨other, member⟩ := Headers.mem_of_get found
  exact (legible.tidy _ member).valueTrimmed

theorem actionId_eq (echo : Echo id bytes response) :
    response.actionId = (response.header Action.idKey).bind nonBlank? := by
  obtain ⟨text, -, -, formed⟩ := echo.block
  exact actionId_of_ofHeaders? formed

/-- The response carries the identifier exactly when that is plain and the first in the block. -/
theorem actionId_eq_some_iff (echo : Echo id bytes response) :
    response.actionId = some id ↔ IsPlain id ∧ response.header Action.idKey = some id := by
  rw [echo.actionId_eq]
  constructor
  · intro carried
    obtain ⟨value, found, kept⟩ := Option.bind_eq_some_iff.mp carried
    obtain ⟨filled, rfl⟩ := nonBlank?_eq_some_iff.mp kept
    exact ⟨⟨filled, echo.trim_header found⟩, found⟩
  · rintro ⟨⟨filled, -⟩, found⟩
    rw [found]
    exact nonBlank?_eq_some_iff.mpr ⟨filled, rfl⟩

/-- The response to an action with a blank identifier, unless another one stands before it, uses up
the turn of whoever is first in line. -/
theorem takes_turn (echo : Echo id bytes response) (blank : isBlankText id = true)
    (first : response.header Action.idKey = some (trim id)) (correlator : Correlator) :
    (correlator.resolve response).inOrder = correlator.inOrder.tail := by
  have nothing : nonBlank? (trim id) = none := by
    unfold nonBlank?
    exact if_pos (isBlankText_trim blank)
  have untagged : response.actionId = none := by
    rw [echo.actionId_eq, first, Option.bind_some, nothing]
  rw [Correlator.inOrder_resolve, if_pos untagged]

theorem next (echo : Echo id bytes response) (limit : Nat) (gap : List Ending)
    (rest : List UInt8) :
    ((Decoder.new false limit).feed (gap.flatMap Ending.bytes ++ (bytes ++ rest))).next =
      (some (.response response), (Decoder.new false limit).feed rest) := by
  rw [Decoder.next_block gap echo.begins echo.ends, echo.spells]

end Echo

end Exchange

/-! ### Whom it reaches -/

namespace Correlator

/-- Whether a response reaches the caller of a ticket, and nobody else notices. -/
structure Reaches (correlator : Correlator) (ticket : Nat) (response : Response) : Prop where
  answered : (correlator.resolve response).mailbox ticket = .answered response
  others : ∀ other, other ≠ ticket →
    (correlator.resolve response).mailbox other = correlator.mailbox other
  line : (correlator.resolve response).inOrder = correlator.inOrder
  table : ∀ id other, other ≠ ticket →
    ((correlator.resolve response).ticketOf? id = some other ↔
      correlator.ticketOf? id = some other)

variable {correlator : Correlator} {ticket : Nat} {response : Response}

theorem recipient?_of_reaches (reaches : correlator.Reaches ticket response)
    (waits : correlator.mailbox ticket = .waiting) :
    correlator.recipient? response = some ticket := by
  have answered := reaches.answered
  rw [mailbox_resolve] at answered
  by_contra missed
  rw [if_neg fun both => missed both.1, waits] at answered
  cases answered

theorem waiting_of_missed (missed : correlator.recipient? response ≠ some ticket)
    (waits : correlator.mailbox ticket = .waiting) :
    (correlator.resolve response).mailbox ticket = .waiting := by
  rw [mailbox_resolve, if_neg fun both => missed both.1, waits]

theorem reaches_of_found {id : String} (carries : response.actionId = some id)
    (found : correlator.ticketOf? id = some ticket)
    (waits : correlator.mailbox ticket = .waiting) : correlator.Reaches ticket response := by
  have own : correlator.recipient? response = some ticket := by
    unfold recipient?
    rw [carries]
    exact found
  refine ⟨?answered, ?others, ?line, ?table⟩
  case answered => rw [mailbox_resolve, if_pos ⟨own, waits⟩]
  case others =>
    intro other differ
    rw [mailbox_resolve, if_neg]
    rintro ⟨same, -⟩
    exact differ (Option.some.inj (same.symm.trans own))
  case line => rw [inOrder_resolve, carries, if_neg (Option.some_ne_none id)]
  case table =>
    intro key other differ
    rw [ticketOf?_resolve, carries]
    split
    · next same =>
      rw [← Option.some.inj same, found, Option.some.injEq]
      exact iff_of_false nofun (Ne.symm differ)
    · exact Iff.rfl

end Correlator

namespace Exchange

variable {action : Action} {id : String} {moves : List Desk.Move} {ticket : Nat}
variable {bytes : List UInt8} {response : Response}

/-- Whoever waits under an identifier is the recipient of a response that carries it, and of no
other. -/
theorem recipient?_eq_some_iff {pending : Pending} (tagged : pending.actionId = some id)
    (registered : pending ∈ (Desk.run moves).callers.map Caller.pending)
    (waits : (Desk.run moves).correlator.mailbox pending.ticket = .waiting) :
    (Desk.run moves).correlator.recipient? response = some pending.ticket ↔
      response.actionId = some id := by
  obtain ⟨ledger, agrees⟩ := Ledger.agrees_run moves
  rw [agrees.callers, List.map_map] at registered
  obtain ⟨entry, listed, rfl⟩ := List.mem_map.mp registered
  have found := agrees.listed entry listed waits id tagged
  unfold Correlator.recipient?
  cases carried : response.actionId with
  | none =>
    refine iff_of_false (fun first => ?_) nofun
    have inLine : entry.inLine = true :=
      (agrees.mem_line_iff listed).mp (List.mem_of_mem_head? first)
    exact Option.some_ne_none id (tagged.symm.trans (Ledger.Entry.inLine_iff.mp inLine).1)
  | some other =>
    dsimp only
    constructor
    · intro reached
      obtain ⟨owner, ownerListed, same, under⟩ := agrees.table other _ reached
      rw [agrees.eq_of_ticket ownerListed listed same] at under
      exact under.symm.trans tagged
    · intro same
      rw [Option.some.inj same]
      exact found

/-- **An identifier that comes back finds its caller exactly when it is plain.** An action with an
identifier has been written, and its caller waits at a desk with any past. When the switch answers
with one block that holds the line of the identifier, as it was written, the decoder takes that
block for the response. The response reaches that caller and nobody else exactly when the identifier
has no blanks around it and is not blank, and no other identifier stands before it in the block;
otherwise the caller goes on waiting. -/
theorem echo_reaches_iff {wire : List UInt8} (tagged : action.actionId = some id)
    (encoded : action.encode [] = .ok wire)
    (registered : ⟨ticket, action.name, action.actionId⟩ ∈
      (Desk.run moves).callers.map Caller.pending)
    (waits : (Desk.run moves).correlator.mailbox ticket = .waiting)
    (echo : Echo id bytes response) :
    (Utf8.bytesOf (Action.lineText (Action.idKey, id)) ++ [cr, lf] <:+: wire) ∧
    (∀ (limit : Nat) (gap : List Ending) (rest : List UInt8),
      ((Decoder.new false limit).feed (gap.flatMap Ending.bytes ++ (bytes ++ rest))).next =
        (some (.response response), (Decoder.new false limit).feed rest)) ∧
    (Action.idKey, trim id) ∈ response.attributes.pairs ∧
    ((Desk.run moves).correlator.Reaches ticket response ↔
      IsPlain id ∧ response.header Action.idKey = some id) ∧
    (¬(Desk.run moves).correlator.Reaches ticket response →
      ((Desk.run moves).step (.resolve response)).correlator.mailbox ticket = .waiting) := by
  have finds : (Desk.run moves).correlator.recipient? response = some ticket ↔
      response.actionId = some id := recipient?_eq_some_iff tagged registered waits
  have exactly : (Desk.run moves).correlator.Reaches ticket response ↔
      response.actionId = some id := by
    constructor
    · exact fun reaches => finds.mp (Correlator.recipient?_of_reaches reaches waits)
    · intro carries
      have found := finds.mpr carries
      unfold Correlator.recipient? at found
      rw [carries] at found
      exact Correlator.reaches_of_found carries found waits
  refine ⟨Action.idLine_infix tagged encoded, echo.next, echo.pair_mem,
    exactly.trans echo.actionId_eq_some_iff, fun missed => ?_⟩
  exact Correlator.waiting_of_missed (fun reached => missed (exactly.mpr (finds.mp reached))) waits

/-- A success that names an identifier, and what is read of it. -/
def namingSuccess (id : String) : String :=
  "Response: Success\r\n" ++ Action.lineText (Action.idKey, id) ++ "\r\n\r\n"

def readSuccess (value : String) : Response :=
  { succeeded := true
    status := "Success"
    message := none
    actionId := nonBlank? value
    attributes := ⟨[(Response.key, "Success"), (Action.idKey, value)]⟩
    output := [] }

/-- Somebody without an identifier is in line, and somebody with one waits beside. -/
def besideLine (id : String) : List Desk.Move :=
  [.register Action.ping, .register (Action.ping.withActionId id)]

theorem echo_reaches_iff_seven :
    Echo "7" (Utf8.bytesOf (namingSuccess "7")) (readSuccess "7") ∧
      (Desk.run (besideLine "7")).correlator.Reaches 1 (readSuccess "7") := by
  have echo : Echo "7" (Utf8.bytesOf (namingSuccess "7")) (readSuccess "7") := {
    begins := by decide +kernel
    ends := by decide +kernel
    spells := by decide +kernel
    echoed := ⟨_, Utf8.decode_encode _, .crLf, by decide +kernel⟩ }
  have safe : (Action.ping.withActionId "7").Safe :=
    Action.framingFault?_eq_none.mp (by decide +kernel)
  have registered : ⟨1, "Ping", some "7"⟩ ∈
      (Desk.run (besideLine "7")).callers.map Caller.pending := by decide +kernel
  obtain ⟨-, -, -, exactly, -⟩ := @echo_reaches_iff (Action.ping.withActionId "7") "7"
    (besideLine "7") 1 _ _ _ rfl (Action.encode_of_safe safe) registered (by decide +kernel) echo
  exact ⟨echo, exactly.mpr (by decide +kernel)⟩

/-- **A blank identifier does not find its caller.** -/
theorem echo_misses :
    ¬∀ (action : Action) (id : String) (wire bytes : List UInt8) (moves : List Desk.Move)
        (ticket : Nat) (response : Response),
      action.actionId = some id → action.encode [] = .ok wire →
      (Desk.run moves).correlator.closed = none →
      ⟨ticket, action.name, action.actionId⟩ ∈ (Desk.run moves).callers.map Caller.pending →
      (Desk.run moves).correlator.mailbox ticket = .waiting →
      (∀ pending ∈ (Desk.run moves).callers.map Caller.pending,
        pending.actionId = some id → pending.ticket = ticket) →
      Echo id bytes response →
      (Desk.run moves).correlator.Reaches ticket response := by
  intro always
  have echo : Echo " " (Utf8.bytesOf (namingSuccess " ")) (readSuccess "") := {
    begins := by decide +kernel
    ends := by decide +kernel
    spells := by decide +kernel
    echoed := ⟨_, Utf8.decode_encode _, .crLf, by decide +kernel⟩ }
  have safe : (Action.ping.withActionId " ").Safe :=
    Action.framingFault?_eq_none.mp (by decide +kernel)
  have reaches := always (Action.ping.withActionId " ") " " _ _ (besideLine " ") 1 _ rfl
    (Action.encode_of_safe safe) (by decide +kernel) (by decide +kernel) (by decide +kernel)
    (by decide +kernel) echo
  -- The one without an identifier has lost its turn.
  have line := reaches.line
  rw [echo.takes_turn (by decide +kernel) (by decide +kernel)] at line
  exact absurd line (by decide +kernel)

end Exchange

end Switchboard
