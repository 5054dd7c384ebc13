/-
**What every lawful exchange keeps.**

`Sound` ties the line of the correlator, the letters without an identifier and the answers together.
The line is what is left of those letters when as many are taken off their head as well-formed
answers to such letters have been read (`taken`). Malformed answers (`spoiled`) take nobody off the
line; that is why the two are counted apart.

* `Delivered`: what a frame that has been read may have done;
* `Sound.step`, `Sound.run`: every lawful move, and so every lawful run, keeps an exchange sound.
-/

import Switchboard.Proofs.Exchange.Letters

namespace Switchboard

open Correlator

namespace Exchange

/-! ### What has been read -/

/-- How many well-formed answers without an identifier have been read. -/
def taken (receipts : List Receipt) : Nat :=
  receipts.countP fun receipt => receipt.parcel.takesTurn && receipt.parcel.isResponse

/-- How many malformed answers to actions without an identifier have been read. -/
def spoiled (receipts : List Receipt) : Nat :=
  receipts.countP fun receipt => receipt.parcel.takesTurn && !receipt.parcel.isResponse

/-- So many turns have come as answers to actions without an identifier have been read. -/
theorem length_turns (receipts : List Receipt) :
    (turns ((receipts.map Receipt.parcel).filterMap Parcel.owner)).length =
      taken receipts + spoiled receipts := by
  induction receipts with
  | nil => rfl
  | cons first rest ih =>
    unfold taken spoiled at ih ⊢
    rw [List.map_cons, List.countP_cons, List.countP_cons]
    cases owner : first.parcel.owner with
    | none =>
      have idle : first.parcel.takesTurn = false := by
        unfold Parcel.takesTurn
        rw [owner]
        rfl
      rw [List.filterMap_cons_none owner, idle, ih]
      rfl
    | some pending =>
      have turn : first.parcel.takesTurn = pending.actionId.isNone := by
        unfold Parcel.takesTurn
        rw [owner]
        rfl
      rw [List.filterMap_cons_some owner, turn]
      unfold turns at ih ⊢
      rw [List.filter_cons]
      cases pending.actionId.isNone with
      | false =>
        rw [if_neg Bool.false_ne_true, ih]
        simp
      | true =>
        rw [if_pos rfl, List.length_cons, ih]
        cases first.parcel.isResponse <;> simp <;> omega

/-- Who gets a response after what has been read before: the caller of its identifier, or the one
behind as many in the line as responses without an identifier have been read. -/
def claimant? (queue : List Pending) (before : List Receipt) (parcel : Parcel) : Option Pending :=
  match parcel.owner with
  | some owner => if owner.actionId.isSome then some owner else queue[taken before]?
  | none => none

/-- Whether a frame reached nobody, or was a response and reached the one who gets it. -/
def Delivered (line : List Pending) (before : List Receipt) (receipt : Receipt) : Prop :=
  receipt.recipients = [] ∨
    receipt.parcel.isResponse = true ∧
      ∃ caller, claimant? line before receipt.parcel = some caller ∧
        receipt.recipients = [caller.ticket]

/-- Those who get in line later do not matter. -/
theorem Delivered.append {line : List Pending} {before : List Receipt} {receipt : Receipt}
    (delivered : Delivered line before receipt) (later : List Pending) :
    Delivered (line ++ later) before receipt := by
  refine delivered.imp_right fun ⟨isResponse, caller, claims, reached⟩ =>
    ⟨isResponse, caller, ?_, reached⟩
  unfold claimant? at claims ⊢
  split at claims
  · split at claims
    · next tagged => rw [if_pos tagged, claims]
    · next untagged => rw [if_neg untagged, List.getElem?_append_left
        (List.getElem?_eq_some_iff.mp claims).1, claims]
  · cases claims

/-- Whether a caller has got a response, or will when it looks. -/
def HasGot (exchange : Exchange) (ticket : Nat) (response : Response) : Prop :=
  exchange.link.correlator.mailbox ticket = .answered response ∨
    (ticket, .ok response) ∈ exchange.outcomes

/-- What every lawful exchange keeps. -/
structure Sound (exchange : Exchange) : Prop where
  tidy : Tidy exchange.link.correlator exchange.sent
  inLine : exchange.link.correlator.closed = none → exchange.link.correlator.inOrder =
    (exchange.line.drop (taken exchange.read)).map Pending.ticket
  isOpen : exchange.link.reader = .reading → exchange.link.correlator.closed = none
  once : exchange.answered.Nodup
  asked : ∀ pending ∈ exchange.answered, pending ∈ exchange.sent.map Letter.pending
  inTurn : turns exchange.answered <+: exchange.line
  honest : ∀ parcel ∈ exchange.written, Honest parcel
  delivered : ∀ place receipt, exchange.read[place]? = some receipt →
    Delivered exchange.line (exchange.read.take place) receipt
  earned : ∀ ticket response, exchange.HasGot ticket response →
    ∃ receipt ∈ exchange.read,
      ticket ∈ receipt.recipients ∧ receipt.parcel.frame = .response response

theorem sound_start (queueSize dropped : Nat) : Sound (start queueSize dropped) where
  tidy := Tidy.start
  inLine _ := rfl
  isOpen _ := rfl
  once := List.nodup_nil
  asked := by simp [answered, written, start]
  inTurn := List.prefix_rfl
  honest := by simp [written, start]
  delivered := by simp [start]
  earned := by simp [HasGot, start, Link.new, new, mailbox]

/-! ### Who is reached -/

/-- Nobody reads once the client has ended the link. -/
theorem retire_reader_ne (link : Link) : link.retire.reader ≠ .reading := by
  unfold Link.retire
  cases link.reader <;> exact Reader.noConfusion

theorem nodup_reached (before after : Correlator) : (reached before after).Nodup :=
  List.filter_sublist.nodup List.nodup_range

theorem reached_self (correlator : Correlator) : reached correlator correlator = [] := by
  unfold reached
  rw [List.filter_eq_nil_iff]
  intro ticket _
  simp

/-- A response reaches the caller whose ticket it uses up, if that caller listens, and nobody
else. -/
theorem mem_reached_resolve {correlator : Correlator} {response : Response} {ticket : Nat} :
    ticket ∈ reached correlator (correlator.resolve response) ↔
      correlator.recipient? response = some ticket ∧ correlator.mailbox ticket = .waiting := by
  unfold reached
  rw [List.mem_filter, List.mem_range, Bool.and_eq_true, isListening_iff, Bool.not_eq_true',
    Bool.eq_false_iff, Ne, isListening_iff, mailbox_resolve]
  constructor
  · rintro ⟨-, waiting, answered⟩
    by_contra missed
    rw [if_neg fun both => missed ⟨both.1, waiting⟩] at answered
    exact answered waiting
  · rintro ⟨own, waiting⟩
    refine ⟨lt_of_mailbox_ne (by rw [waiting]; exact Mailbox.noConfusion), waiting, ?_⟩
    rw [if_pos ⟨own, waiting⟩]
    exact Mailbox.noConfusion

/-- Where nobody but one can be reached, that one is or nobody is. -/
theorem reached_eq {before after : Correlator} {ticket : Nat}
    (only : ∀ other ∈ reached before after, other = ticket) :
    reached before after = [] ∨ reached before after = [ticket] := by
  cases tickets : reached before after with
  | nil => exact .inl rfl
  | cons first rest =>
    rw [tickets] at only
    obtain ⟨same, others⟩ := List.forall_mem_cons.mp only
    have fresh := (List.nodup_cons.mp (tickets ▸ nodup_reached before after)).1
    have empty : rest = [] := by
      rw [List.eq_nil_iff_forall_not_mem]
      exact fun other member => fresh (same.trans (others other member).symm ▸ member)
    exact .inr (by rw [same, empty])

namespace Sound

variable {exchange : Exchange}

/-- Nothing is sent, written or read, and nobody gets a response. -/
theorem quiet (sound : Sound exchange) {next : Exchange} (sent : next.sent = exchange.sent)
    (stream : next.stream = exchange.stream) (read : next.read = exchange.read)
    (tidy : Tidy next.link.correlator exchange.sent)
    (inLine : next.link.correlator.closed = none →
      exchange.link.correlator.closed = none ∧
        next.link.correlator.inOrder = exchange.link.correlator.inOrder)
    (isOpen : next.link.reader = .reading → next.link.correlator.closed = none)
    (got : ∀ ticket response, next.HasGot ticket response → exchange.HasGot ticket response) :
    Sound next := by
  have line : next.line = exchange.line := line_congr sent
  have written : next.written = exchange.written := written_congr read stream
  have answered : next.answered = exchange.answered := answered_congr written
  exact {
    tidy := sent ▸ tidy
    inLine := by
      intro opened
      obtain ⟨before, same⟩ := inLine opened
      rw [same, line, read]
      exact sound.inLine before
    isOpen := isOpen
    once := answered ▸ sound.once
    asked := by
      rw [answered, sent]
      exact sound.asked
    inTurn := by
      rw [answered, line]
      exact sound.inTurn
    honest := written ▸ sound.honest
    delivered := by
      rw [line, read]
      exact sound.delivered
    earned := by
      intro ticket response has
      rw [read]
      exact sound.earned ticket response (got ticket response has) }

theorem emit (sound : Sound exchange) {parcel : Parcel} (permits : exchange.Permits (.emit parcel)) :
    Sound (exchange.step (.emit parcel)) := by
  obtain ⟨honest, owned⟩ := permits
  have written : (exchange.step (.emit parcel)).written = exchange.written ++ [parcel] :=
    (List.append_assoc _ _ _).symm
  have answered : (exchange.step (.emit parcel)).answered =
      exchange.answered ++ parcel.owner.toList := by
    unfold Exchange.answered
    rw [written, List.filterMap_append]
    cases tag : parcel.owner <;> simp [tag]
  exact {
    tidy := sound.tidy
    inLine := sound.inLine
    isOpen := sound.isOpen
    once := by
      rw [answered]
      cases tag : parcel.owner with
      | none => simpa using sound.once
      | some pending =>
        obtain ⟨-, new, -⟩ := owned pending tag
        rw [Option.toList_some, List.nodup_append]
        refine ⟨sound.once, List.nodup_singleton _, fun other member last isLast same => new ?_⟩
        rw [List.mem_singleton] at isLast
        rwa [← isLast, ← same]
    asked := by
      rw [answered]
      cases tag : parcel.owner with
      | none =>
        rw [Option.toList_none, List.append_nil]
        exact sound.asked
      | some pending =>
        rw [Option.toList_some, List.forall_mem_append, List.forall_mem_singleton]
        exact ⟨sound.asked, (owned pending tag).1⟩
    inTurn := by
      rw [answered]
      cases tag : parcel.owner with
      | none =>
        rw [Option.toList_none, List.append_nil]
        exact sound.inTurn
      | some pending => exact (owned pending tag).2.2
    honest := by
      rw [written, List.forall_mem_append, List.forall_mem_singleton]
      exact ⟨sound.honest, honest⟩
    delivered := sound.delivered
    earned := sound.earned }

theorem giveUp (sound : Sound exchange) (pending : Pending) : Sound (exchange.giveUp pending) := by
  exact sound.quiet rfl rfl rfl (sound.tidy.abandon pending) (fun opened => ⟨opened, rfl⟩)
    sound.isOpen fun _ _ has => has.imp_left answered_of_abandon

theorem collect (sound : Sound exchange) (pending : Pending) (limitMs : Nat) :
    Sound (exchange.collect pending limitMs) := by
  unfold Exchange.collect
  split
  · refine sound.quiet rfl rfl rfl (sound.tidy.abandon pending) (fun opened => ⟨opened, rfl⟩)
      sound.isOpen fun ticket response has => ?_
    rcases has with arrived | logged
    · exact .inl (answered_of_abandon arrived)
    · rcases List.mem_append.mp logged with before | last
      · exact .inr before
      · obtain ⟨rfl, got⟩ := Prod.mk.inj (List.mem_singleton.mp last)
        exact .inl (collect_eq_ok_iff.mp got.symm)
  · exact sound

theorem closed (sound : Sound exchange) {next : Exchange} (sent : next.sent = exchange.sent)
    (stream : next.stream = exchange.stream) (read : next.read = exchange.read)
    (outcomes : next.outcomes = exchange.outcomes) {reason : DisconnectReason}
    (correlator : next.link.correlator = exchange.link.correlator.close reason)
    (reader : next.link.reader ≠ .reading) : Sound next := by
  refine sound.quiet sent stream read (correlator ▸ sound.tidy.close reason) (fun opened => ?_)
    (fun reading => absurd reading reader) fun ticket response has => ?_
  · rw [correlator, close_closed, Option.or_eq_none_iff] at opened
    cases opened.2
  · unfold HasGot at has
    rw [correlator, outcomes] at has
    exact has.imp_left answered_of_close

/-- Whoever is answered in its turn has its place in the line behind those answered before. -/
theorem turn (sound : Sound exchange) {before after : List Parcel} {parcel : Parcel}
    {pending : Pending} (written : exchange.written = before ++ parcel :: after)
    (owner : parcel.owner = some pending) (untagged : pending.actionId = none) :
    exchange.line[(turns (before.filterMap Parcel.owner)).length]? = some pending := by
  have split : turns exchange.answered = turns (before.filterMap Parcel.owner) ++
      pending :: turns (after.filterMap Parcel.owner) := by
    unfold answered turns
    rw [written, List.filterMap_append, List.filterMap_cons_some owner, List.filter_append,
      List.filter_cons_of_pos (by rw [untagged]; rfl)]
  obtain ⟨rest, line⟩ := sound.inTurn
  rw [← line, split, List.append_assoc, List.getElem?_append_right (Nat.le_refl _), Nat.sub_self]
  rfl

/-- As many as have been taken off the line stood in it. -/
theorem taken_le (sound : Sound exchange) : taken exchange.read ≤ exchange.line.length := by
  have part : turns ((exchange.read.map Receipt.parcel).filterMap Parcel.owner) <+:
      turns exchange.answered := by
    unfold answered Exchange.written turns
    rw [List.filterMap_append, List.filter_append]
    exact List.prefix_append _ _
  calc taken exchange.read
      ≤ taken exchange.read + spoiled exchange.read := Nat.le_add_right _ _
    _ = (turns ((exchange.read.map Receipt.parcel).filterMap Parcel.owner)).length :=
        (length_turns exchange.read).symm
    _ ≤ exchange.line.length := (part.trans sound.inTurn).length_le

/-- Only callers of letters stand in the line. -/
theorem letter_of_inLine (sound : Sound exchange) (opened : exchange.link.correlator.closed = none)
    {ticket : Nat} (member : ticket ∈ exchange.link.correlator.inOrder) :
    ∃ letter ∈ exchange.sent, letter.pending.ticket = ticket := by
  rw [sound.inLine opened] at member
  obtain ⟨pending, inRest, rfl⟩ := List.mem_map.mp member
  have inLine : pending ∈ exchange.line := List.mem_of_mem_drop inRest
  obtain ⟨letter, inSent, rfl⟩ := List.mem_map.mp (List.mem_of_mem_filter inLine)
  exact ⟨letter, inSent, rfl⟩

theorem sent (sound : Sound exchange) {action : Action}
    (fresh : ∀ id, action.actionId = some id →
      IsPlain id ∧ ∀ letter ∈ exchange.sent, letter.pending.actionId ≠ some id)
    {next : Exchange}
    (letters : next.sent =
      exchange.sent ++ [{ pending := exchange.link.correlator.pendingFor action, action }])
    (correlator : next.link.correlator = exchange.link.correlator.enlist action.actionId)
    (stream : next.stream = exchange.stream) (read : next.read = exchange.read)
    (outcomes : next.outcomes = exchange.outcomes)
    (reader : next.link.reader = exchange.link.reader) : Sound next := by
  have written : next.written = exchange.written := written_congr read stream
  have answered : next.answered = exchange.answered := answered_congr written
  have line : next.line = exchange.line ++ turns [exchange.link.correlator.pendingFor action] := by
    unfold Exchange.line turns
    rw [letters, List.map_append, List.filter_append]
    rfl
  exact {
    tidy := by
      rw [correlator, letters]
      exact sound.tidy.enlist fresh
    inLine := by
      -- Nobody has been taken off who did not stand in the line, so the new caller is last.
      rw [correlator, enlist_closed, inOrder_enlist, line, read,
        List.drop_append_of_le_length sound.taken_le, List.map_append]
      intro opened
      rw [sound.inLine opened]
      cases tag : action.actionId <;> simp [turns, pendingFor, tag]
    isOpen := by
      rw [reader, correlator, enlist_closed]
      exact sound.isOpen
    once := answered ▸ sound.once
    asked := by
      rw [answered, letters, List.map_append]
      exact fun pending member => List.mem_append_left _ (sound.asked pending member)
    inTurn := by
      rw [answered, line]
      exact sound.inTurn.trans (List.prefix_append _ _)
    honest := written ▸ sound.honest
    delivered := by
      rw [line, read]
      exact fun place receipt here => (sound.delivered place receipt here).append _
    earned := by
      intro ticket response has
      rw [read]
      refine sound.earned ticket response ?_
      unfold HasGot at has
      rw [correlator, outcomes] at has
      exact has.imp_left (answered_of_enlist sound.tidy.keyed) }

/-- A caller whose write fails leaves the line again. -/
theorem withdrawn (sound : Sound exchange) {action : Action}
    (fresh : ∀ id, action.actionId = some id →
      IsPlain id ∧ ∀ letter ∈ exchange.sent, letter.pending.actionId ≠ some id)
    {next : Exchange} (letters : next.sent = exchange.sent)
    (correlator : next.link.correlator = (exchange.link.correlator.enlist action.actionId).cancel
      (exchange.link.correlator.pendingFor action))
    (stream : next.stream = exchange.stream) (read : next.read = exchange.read)
    (outcomes : next.outcomes = exchange.outcomes)
    (reader : next.link.reader = exchange.link.reader) : Sound next := by
  refine sound.quiet letters stream read (correlator ▸ (sound.tidy.enlist fresh).withdraw) ?inLine
    ?isOpen ?got
  case inLine =>
    rw [correlator, cancel_closed, enlist_closed]
    refine fun opened => ⟨opened, ?_⟩
    rw [inOrder_cancel, inOrder_enlist]
    show (if action.actionId = none then _ else _) = _
    split
    · rw [List.filter_append, List.filter_cons_of_neg (by simp [pendingFor]), List.filter_nil,
        List.append_nil, List.filter_eq_self]
      intro ticket member
      obtain ⟨letter, inSent, rfl⟩ := sound.letter_of_inLine opened member
      exact decide_eq_true (Nat.ne_of_lt (sound.tidy.bounded letter inSent))
    · rfl
  case isOpen =>
    rw [reader, correlator, cancel_closed, enlist_closed]
    exact sound.isOpen
  case got =>
    intro ticket response has
    unfold HasGot at has
    rw [correlator, outcomes] at has
    exact has.imp_left fun arrived =>
      answered_of_enlist sound.tidy.keyed (answered_of_cancel arrived)

theorem send (sound : Sound exchange) {action : Action} {fault : Option WriteFault}
    (permits : exchange.Permits (.send action fault)) : Sound (exchange.send action fault) := by
  unfold Exchange.send Link.send
  cases action.framingFault? with
  | some field => exact sound
  | none =>
    cases closed : exchange.link.correlator.closed with
    | some reason =>
      rw [register_closed closed]
      exact sound
    | none =>
      rw [register_open closed]
      cases fault with
      | some text => exact sound.withdrawn permits rfl rfl rfl rfl rfl rfl
      | none => exact sound.sent permits rfl rfl rfl rfl rfl rfl

/-- A frame is taken off the stream, and reaches the one who gets it at most. -/
theorem heard (sound : Sound exchange) {parcel : Parcel} {later : List Parcel}
    (stream : exchange.stream = parcel :: later) {recipients : List Nat} {next : Exchange}
    (sent : next.sent = exchange.sent) (rest : next.stream = later)
    (read : next.read = exchange.read ++ [⟨parcel, recipients⟩])
    (outcomes : next.outcomes = exchange.outcomes)
    (tidy : Tidy next.link.correlator exchange.sent)
    (closed : next.link.correlator.closed = exchange.link.correlator.closed)
    (inOrder : next.link.correlator.inOrder =
      if parcel.takesTurn && parcel.isResponse then exchange.link.correlator.inOrder.tail
      else exchange.link.correlator.inOrder)
    (reader : next.link.reader = exchange.link.reader)
    (delivered : Delivered exchange.line exchange.read ⟨parcel, recipients⟩)
    (got : ∀ ticket response, next.link.correlator.mailbox ticket = .answered response →
      exchange.link.correlator.mailbox ticket = .answered response ∨
        ticket ∈ recipients ∧ parcel.frame = .response response) : Sound next := by
  have line : next.line = exchange.line := line_congr sent
  have written : next.written = exchange.written := by
    unfold Exchange.written
    rw [read, rest, stream, List.map_append, List.append_assoc]
    rfl
  have answered : next.answered = exchange.answered := answered_congr written
  exact {
    tidy := sent ▸ tidy
    -- Only a well-formed answer is counted, and only that takes the head of the line away.
    inLine := by
      rw [closed, inOrder, line, read]
      intro opened
      rw [sound.inLine opened]
      unfold taken
      rw [List.countP_append, List.countP_singleton]
      split
      · rw [← List.map_tail, List.tail_drop]
      · rfl
    isOpen := by
      rw [reader, closed]
      exact sound.isOpen
    once := answered ▸ sound.once
    asked := by
      rw [answered, sent]
      exact sound.asked
    inTurn := by
      rw [answered, line]
      exact sound.inTurn
    honest := written ▸ sound.honest
    delivered := by
      rw [line, read]
      intro place receipt here
      rcases Nat.lt_or_ge place exchange.read.length with earlier | last
      · rw [List.getElem?_append_left earlier] at here
        rw [List.take_append_of_le_length (Nat.le_of_lt earlier)]
        exact sound.delivered place receipt here
      · have own : place = exchange.read.length := by
          have bound := (List.getElem?_eq_some_iff.mp here).1
          rw [List.length_append, List.length_singleton] at bound
          omega
        subst own
        rw [List.getElem?_concat_length] at here
        rw [List.take_left, ← Option.some.inj here]
        exact delivered
    earned := by
      intro ticket response has
      rw [read]
      have before : exchange.HasGot ticket response ∨
          ticket ∈ recipients ∧ parcel.frame = .response response := by
        rcases has with arrived | logged
        · exact (got ticket response arrived).imp_left .inl
        · exact .inl (.inr (outcomes ▸ logged))
      rcases before with old | ⟨inNew, frame⟩
      · obtain ⟨receipt, member, reaches⟩ := sound.earned ticket response old
        exact ⟨receipt, List.mem_append_left _ member, reaches⟩
      · exact ⟨_, List.mem_concat_self, inNew, frame⟩ }

/-- Whoever gets a response that is next on the stream. -/
theorem claimant_of_recipient (sound : Sound exchange)
    (opened : exchange.link.correlator.closed = none) {parcel : Parcel} {pending : Pending}
    (owner : parcel.owner = some pending) (inSent : pending ∈ exchange.sent.map Letter.pending)
    {response : Response} (own : response.actionId = pending.actionId) {ticket : Nat}
    (gets : exchange.link.correlator.recipient? response = some ticket) :
    ∃ caller, claimant? exchange.line exchange.read parcel = some caller ∧
      caller.ticket = ticket := by
  unfold recipient? at gets
  unfold claimant?
  simp only [owner]
  rw [own] at gets
  cases tag : pending.actionId with
  | none =>
    rw [tag] at gets
    change exchange.link.correlator.inOrder.head? = some ticket at gets
    rw [sound.inLine opened, List.head?_map, List.head?_drop] at gets
    exact Option.map_eq_some_iff.mp gets
  | some id =>
    rw [tag] at gets
    obtain ⟨letter, member, rfl⟩ := List.mem_map.mp inSent
    exact ⟨letter.pending, rfl, (sound.tidy.ticket_of_found member tag gets).symm⟩

theorem overheard (sound : Sound exchange) {parcel : Parcel} {later : List Parcel}
    (stream : exchange.stream = parcel :: later) (silent : parcel.isResponse = false)
    (same : (exchange.link.hear parcel.frame).correlator = exchange.link.correlator) :
    Sound (exchange.hear parcel later) := by
  have nobody : reached exchange.link.correlator (exchange.link.hear parcel.frame).correlator = [] :=
    by rw [same, reached_self]
  refine sound.heard stream rfl rfl rfl rfl (same ▸ sound.tidy) (congrArg _ same) ?_
    (Link.hear_reader _ _) (.inl nobody) fun ticket response arrived => .inl ?_
  · rw [silent, Bool.and_false, if_neg Bool.false_ne_true]
    exact congrArg _ same
  · rw [← same]
    exact arrived

theorem heard_response (sound : Sound exchange) (opened : exchange.link.correlator.closed = none)
    {parcel : Parcel} {later : List Parcel} (stream : exchange.stream = parcel :: later)
    {response : Response} (frame : parcel.frame = .response response) {pending : Pending}
    (owner : parcel.owner = some pending) (inSent : pending ∈ exchange.sent.map Letter.pending)
    (own : response.actionId = pending.actionId) : Sound (exchange.hear parcel later) := by
  have isResponse : parcel.isResponse = true := by
    unfold Parcel.isResponse
    rw [frame]
  have turn : parcel.takesTurn = pending.actionId.isNone := by
    unfold Parcel.takesTurn
    rw [owner]
    rfl
  have after : (exchange.link.hear parcel.frame).correlator =
      exchange.link.correlator.resolve response := by
    rw [frame]
    rfl
  refine sound.heard stream rfl rfl rfl rfl ?tidy ?closed ?inOrder (Link.hear_reader _ _)
    ?delivered ?got
  case tidy =>
    show Tidy (exchange.link.hear parcel.frame).correlator _
    rw [after]
    exact sound.tidy.resolve response
  case closed =>
    show (exchange.link.hear parcel.frame).correlator.closed = _
    rw [after, resolve_closed]
  case inOrder =>
    show (exchange.link.hear parcel.frame).correlator.inOrder = _
    rw [after, inOrder_resolve, own, turn, isResponse, Bool.and_true]
    cases pending.actionId <;> rfl
  case delivered =>
    rw [after]
    cases gets : exchange.link.correlator.recipient? response with
    | none =>
      refine .inl (List.eq_nil_iff_forall_not_mem.mpr fun ticket member => ?_)
      rw [mem_reached_resolve, gets] at member
      cases member.1
    | some ticket =>
      obtain ⟨caller, claims, rfl⟩ := sound.claimant_of_recipient opened owner inSent own gets
      have only : ∀ other ∈ reached exchange.link.correlator
          (exchange.link.correlator.resolve response), other = caller.ticket := by
        intro other member
        rw [mem_reached_resolve, gets] at member
        exact (Option.some.inj member.1).symm
      exact (reached_eq only).imp_right fun one => ⟨isResponse, caller, claims, one⟩
  case got =>
    intro ticket answer arrived
    change (exchange.link.hear parcel.frame).correlator.mailbox ticket = _ at arrived
    rw [after] at arrived ⊢
    rw [mailbox_resolve] at arrived
    split at arrived
    · next reached =>
      refine .inr ⟨mem_reached_resolve.mpr reached, ?_⟩
      rw [frame, Mailbox.answered.inj arrived]
    · exact .inl arrived

theorem next_written {parcel : Parcel} {later : List Parcel}
    (stream : exchange.stream = parcel :: later) : parcel ∈ exchange.written := by
  unfold Exchange.written
  rw [stream]
  exact List.mem_append_right _ List.mem_cons_self

/-- The owner of what is next on the stream is the caller of a letter. -/
theorem owner_of_next (sound : Sound exchange) {parcel : Parcel} {later : List Parcel}
    (stream : exchange.stream = parcel :: later) {pending : Pending}
    (owner : parcel.owner = some pending) : pending ∈ exchange.sent.map Letter.pending :=
  sound.asked pending (List.mem_filterMap.mpr ⟨parcel, next_written stream, owner⟩)

/-- The response that is next on the stream carries the identifier of its owner. -/
theorem actionId_of_next (sound : Sound exchange) {parcel : Parcel} {later : List Parcel}
    (stream : exchange.stream = parcel :: later) {pending : Pending}
    (owner : parcel.owner = some pending) {response : Response}
    (frame : parcel.frame = .response response) : response.actionId = pending.actionId := by
  have answers : Answers pending (.response response) := by
    have honest := sound.honest parcel (next_written stream)
    unfold Honest at honest
    simp only [owner] at honest
    rwa [frame] at honest
  obtain ⟨letter, member, rfl⟩ := List.mem_map.mp (sound.owner_of_next stream owner)
  exact answers.actionId (sound.tidy.plain letter member)

/-- A response that is next on the stream has an owner. -/
theorem owned_of_next (sound : Sound exchange) {parcel : Parcel} {later : List Parcel}
    (stream : exchange.stream = parcel :: later) {response : Response}
    (frame : parcel.frame = .response response) : ∃ pending, parcel.owner = some pending := by
  have honest := sound.honest parcel (next_written stream)
  cases owner : parcel.owner with
  | some pending => exact ⟨pending, rfl⟩
  | none =>
    unfold Honest at honest
    simp only [owner] at honest
    unfold Parcel.isResponse at honest
    rw [frame] at honest
    cases honest

theorem hear (sound : Sound exchange) (reading : exchange.link.reader = .reading)
    {parcel : Parcel} {later : List Parcel} (stream : exchange.stream = parcel :: later) :
    Sound (exchange.hear parcel later) := by
  cases frame : parcel.frame with
  | response response =>
    obtain ⟨pending, owner⟩ := sound.owned_of_next stream frame
    exact sound.heard_response (sound.isOpen reading) stream frame owner
      (sound.owner_of_next stream owner) (sound.actionId_of_next stream owner frame)
  | banner version =>
    exact sound.overheard stream (by rw [Parcel.isResponse, frame]) (by rw [frame]; rfl)
  | event event =>
    exact sound.overheard stream (by rw [Parcel.isResponse, frame]) (by rw [frame]; rfl)
  | malformed fault =>
    exact sound.overheard stream (by rw [Parcel.isResponse, frame]) (by rw [frame]; rfl)

/-- Every lawful move keeps the exchange sound. -/
theorem step (sound : Sound exchange) {move : Move} (permits : exchange.Permits move) :
    Sound (exchange.step move) := by
  cases move with
  | send action fault => exact sound.send permits
  | giveUp place =>
    cases found : exchange.sent[place]? with
    | none =>
      simp only [Exchange.step, found]
      exact sound
    | some letter =>
      simp only [Exchange.step, found]
      exact sound.giveUp letter.pending
  | collect place limitMs =>
    cases found : exchange.sent[place]? with
    | none =>
      simp only [Exchange.step, found]
      exact sound
    | some letter =>
      simp only [Exchange.step, found]
      exact sound.collect letter.pending limitMs
  | emit parcel => exact sound.emit permits
  | hear =>
    simp only [Exchange.step]
    split
    · next reading stream => exact sound.hear reading stream
    · exact sound
  | serve move =>
    exact sound.quiet rfl rfl rfl sound.tidy (fun opened => ⟨opened, rfl⟩) sound.isOpen
      fun _ _ has => has
  | release reason => exact sound.closed rfl rfl rfl rfl rfl Reader.noConfusion
  | stop reason =>
    exact sound.quiet rfl rfl rfl sound.tidy (fun opened => ⟨opened, rfl⟩) Reader.noConfusion
      fun _ _ has => has
  | retire => exact sound.closed rfl rfl rfl rfl rfl (retire_reader_ne exchange.link)

end Sound

theorem Sound.run {exchange : Exchange} (sound : Sound exchange) {moves : List Move}
    (lawful : exchange.Lawful moves) : Sound (exchange.run moves) := by
  induction moves generalizing exchange with
  | nil => exact sound
  | cons move rest ih => exact ih (sound.step lawful.1) lawful.2

/-- An exchange that is lawful from the start is sound. -/
theorem sound_run {queueSize dropped : Nat} {moves : List Move}
    (lawful : (start queueSize dropped).Lawful moves) :
    Sound ((start queueSize dropped).run moves) :=
  (sound_start queueSize dropped).run lawful

end Exchange

end Switchboard
