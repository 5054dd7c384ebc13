/-
**A request to place a call writes nothing or one block.**

What a caller asks for passes through trimming, through the channel's template and into the fields
of an action. Whatever the texts are, the action has the same seven lines, it is written whole or
not at all, unless the write fails midway, and what stands in a text never starts a line of its own.

* `buildAction_cases`: the action of a request, line by line, or what is wrong with the request;
* `Wrote`: what gets out of a block that is written;
* `send_streams`, `request_streams`: a send adds the block of its action to one stream, or nothing;
* `request_ok_iff`: a response that has come is what the caller gets;
* `originate_one_block`: what a request comes to, on the stream and for its caller.
-/

import Switchboard.Proofs.Action.Framing
import Switchboard.Proofs.Connection.Attempt
import Switchboard.Proofs.Text.Blank

namespace Switchboard

open Text

/-! ### The action of a request -/

/-- What a field holds: the text that is asked for, without the blanks around it, unless there is
none or nothing but blanks; then what the channel has. -/
def overridden (asked : Option String) (default : String) : String :=
  match asked with
  | some text => if isBlankText text then default else trim text
  | none => default

theorem pick_eq (asked : Option String) (default : String) :
    pick asked default = overridden asked default := by
  cases asked with
  | none => rfl
  | some text =>
    unfold pick overridden
    rw [Option.map_some, Option.bind_some, nonBlank?, isBlankText_trim_eq]
    dsimp only
    split <;> rfl

/-- The action that places a call to a channel. -/
def placing (channel : ChannelSettings) (request : OriginateRequest) (dialed : String) : Action :=
  { name := "Originate"
    params := ⟨[
      ("Channel", dialed),
      ("Context", overridden request.context channel.defaultContext),
      ("Exten", overridden request.extension channel.defaultExtension),
      ("Priority", toString (request.priority.getD channel.defaultPriority)),
      ("CallerID", overridden request.callerId channel.defaultCallerId),
      ("Async", "true")]⟩
    actionId := none }

/-- A parameter with a key of its own goes to the end. -/
theorem Action.param_eq {action : Action} {key : String} (notId : sameName key idKey = false)
    (fresh : ∀ other ∈ action.params.pairs.map Prod.fst, sameName other key = false)
    (value : String) :
    action.param key value =
      { action with params := ⟨action.params.pairs ++ [(key, value)]⟩ } := by
  obtain ⟨name, ⟨pairs⟩, actionId⟩ := action
  have atEnd : Headers.replace key value pairs = pairs ++ [(key, value)] := by
    induction pairs with
    | nil => rfl
    | cons pair rest ih =>
      obtain ⟨first, others⟩ := List.forall_mem_cons.mp fresh
      rw [Headers.replace, first, ih others]
      rfl
  unfold param
  rw [notId]
  exact congrArg (fun pairs => Action.mk name ⟨pairs⟩ actionId) atEnd

/-- Parameters that have keys of their own stand in the order in which they are given. -/
theorem Action.foldl_param (action : Action) (pairs : List (String × String))
    (notId : ∀ key ∈ pairs.map Prod.fst, sameName key idKey = false)
    (fresh : ((action.params.pairs ++ pairs).map Prod.fst).Pairwise fun other key =>
      sameName other key = false) :
    pairs.foldl (fun action pair => action.param pair.1 pair.2) action =
      { action with params := ⟨action.params.pairs ++ pairs⟩ } := by
  induction pairs generalizing action with
  | nil =>
    rw [List.append_nil]
    rfl
  | cons pair rest ih =>
    obtain ⟨first, others⟩ := List.forall_mem_cons.mp notId
    have before : ∀ other ∈ action.params.pairs.map Prod.fst, sameName other pair.1 = false := by
      rw [List.map_append] at fresh
      intro other inside
      exact (List.pairwise_append.mp fresh).2.2 other inside _ List.mem_cons_self
    have step := Action.param_eq first before pair.2
    rw [List.append_cons] at fresh
    rw [List.foldl_cons, step, ih _ others fresh]
    exact congrArg (fun pairs => Action.mk action.name ⟨pairs⟩ action.actionId)
      (List.append_cons action.params.pairs pair rest).symm

/-- What comes of a request: a refusal of what is wrong with it, or the action that places it. -/
theorem buildAction_cases (channel : ChannelSettings) (request : OriginateRequest) :
    (∃ text, buildAction channel request = .error (.validation text)) ∨
    ∃ dialed,
      Template.render channel.originateTemplate (trim request.destination) = .ok dialed ∧
      buildAction channel request = .ok (placing channel request dialed) := by
  unfold buildAction
  dsimp only
  split
  · exact .inl ⟨_, rfl⟩
  split
  · exact .inl ⟨_, rfl⟩
  cases rendered : Template.render channel.originateTemplate (trim request.destination) with
  | error error =>
    unfold Template.render at rendered
    split at rendered <;> cases rendered
    exact .inl ⟨_, rfl⟩
  | ok dialed =>
    refine .inr ⟨dialed, rfl, congrArg Except.ok ?_⟩
    have notId : ∀ key ∈ ["Channel", "Context", "Exten", "Priority", "CallerID", "Async"],
        sameName key Action.idKey = false := by decide +kernel
    have fresh : ["Channel", "Context", "Exten", "Priority", "CallerID", "Async"].Pairwise
        fun other key => sameName other key = false := by decide +kernel
    simp only [pick_eq]
    exact Action.foldl_param (Action.new "Originate") (placing channel request dialed).params.pairs
      notId fresh

/-- The block of an action without a line end in its fields: no line starts within another, and the
block is one, but no part of it is. -/
theorem Action.one_block {action : Action} (safe : action.Safe) :
    (∀ pair ∈ action.lines, Block.cr ∉ Utf8.bytesOf (lineText pair) ∧
      Block.lf ∉ Utf8.bytesOf (lineText pair)) ∧
    Block.cut action.block = ([action.block], []) ∧
    ∀ size < action.block.length, (Block.cut (action.block.take size)).1 = [] := by
  refine ⟨fun pair member => ?_, ?_, fun _ short => congrArg Prod.fst (cut_take_block safe short)⟩
  · have inside := not_mem_of_safe (lines_safe safe pair member)
    exact ⟨mt cr_mem_encode.mp inside.1, mt lf_mem_encode.mp inside.2⟩
  · have whole := cut_block safe []
    rw [List.append_nil, Block.cut_nil] at whole
    exact whole

/-! ### What is written -/

/-- Whether an error says that a request was not even tried. -/
def BridgeError.isRefusal : BridgeError → Bool
  | validation _ | notReady _ => true
  | _ => false

namespace Link

variable {link : Link} {action : Action} {fault : Option WriteFault}

/-- What is not refused has no line end in its fields. -/
theorem safe_of_send (taken : ∀ text, (link.send action fault).1 ≠ .error (.validation text)) :
    action.Safe := by
  refine Action.framingFault?_eq_none.mp ?_
  cases blamed : action.framingFault? with
  | none => rfl
  | some field =>
    unfold send at taken
    rw [blamed] at taken
    exact absurd rfl (taken _)

end Link

/-- What gets out of a block that is written: all of it; or, where the write fails, what the stream
has taken before, with an error that tells of the fault. -/
structure Wrote {α : Type} (fault : Option WriteFault) (block part : List UInt8)
    (result : Except BridgeError α) : Prop where
  whole : fault = none → part = block
  torn : ∀ given, fault = some given →
    part = block.take given.sent ∧ result = .error (.stream given.text)

theorem wrote_whole {α : Type} (block : List UInt8) (result : Except BridgeError α) :
    Wrote none block block result :=
  ⟨fun _ => rfl, nofun⟩

theorem wrote_torn {α : Type} (given : WriteFault) (block : List UInt8) :
    Wrote (some given) block (block.take given.sent)
      (.error (.stream given.text) : Except BridgeError α) :=
  ⟨nofun, fun _ same => by cases same; exact ⟨rfl, rfl⟩⟩

/-- Where there is a response, all of the block has got out. -/
theorem Wrote.eq_of_ok {α : Type} {fault : Option WriteFault} {block part : List UInt8}
    {result : Except BridgeError α} {value : α} (wrote : Wrote fault block part result)
    (taken : result = .ok value) : part = block := by
  cases fault with
  | none => exact wrote.whole rfl
  | some given =>
    rw [taken] at wrote
    cases (wrote.torn given rfl).2

namespace Connection

/-- What has been written to each stream of a connection, to the latest one first. -/
def streams (connection : Connection) : List (List UInt8) :=
  (connection.link.toList ++ connection.past).map Link.written

variable {connection : Connection} {link : Link}

theorem streams_of_link (there : connection.link = some link) :
    connection.streams = link.written :: connection.past.map Link.written := by
  unfold streams
  rw [there]
  rfl

theorem happen_streams (connection : Connection) (happening : Happening) :
    (connection.happen happening).streams = connection.streams := by
  cases there : connection.link with
  | none =>
    unfold streams
    rw [happen_link_of_none there, happen_past, there]
  | some link =>
    rw [streams_of_link (happen_link there happening), Link.happen_written, happen_past,
      streams_of_link there]

/-- Nothing is written beside the callers. -/
theorem happenAll_streams (connection : Connection) (happenings : List Happening) :
    (connection.happenAll happenings).streams = connection.streams := by
  induction happenings generalizing connection with
  | nil => rfl
  | cons happening rest ih =>
    exact (ih (connection.happen happening)).trans (happen_streams connection happening)

theorem happenAll_link (there : connection.link = some link) (happenings : List Happening) :
    ∃ later, (connection.happenAll happenings).link = some later := by
  induction happenings generalizing connection link with
  | nil => exact ⟨link, there⟩
  | cons happening rest ih => exact ih (happen_link there happening)

/-- Nothing is written for a wait. -/
theorem await_streams (there : connection.link = some link) (pending : Pending) (limitMs : Nat) :
    (connection.await pending limitMs).2.streams = connection.streams := by
  unfold await
  rw [there, streams_of_link there]
  rfl

/-- **A send adds the block of its action to the present stream, or what a failing write leaves of
it, or nothing.** -/
theorem send_streams (connection : Connection) (action : Action) (fault : Option WriteFault) :
    (∃ pending sent link later, connection.send action fault = (.ok pending, sent) ∧
      fault = none ∧ action.Safe ∧ connection.link = some link ∧ sent.link = some later ∧
      sent.streams = (link.written ++ action.block) :: connection.past.map Link.written) ∨
    (∃ given torn link, connection.send action fault = (.error (.stream given.text), torn) ∧
      fault = some given ∧ action.Safe ∧ connection.link = some link ∧
      torn.streams =
        (link.written ++ action.block.take given.sent) :: connection.past.map Link.written) ∨
    ∃ error unsent, connection.send action fault = (.error error, unsent) ∧
      unsent.streams = connection.streams := by
  unfold send
  split
  · cases there : connection.link with
    | none => exact .inr (.inr ⟨_, connection, rfl, rfl⟩)
    | some link =>
      dsimp only [sendOn]
      rcases link.send_cases action fault with
        ⟨-, whole, sent⟩ | ⟨error, correlator, part, failed, -, nothing | ⟨given, torn, cut, told⟩⟩
      · have safe : action.Safe := Link.safe_of_send fun text refused => by
          rw [sent] at refused
          cases refused
        rw [sent]
        exact .inl ⟨_, _, link, _, rfl, whole, safe, rfl, rfl, rfl⟩
      · rw [failed, nothing, List.append_nil]
        exact .inr (.inr ⟨_, _, rfl, (streams_of_link there).symm⟩)
      · subst told cut
        have safe : action.Safe := Link.safe_of_send fun text refused => by
          rw [failed] at refused
          cases refused
        rw [failed]
        exact .inr (.inl ⟨given, _, link, rfl, torn, safe, rfl, rfl⟩)
  · exact .inr (.inr ⟨_, connection, rfl, rfl⟩)

/-- A send for which nothing is amiss is taken. -/
theorem send_ok {action : Action} (ready : connection.status = .ready)
    (there : connection.link = some link) (isOpen : link.correlator.closed = none)
    (safe : action.Safe) : ∃ pending, (connection.send action none).1 = .ok pending := by
  have isReady : connection.isReady = true := beq_iff_eq.mpr ready
  unfold send sendOn Link.send
  rw [isReady, if_pos rfl, there, Action.framingFault?_eq_none.mpr safe]
  dsimp only
  rw [Correlator.register_open isOpen]
  exact ⟨_, rfl⟩

/-! ### What comes back -/

/-- The response that a connection has for a caller. -/
def responseFor? (connection : Connection) (pending : Pending) : Option Response :=
  connection.link.bind fun link => (link.correlator.mailbox pending.ticket).response?

/-- The response that has come to an action when other things have happened. -/
def responseTo? (connection : Connection) (action : Action) (fault : Option WriteFault)
    (meanwhile : List Happening) : Option Response :=
  match connection.send action fault with
  | (.ok pending, sent) => (sent.happenAll meanwhile).responseFor? pending
  | (.error _, _) => none

/-- A caller that has waited gets the response that has come. -/
theorem await_ok_iff (there : connection.link = some link) {pending : Pending} {limitMs : Nat}
    {response : Response} :
    (connection.await pending limitMs).1 = .ok response ↔
      connection.responseFor? pending = some response := by
  unfold responseFor? await
  rw [there]
  dsimp only [Option.bind_some, Link.collect, Correlator.collect, Correlator.arrived?]
  cases link.correlator.mailbox pending.ticket with
  | answered other =>
    exact ⟨fun same => congrArg some (Except.ok.inj same),
      fun same => congrArg Except.ok (Option.some.inj same)⟩
  | _ => exact iff_of_false nofun nofun

/-- Where no response has come the caller learns why, but not that the request was refused. -/
theorem isRefusal_of_await (there : connection.link = some link) {pending : Pending}
    {limitMs : Nat} {error : BridgeError}
    (failed : (connection.await pending limitMs).1 = .error error) : error.isRefusal = false := by
  unfold await at failed
  rw [there] at failed
  dsimp only [Link.collect, Correlator.collect, Correlator.arrived?] at failed
  cases box : link.correlator.mailbox pending.ticket <;> rw [box] at failed <;> cases failed <;> rfl

/-- A request that is answered comes to its response, and no other does. -/
theorem request_ok_iff {action : Action} {fault : Option WriteFault} {meanwhile : List Happening}
    {limitMs : Option Nat} {response : Response} :
    (connection.request action fault meanwhile limitMs).1 = .ok response ↔
      connection.responseTo? action fault meanwhile = some response := by
  unfold request responseTo?
  rcases connection.send_streams action fault with
    ⟨pending, sent, -, later, result, -, -, -, thereafter, -⟩ |
    ⟨given, torn, -, result, -⟩ | ⟨error, unsent, result, -⟩
  · rw [result]
    obtain ⟨last, thereAtLast⟩ := happenAll_link thereafter meanwhile
    exact await_ok_iff thereAtLast
  · rw [result]
    exact iff_of_false nofun nofun
  · rw [result]
    exact iff_of_false nofun nofun

/-- **A request adds the block of its action to the present stream, or what a failing write leaves of
it, or nothing.** Where it has come to writing it is not refused; where it has not, the send has
failed, and so does the request. -/
theorem request_streams (connection : Connection) (action : Action) (fault : Option WriteFault)
    (meanwhile : List Happening) (limitMs : Option Nat) :
    (∃ link part, connection.link = some link ∧ action.Safe ∧
      (connection.request action fault meanwhile limitMs).2.streams =
        (link.written ++ part) :: connection.past.map Link.written ∧
      Wrote fault action.block part (connection.request action fault meanwhile limitMs).1 ∧
      ∀ error, (connection.request action fault meanwhile limitMs).1 = .error error →
        error.isRefusal = false) ∨
    (connection.request action fault meanwhile limitMs).2.streams = connection.streams ∧
      ∃ error, (connection.send action fault).1 = .error error ∧
        (connection.request action fault meanwhile limitMs).1 = .error error := by
  unfold request
  rcases connection.send_streams action fault with
    ⟨pending, sent, link, later, result, whole, safe, there, thereafter, written⟩ |
    ⟨given, torn, link, result, failing, safe, there, written⟩ | ⟨error, unsent, result, unwritten⟩
  · rw [result, whole]
    obtain ⟨last, thereAtLast⟩ := happenAll_link thereafter meanwhile
    refine .inl ⟨link, _, there, safe, ?_, wrote_whole _ _, fun error =>
      isRefusal_of_await thereAtLast⟩
    rw [← written, ← happenAll_streams sent meanwhile]
    exact await_streams thereAtLast pending _
  · rw [result, failing]
    refine .inl ⟨link, _, there, safe, written, wrote_torn given _, ?_⟩
    rintro _ ⟨⟩
    rfl
  · rw [result]
    exact .inr ⟨unwritten, error, rfl, rfl⟩

/-! ### A request to place a call -/

/-- A block is never empty, so what has been written tells whether one was. -/
theorem streams_ne (there : connection.link = some link) (action : Action) :
    (link.written ++ action.block) :: connection.past.map Link.written ≠ connection.streams := by
  rw [streams_of_link there]
  intro same
  have empty : action.block = [] := List.append_right_eq_self.mp (List.cons.inj same).1
  rw [Action.block_eq] at empty
  exact absurd (List.append_eq_nil_iff.mp empty).2 (List.cons_ne_nil _ _)

section Originate

variable {channel : ChannelSettings} {request : OriginateRequest} {action : Action}
  {fault : Option WriteFault} {meanwhile : List Happening}

theorem originate_of_error {refusal : BridgeError}
    (refused : buildAction channel request = .error refusal) :
    connection.originate channel request fault meanwhile = (.error refusal, connection) := by
  unfold originate
  rw [refused]

theorem originate_of_ok (built : buildAction channel request = .ok action) :
    connection.originate channel request fault meanwhile =
      ((connection.request action fault meanwhile none).1.map (OriginateOutcome.ofResponse action),
        (connection.request action fault meanwhile none).2) := by
  unfold originate
  rw [built]

/-- What is said to the caller is the response that has come to the action. -/
theorem originate_ok_iff (built : buildAction channel request = .ok action)
    {outcome : OriginateOutcome} :
    (connection.originate channel request fault meanwhile).1 = .ok outcome ↔
      ∃ response, connection.responseTo? action fault meanwhile = some response ∧
        OriginateOutcome.ofResponse action response = outcome := by
  have received (response : Response) :
      connection.responseTo? action fault meanwhile = some response ↔
        (connection.request action fault meanwhile none).1 = .ok response := request_ok_iff.symm
  simp only [originate_of_ok built, received]
  cases (connection.request action fault meanwhile none).1 with
  | error error => exact iff_of_false nofun nofun
  | ok response =>
    exact ⟨fun same => ⟨response, rfl, Except.ok.inj same⟩,
      fun ⟨_, same, outcome⟩ => by cases same; exact congrArg Except.ok outcome⟩

theorem request_error_of_originate (built : buildAction channel request = .ok action)
    {error : BridgeError}
    (failed : (connection.originate channel request fault meanwhile).1 = .error error) :
    (connection.request action fault meanwhile none).1 = .error error := by
  rw [originate_of_ok built] at failed
  cases received : (connection.request action fault meanwhile none).1 with
  | error _ =>
    rw [received] at failed
    cases failed
    rfl
  | ok _ =>
    rw [received] at failed
    cases failed

/-- Where a request is refused nothing is written. -/
theorem originate_refused {error : BridgeError}
    (failed : (connection.originate channel request fault meanwhile).1 = .error error)
    (refuses : error.isRefusal = true) :
    (connection.originate channel request fault meanwhile).2.streams = connection.streams := by
  rcases buildAction_cases channel request with ⟨text, refused⟩ | ⟨dialed, -, built⟩
  · rw [originate_of_error refused]
  · rcases connection.request_streams (placing channel request dialed) fault meanwhile none with
      ⟨link, part, -, -, -, -, tried⟩ | ⟨unwritten, -⟩
    · rw [tried error (request_error_of_originate built failed)] at refuses
      cases refuses
    · rw [originate_of_ok built]
      exact unwritten

/-- Where anything is written it is the block of the action, whole unless the write fails. -/
theorem originate_streams (connection : Connection) (channel : ChannelSettings)
    (request : OriginateRequest) (fault : Option WriteFault) (meanwhile : List Happening) :
    (connection.originate channel request fault meanwhile).2.streams = connection.streams ∨
    ∃ link dialed part, connection.link = some link ∧
      Template.render channel.originateTemplate (trim request.destination) = .ok dialed ∧
      (placing channel request dialed).Safe ∧
      (connection.originate channel request fault meanwhile).2.streams =
        (link.written ++ part) :: connection.past.map Link.written ∧
      Wrote fault (placing channel request dialed).block part
        (connection.originate channel request fault meanwhile).1 := by
  rcases buildAction_cases channel request with ⟨text, refused⟩ | ⟨dialed, rendered, built⟩
  · rw [originate_of_error refused]
    exact .inl rfl
  · rw [originate_of_ok built]
    rcases connection.request_streams (placing channel request dialed) fault meanwhile none with
      ⟨link, part, there, safe, written, wrote, -⟩ | ⟨unwritten, -⟩
    · refine .inr ⟨link, dialed, part, there, rendered, safe, written, wrote.whole, ?_⟩
      intro given failing
      obtain ⟨cut, told⟩ := wrote.torn given failing
      exact ⟨cut, told ▸ rfl⟩
    · exact .inl unwritten

/-- Where nothing is amiss the action is written. -/
theorem originate_written (built : buildAction channel request = .ok action) (safe : action.Safe)
    (ready : connection.status = .ready) (there : connection.link = some link)
    (isOpen : link.correlator.closed = none) :
    (connection.originate channel request none meanwhile).2.streams ≠ connection.streams := by
  rw [originate_of_ok built]
  rcases connection.request_streams action none meanwhile none with
    ⟨present, part, there, -, written, wrote, -⟩ | ⟨-, error, unsent, -⟩
  · rw [written, wrote.whole rfl]
    exact streams_ne there action
  · obtain ⟨pending, sent⟩ := send_ok ready there isOpen safe
    rw [sent] at unsent
    cases unsent

/-- Where the switch has answered the action has been written. -/
theorem originate_answered {outcome : OriginateOutcome}
    (placed : (connection.originate channel request fault meanwhile).1 = .ok outcome) :
    (connection.originate channel request fault meanwhile).2.streams ≠ connection.streams ∧
      ∃ action response, buildAction channel request = .ok action ∧
        connection.responseTo? action fault meanwhile = some response ∧
        OriginateOutcome.ofResponse action response = outcome := by
  rcases buildAction_cases channel request with ⟨text, refused⟩ | ⟨dialed, -, built⟩
  · rw [originate_of_error refused] at placed
    cases placed
  · obtain ⟨response, heard, same⟩ := (originate_ok_iff built).mp placed
    refine ⟨?_, _, response, built, heard, same⟩
    rw [originate_of_ok built]
    rcases connection.request_streams (placing channel request dialed) fault meanwhile none with
      ⟨link, part, there, -, written, wrote, -⟩ | ⟨-, error, -, failed⟩
    · rw [written, wrote.eq_of_ok (request_ok_iff.mpr heard)]
      exact streams_ne there _
    · rw [request_ok_iff.mpr heard] at failed
      cases failed

end Originate

/-- **A request to place a call writes nothing or one block.** Where the request is refused nothing
is written. Where anything is written it is the seven lines of the action, in which no text of the
request or of the channel starts a line of its own: they are one block, of which no part is one. They
are written whole, unless the write fails; then the caller learns so, and what the stream has taken
is the beginning of them. Where nothing is amiss they are written. A response that has come is the
outcome, also when it is a refusal of the switch. -/
theorem originate_one_block (connection : Connection) (channel : ChannelSettings)
    (request : OriginateRequest) (fault : Option WriteFault) (meanwhile : List Happening) :
    let result := (connection.originate channel request fault meanwhile).1
    let later := (connection.originate channel request fault meanwhile).2
    (∀ error, result = .error error → error.isRefusal = true →
      later.streams = connection.streams) ∧
    (later.streams = connection.streams ∨
      ∃ link dialed part, connection.link = some link ∧
        Template.render channel.originateTemplate (trim request.destination) = .ok dialed ∧
        let lines := [
          ("Action", "Originate"),
          ("Channel", dialed),
          ("Context", overridden request.context channel.defaultContext),
          ("Exten", overridden request.extension channel.defaultExtension),
          ("Priority", toString (request.priority.getD channel.defaultPriority)),
          ("CallerID", overridden request.callerId channel.defaultCallerId),
          ("Async", "true")]
        let block := (lines.flatMap fun pair =>
          Utf8.bytesOf (Action.lineText pair) ++ [Block.cr, Block.lf]) ++ [Block.cr, Block.lf]
        later.streams = (link.written ++ part) :: connection.past.map Link.written ∧
        Wrote fault block part result ∧
        (∀ pair ∈ lines, Block.cr ∉ Utf8.bytesOf (Action.lineText pair) ∧
          Block.lf ∉ Utf8.bytesOf (Action.lineText pair)) ∧
        Block.cut block = ([block], []) ∧
        ∀ size < block.length, (Block.cut (block.take size)).1 = []) ∧
    (∀ action link, buildAction channel request = .ok action → action.Safe →
      connection.status = .ready → connection.link = some link →
        link.correlator.closed = none → fault = none → later.streams ≠ connection.streams) ∧
    (∀ action response, buildAction channel request = .ok action →
      connection.responseTo? action fault meanwhile = some response →
        ∃ outcome, result = .ok outcome ∧ outcome.accepted = response.succeeded) ∧
    ∀ outcome, result = .ok outcome → later.streams ≠ connection.streams ∧
      ∃ action response, buildAction channel request = .ok action ∧
        connection.responseTo? action fault meanwhile = some response ∧
        outcome.accepted = response.succeeded := by
  intro result later
  refine ⟨fun _ => originate_refused, ?streams, ?written, ?received, ?placed⟩
  case streams =>
    rcases connection.originate_streams channel request fault meanwhile with
      same | ⟨link, dialed, part, there, rendered, safe, written, wrote⟩
    · exact .inl same
    · have alone := Action.one_block safe
      rw [Action.block_eq] at alone wrote
      exact .inr ⟨link, dialed, part, there, rendered, written, wrote, alone⟩
  case written =>
    intro action link built safe ready there isOpen whole
    show (connection.originate channel request fault meanwhile).2.streams ≠ _
    rw [whole]
    exact originate_written built safe ready there isOpen
  case received =>
    intro action response built heard
    exact ⟨_, (originate_ok_iff built).mpr ⟨response, heard, rfl⟩, rfl⟩
  case placed =>
    intro outcome placed
    obtain ⟨changed, action, response, built, heard, rfl⟩ := originate_answered placed
    exact ⟨changed, action, response, built, heard, rfl⟩

/-- A channel with a template for one trunk. -/
def trunk : ChannelSettings :=
  { accountId := 1
    inboxId := 7
    host := "pbx.local"
    port := 5038
    username := "bridge"
    password := "secret"
    webhookUrl := "http://localhost/calls"
    defaultCallerId := "Desk <100>"
    defaultContext := "default"
    defaultExtension := "s"
    defaultPriority := 1
    originateTemplate := "PJSIP/\x7bdest\x7d@trunk" }

/-- A connection to which nothing has happened but that it became ready. -/
def justReady : Connection :=
  { Connection.new (ConnectionSettings.new "pbx.local" 5038 "bridge" "secret") with
    status := .ready
    link := some (Link.new 8 0) }

/-- A call that the switch accepts, and one whose caller would smuggle in a line. -/
theorem originate_one_block_around_refusal :
    let request : OriginateRequest := ⟨" 5551234 ", some " ", some " sales ", none, none⟩
    let smuggler : OriginateRequest :=
      ⟨"5551234", some "x\r\nApplication: System", none, none, none⟩
    let meanwhile := [Happening.heard (.response (Response.success "queued"))]
    (∃ outcome, (justReady.originate trunk request none meanwhile).1 = .ok outcome ∧
      outcome.accepted = true) ∧
    (justReady.originate trunk request none meanwhile).2.streams =
      [Utf8.bytesOf ("Action: Originate\r\nChannel: PJSIP/5551234@trunk\r\nContext: sales\r\n" ++
        "Exten: s\r\nPriority: 1\r\nCallerID: Desk <100>\r\nAsync: true\r\n\r\n")] ∧
    (justReady.originate trunk smuggler none meanwhile).2.streams = justReady.streams := by
  intro request smuggler meanwhile
  have built : buildAction trunk request =
      .ok (placing trunk request "PJSIP/5551234@trunk") := by decide +kernel
  have answered : justReady.responseTo? (placing trunk request "PJSIP/5551234@trunk") none
      meanwhile = some (Response.success "queued") := by decide +kernel
  have refused : (justReady.originate trunk smuggler none meanwhile).1 =
      .error (.validation "line break in field 'CallerID' of action Originate") := by
    decide +kernel
  have placed := (originate_one_block justReady trunk request none meanwhile).2.2.2.1
  have unwritten := (originate_one_block justReady trunk smuggler none meanwhile).1
  exact ⟨placed _ _ built answered, by decide +kernel, unwritten _ refused rfl⟩

end Connection

end Switchboard
