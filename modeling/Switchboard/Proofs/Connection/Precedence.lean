/-
**What is wrong with a request, and when it is told.**

A request to place a call is looked at twice. Its destination, its priority and the channel's
template are looked at first, whatever the state of the connection. The fields of the action are
looked at for line ends when the action is about to be written, which it is on a connection that is
ready and on no other. So what is wrong is told alike everywhere, unless it is a line end
(`told_alike_iff`).
-/

import Switchboard.Proofs.Connection.Originating

namespace Switchboard

open Text

/-! ### The fields that a caller or a channel fills -/

/-- The texts of the action that places a call, but for those that are always the same. -/
def filledIn (channel : ChannelSettings) (request : OriginateRequest) (dialed : String) :
    List String :=
  [dialed, overridden request.context channel.defaultContext,
    overridden request.extension channel.defaultExtension,
    overridden request.callerId channel.defaultCallerId]

/-- No line ends in a number. -/
theorem breaksLine_toString (n : Nat) : Action.breaksLine (toString n) = false := by
  unfold Action.breaksLine
  rw [Nat.toString_eq_repr, Nat.toList_repr, List.any_eq_false]
  intro c inside
  have digit := Nat.isDigit_of_mem_toDigits (by decide) (by decide) inside
  rw [Bool.not_eq_true, Bool.or_eq_false_iff, beq_eq_false_iff_ne, beq_eq_false_iff_ne]
  constructor <;>
  · rintro rfl
    revert digit
    decide

/-- The action that places a call can be written exactly when no line ends in what is filled in. -/
theorem placing_safe_iff (channel : ChannelSettings) (request : OriginateRequest)
    (dialed : String) :
    (placing channel request dialed).Safe ↔
      ∀ text ∈ filledIn channel request dialed, Action.breaksLine text = false := by
  have constant : ∀ text ∈
      ["Originate", "Channel", "Context", "Exten", "Priority", "CallerID", "Async", "true"],
      Action.breaksLine text = false := by decide
  simp only [List.forall_mem_cons] at constant
  unfold Action.Safe
  rw [Action.forall_mem_fields]
  simp only [placing, filledIn, List.forall_mem_cons, breaksLine_toString, constant]
  simp

/-! ### What a connection that is ready tells -/

namespace Link

variable {link : Link} {action : Action} {fault : Option WriteFault} {text : String}

/-- A link finds an action wrong exactly when a line ends in one of its fields. -/
theorem send_validation_iff :
    (link.send action fault).1 = .error (.validation text) ↔
      ∃ field, action.framingFault? = some field ∧ lineBreakText action field = text := by
  unfold send
  cases blamed : action.framingFault? with
  | some field => simp
  | none =>
    refine iff_of_false ?_ nofun
    cases closed : link.correlator.closed with
    | some reason =>
      rw [Correlator.register_closed closed]
      exact nofun
    | none =>
      rw [Correlator.register_open closed]
      cases fault <;> exact nofun

end Link

namespace Connection

variable {connection : Connection} {link : Link} {action : Action} {fault : Option WriteFault}
  {meanwhile : List Happening} {text : String}

theorem send_validation_iff (ready : connection.status = .ready)
    (there : connection.link = some link) :
    (connection.send action fault).1 = .error (.validation text) ↔
      ∃ field, action.framingFault? = some field ∧ Link.lineBreakText action field = text := by
  have isReady : connection.isReady = true := beq_iff_eq.mpr ready
  unfold send
  rw [if_pos isReady, there]
  exact Link.send_validation_iff

/-- Nothing is found wrong with an action after it is sent. -/
theorem request_validation_iff {limitMs : Option Nat} :
    (connection.request action fault meanwhile limitMs).1 = .error (.validation text) ↔
      (connection.send action fault).1 = .error (.validation text) := by
  unfold request
  rcases connection.send_streams action fault with
    ⟨pending, sent, -, later, result, -, -, -, thereafter, -⟩ |
    ⟨given, torn, -, result, -⟩ | ⟨error, unsent, result, -⟩
  · rw [result]
    obtain ⟨last, thereAtLast⟩ := happenAll_link thereafter meanwhile
    refine iff_of_false (fun failed => ?_) nofun
    cases isRefusal_of_await thereAtLast failed
  · rw [result]
    exact iff_of_false nofun nofun
  · rw [result]
    dsimp only
    rw [Except.error.injEq, Except.error.injEq]

section Originate

variable {channel : ChannelSettings} {request : OriginateRequest}

/-- On a connection that is ready the request is looked at, and then the action. -/
theorem ready_validation_iff (ready : connection.status = .ready)
    (there : connection.link = some link) :
    (connection.originate channel request fault meanwhile).1 = .error (.validation text) ↔
      buildAction channel request = .error (.validation text) ∨
        ∃ action field, buildAction channel request = .ok action ∧
          action.framingFault? = some field ∧ Link.lineBreakText action field = text := by
  rcases buildAction_cases channel request with ⟨own, refused⟩ | ⟨dialed, -, built⟩
  · rw [originate_of_error refused, refused]
    simp
  · have told : (connection.originate channel request fault meanwhile).1 =
          .error (.validation text) ↔
        ∃ field, (placing channel request dialed).framingFault? = some field ∧
          Link.lineBreakText (placing channel request dialed) field = text := by
      rw [← send_validation_iff ready there, ← request_validation_iff]
      refine ⟨request_error_of_originate built, fun failed => ?_⟩
      rw [originate_of_ok built, failed]
      rfl
    rw [told, built]
    simp

/-- On a connection that is not ready no action is looked at. -/
theorem originate_of_unready (unready : connection.status ≠ .ready)
    (built : buildAction channel request = .ok action) :
    (connection.originate channel request fault meanwhile).1 =
      .error (.notReady connection.status.message) := by
  have notReady : ¬ connection.isReady = true := mt beq_iff_eq.mp unready
  rw [originate_of_ok built]
  unfold Connection.request Connection.send
  rw [if_neg notReady]
  rfl

theorem unready_validation_iff (unready : connection.status ≠ .ready) :
    (connection.originate channel request fault meanwhile).1 = .error (.validation text) ↔
      buildAction channel request = .error (.validation text) := by
  rcases buildAction_cases channel request with ⟨own, refused⟩ | ⟨dialed, -, built⟩
  · rw [originate_of_error refused, refused]
    simp
  · rw [originate_of_unready unready built, built]
    simp

end Originate

/-- **What is wrong with a request is told alike on every connection, unless it is a line end.** A
connection that is not ready tells what keeps the action from being built. Where one can be built it
tells that it is not ready. A connection that is ready also tells which field of the action has a
line end. So it tells nothing that another does not, exactly when no line ends in what the caller
and the channel fill in. -/
theorem told_alike_iff {ready other : Connection} {link : Link}
    (isReady : ready.status = .ready) (there : ready.link = some link)
    (unready : other.status ≠ .ready) (channel : ChannelSettings) (request : OriginateRequest)
    (fault fault' : Option WriteFault) (meanwhile meanwhile' : List Happening) :
    let told := (ready.originate channel request fault meanwhile).1
    let elsewhere := (other.originate channel request fault' meanwhile').1
    (∀ text, elsewhere = .error (.validation text) ↔
      buildAction channel request = .error (.validation text)) ∧
    (∀ action, buildAction channel request = .ok action →
      elsewhere = .error (.notReady other.status.message)) ∧
    (∀ text, told = .error (.validation text) ↔
      buildAction channel request = .error (.validation text) ∨
        ∃ action field, buildAction channel request = .ok action ∧
          action.framingFault? = some field ∧ Link.lineBreakText action field = text) ∧
    ((∀ text, told = .error (.validation text) → elsewhere = .error (.validation text)) ↔
      ∀ dialed, buildAction channel request = .ok (placing channel request dialed) →
        ∀ text ∈ filledIn channel request dialed, '\r' ∉ text.toList ∧ '\n' ∉ text.toList) := by
  intro told elsewhere
  have tells (text : String) : told = .error (.validation text) ↔ _ :=
    ready_validation_iff isReady there
  have toldElsewhere (text : String) : elsewhere = .error (.validation text) ↔ _ :=
    unready_validation_iff unready
  refine ⟨toldElsewhere, fun _ => originate_of_unready unready, tells, ?_⟩
  have whole (text : String) : Action.breaksLine text = false ↔
      '\r' ∉ text.toList ∧ '\n' ∉ text.toList := by
    rw [← not_or, ← Action.breaksLine_iff, Bool.not_eq_true]
  simp only [← whole, ← placing_safe_iff, ← Action.framingFault?_eq_none]
  constructor
  · intro alike dialed built
    cases blamed : (placing channel request dialed).framingFault? with
    | none => rfl
    | some field =>
      have wrong := alike _ ((tells _).mpr (.inr ⟨_, field, built, blamed, rfl⟩))
      exact absurd (built.symm.trans ((toldElsewhere _).mp wrong)) nofun
  · intro safe text wrong
    rw [toldElsewhere]
    rcases (tells text).mp wrong with refused | ⟨action, field, built, blamed, -⟩
    · exact refused
    · rcases buildAction_cases channel request with ⟨own, refused⟩ | ⟨dialed, -, placed⟩
      · exact absurd (built.symm.trans refused) nofun
      · cases built.symm.trans placed
        exact absurd ((safe dialed placed).symm.trans blamed) nofun

/-- A request without a destination. -/
def undirected : OriginateRequest := ⟨" ", some "x\r\ny", none, none, none⟩

/-- What is wrong with a destination is told first, also where a line ends in another field. -/
theorem told_alike_iff_undirected :
    let unopened := Connection.new (ConnectionSettings.new "pbx.local" 5038 "bridge" "secret")
    (unopened.originate trunk undirected none []).1 =
      .error (.validation "destination is required") ∧
    ∀ text, (justReady.originate trunk undirected none []).1 = .error (.validation text) →
      (unopened.originate trunk undirected none []).1 = .error (.validation text) := by
  intro unopened
  have unready : unopened.status ≠ .ready := by decide
  have ready : justReady.status = .ready := rfl
  obtain ⟨elsewhere, -, -, alike⟩ :=
    told_alike_iff ready rfl unready trunk undirected none none [] []
  have refused : buildAction trunk undirected = .error (.validation "destination is required") := by
    decide +kernel
  exact ⟨(elsewhere _).mpr refused, alike.mpr fun _ built => nomatch refused.symm.trans built⟩

/-- A caller that would smuggle in a line. -/
def smuggler : OriginateRequest := ⟨"5551234", some "x\r\ny", none, none, none⟩

/-- **A line end in a field is told on a connection that is ready, and on no other.** -/
theorem line_break_told_when_ready :
    (justReady.originate trunk smuggler none []).1 =
      .error (.validation "line break in field 'CallerID' of action Originate") ∧
    ∀ status ∈ [.disconnected, .connecting, .authenticating, .failed .connectionClosed],
      ({ justReady with status }.originate trunk smuggler none []).1 =
        .error (.notReady status.message) := by
  have built : buildAction trunk smuggler = .ok (placing trunk smuggler "PJSIP/5551234@trunk") := by
    decide +kernel
  refine ⟨by decide +kernel, fun status listed => originate_of_unready ?_ built⟩
  rintro rfl
  revert listed
  decide

end Connection

end Switchboard
