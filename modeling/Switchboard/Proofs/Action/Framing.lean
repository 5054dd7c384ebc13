/-
**An action is one block, whatever is in it.**

An action is refused exactly when one of its fields holds a line end (`encode_eq_error_iff`). Each
line of any other action has a colon and no line end of its own, so that its block ends where its
own blank line stands: the output of all actions falls apart into one block for each action that
was taken (`offerAll_framed`).
-/

import Mathlib.Data.List.Basic
import Switchboard.Action
import Switchboard.Proofs.Block.Lines

namespace Switchboard.Action

open Text Block

/-! ### Refusals -/

/-- The texts of an action that go on the wire. -/
def fields (action : Action) : List String :=
  action.name :: action.actionId.toList ++ action.params.pairs.flatMap fun pair => [pair.1, pair.2]

/-- Whether no field holds a line end. -/
def Safe (action : Action) : Prop :=
  ∀ field ∈ action.fields, breaksLine field = false

variable {action : Action} {output : List UInt8}

theorem breaksLine_iff {text : String} :
    breaksLine text = true ↔ '\r' ∈ text.toList ∨ '\n' ∈ text.toList := by
  unfold breaksLine
  simp only [List.any_eq_true, Bool.or_eq_true, beq_iff_eq]
  constructor
  · rintro ⟨c, inside, rfl | rfl⟩
    · exact .inl inside
    · exact .inr inside
  · rintro (inside | inside)
    · exact ⟨'\r', inside, .inl rfl⟩
    · exact ⟨'\n', inside, .inr rfl⟩

theorem forall_mem_fields {property : String → Prop} :
    (∀ field ∈ action.fields, property field) ↔
      property action.name ∧ (∀ id, action.actionId = some id → property id) ∧
        ∀ pair ∈ action.params.pairs, property pair.1 ∧ property pair.2 := by
  unfold fields
  rw [List.forall_mem_append, List.forall_mem_cons, List.forall_mem_flatMap, and_assoc]
  simp only [Option.mem_toList, List.forall_mem_cons, List.not_mem_nil, false_implies, implies_true,
    and_true]

/-- An action has a field to blame exactly when some field holds a line end. -/
theorem framingFault?_eq_none :
    action.framingFault? = none ↔ action.Safe := by
  unfold Safe
  rw [forall_mem_fields]
  unfold framingFault?
  cases inName : breaksLine action.name with
  | true => simp
  | false =>
    rw [if_neg Bool.false_ne_true]
    cases inId : action.actionId.filter breaksLine with
    | some id =>
      obtain ⟨isId, breaks⟩ := Option.filter_eq_some_iff.mp inId
      simp only [reduceCtorEq, false_iff]
      rintro ⟨-, safe, -⟩
      rw [safe id isId] at breaks
      cases breaks
    | none =>
      have safe : ∀ id, action.actionId = some id → breaksLine id = false := by
        intro id isId
        simpa using Option.filter_eq_none_iff.mp inId id isId
      simp only [Option.map_eq_none_iff, List.find?_eq_none, true_and, Bool.or_eq_true, not_or,
        Bool.not_eq_true]
      exact ⟨fun pairs => ⟨safe, pairs⟩, And.right⟩

theorem encode_of_safe (safe : action.Safe) :
    action.encode output = .ok (output ++ Utf8.bytesOf action.wire) := by
  unfold encode
  rw [framingFault?_eq_none.mpr safe]

/-- An action is refused exactly when one of its fields holds a line end. -/
theorem encode_eq_error_iff :
    (∃ fault, action.encode output = .error fault) ↔
      ∃ field ∈ action.fields, '\r' ∈ field.toList ∨ '\n' ∈ field.toList := by
  simp only [← breaksLine_iff]
  cases blamed : action.framingFault? with
  | some field =>
    have breaks : ¬ action.Safe := by
      rw [← framingFault?_eq_none, blamed]
      nofun
    simp only [Safe, not_forall, Bool.not_eq_false] at breaks
    obtain ⟨field, member, breaks⟩ := breaks
    refine ⟨fun _ => ⟨field, member, breaks⟩, fun _ => ?_⟩
    unfold encode
    rw [blamed]
    exact ⟨_, rfl⟩
  | none =>
    have safe := framingFault?_eq_none.mp blamed
    constructor
    · rintro ⟨fault, refused⟩
      rw [encode_of_safe safe] at refused
      cases refused
    · rintro ⟨field, member, breaks⟩
      rw [safe field member] at breaks
      cases breaks

/-! ### The block of an action -/

/-- A pair as it stands on its line. -/
def lineText (pair : String × String) : String :=
  pair.1 ++ ": " ++ pair.2

/-- The bytes that an action adds to the output when it is not refused. -/
def block (action : Action) : List UInt8 :=
  Utf8.bytesOf action.wire

theorem toList_wireLine (pair : String × String) :
    (wireLine pair).toList = (lineText pair).toList ++ ['\r'] ++ ['\n'] := by
  unfold wireLine lineText lineEnd
  simp

theorem toList_wire (action : Action) :
    action.wire.toList =
      Block.written (action.lines.map fun pair => (lineText pair).toList ++ ['\r']) .crLf := by
  unfold wire Block.written
  rw [String.toList_append, String.toList_join, List.flatMap_map, List.flatMap_map]
  simp only [toList_wireLine]
  rfl

theorem colon_mem_lineText (pair : String × String) : ':' ∈ (lineText pair).toList := by
  simp [lineText]

theorem isBlankText_lineText (pair : String × String) : isBlankText (lineText pair) = false := by
  by_contra blank
  rw [Bool.not_eq_false, isBlankText, List.all_eq_true] at blank
  exact absurd (blank ':' (colon_mem_lineText pair)) (by decide)

theorem length_lines (action : Action) :
    action.lines.length =
      1 + (if action.actionId.isSome then 1 else 0) + action.params.size := by
  unfold lines Headers.size
  cases action.actionId <;> simp <;> omega

theorem breaksLine_lineText (pair : String × String) :
    breaksLine (lineText pair) = (breaksLine pair.1 || breaksLine pair.2) := by
  have between : (": ".toList.any fun c => c == '\r' || c == '\n') = false := by decide
  unfold breaksLine lineText
  rw [String.toList_append, String.toList_append, List.any_append, List.any_append, between,
    Bool.or_false]

theorem lines_safe (safe : action.Safe) :
    ∀ pair ∈ action.lines, breaksLine (lineText pair) = false := by
  obtain ⟨name, id, pairs⟩ := forall_mem_fields.mp safe
  have nameKey : breaksLine "Action" = false := by decide
  have idKeySafe : breaksLine idKey = false := by decide
  unfold lines
  rw [List.forall_mem_append, List.forall_mem_cons, List.forall_mem_map]
  refine ⟨⟨?_, fun text isId => ?_⟩, fun pair member => ?_⟩
  · rw [breaksLine_lineText, nameKey, name, Bool.or_false]
  · rw [breaksLine_lineText, idKeySafe, id text (Option.mem_toList.mp isId), Bool.or_false]
  · rw [breaksLine_lineText, (pairs pair member).1, (pairs pair member).2, Bool.or_false]

theorem not_mem_of_safe {text : String} (safe : breaksLine text = false) :
    '\r' ∉ text.toList ∧ '\n' ∉ text.toList := by
  rw [← not_or, ← breaksLine_iff, safe]
  exact Bool.false_ne_true

theorem lines_stand (safe : action.Safe) :
    ∀ line ∈ action.lines.map fun pair => (lineText pair).toList ++ ['\r'], Line.Stands line := by
  rw [List.forall_mem_map]
  intro pair member
  have inLine := (not_mem_of_safe (lines_safe safe pair member)).2
  refine Line.stands_of_colon ?_ (List.mem_append_left _ (colon_mem_lineText pair))
  rw [List.mem_append, not_or]
  exact ⟨inLine, by decide⟩

theorem blockEnd?_block (safe : action.Safe) (rest : List UInt8) :
    blockEnd? (action.block ++ rest) = some action.block.length := by
  have nonempty : action.lines.map (fun pair => (lineText pair).toList ++ ['\r']) ≠ [] := by
    unfold lines
    simp
  unfold block Utf8.bytesOf
  rw [toList_wire]
  exact blockEnd?_written nonempty (lines_stand safe) rest

theorem cut_block (safe : action.Safe) (rest : List UInt8) :
    cut (action.block ++ rest) = (action.block :: (cut rest).1, (cut rest).2) := by
  rw [cut_of_some (blockEnd?_block safe rest), List.take_left, List.drop_left]

/-- What is there of a block before its end is no block. -/
theorem cut_take_block (safe : action.Safe) {size : Nat} (short : size < action.block.length) :
    cut (action.block.take size) = ([], action.block.take size) := by
  refine cut_of_none ?_
  by_contra closed
  obtain ⟨found, closed⟩ := Option.ne_none_iff_exists'.mp closed
  have whole : blockEnd? (action.block.take size ++ action.block.drop size) = some found :=
    blockEnd?_append closed
  rw [List.take_append_drop, ← List.append_nil action.block, blockEnd?_block safe []] at whole
  have bound := (blockEnd?_bounds closed).2
  rw [List.length_take] at bound
  cases whole
  omega

/-! ### The output of many actions -/

/-- The output when an action is offered to it: a refusal leaves it as it was. -/
def offer (output : List UInt8) (action : Action) : List UInt8 :=
  match action.encode output with
  | .ok later => later
  | .error _ => output

/-- The output when actions are offered to it one after the other. -/
def offerAll (output : List UInt8) (actions : List Action) : List UInt8 :=
  actions.foldl offer output

/-- The actions that are not refused. -/
def taken (actions : List Action) : List Action :=
  actions.filter fun action => (action.encode []).isOk

theorem encode_isOk :
    (action.encode output).isOk = true ↔ action.Safe := by
  rw [← framingFault?_eq_none]
  unfold encode
  cases action.framingFault? with
  | none => exact ⟨fun _ => rfl, fun _ => rfl⟩
  | some field => exact ⟨nofun, nofun⟩

theorem offer_of_safe (safe : action.Safe) :
    offer output action = output ++ action.block := by
  unfold offer
  rw [encode_of_safe safe]
  rfl

theorem offer_of_error {fault : LineBreak} (refused : action.encode output = .error fault) :
    offer output action = output := by
  unfold offer
  rw [refused]

theorem offer_eq (output : List UInt8) (action : Action) :
    offer output action = output ++ (taken [action]).flatMap block := by
  have same : (action.encode output).isOk = (action.encode []).isOk :=
    Bool.eq_iff_iff.mpr (encode_isOk.trans encode_isOk.symm)
  have ok : taken [action] = bif (action.encode output).isOk then [action] else [] := by
    rw [same]
    exact List.filter_singleton
  rw [ok]
  cases result : action.encode output with
  | ok later =>
    have safe := encode_isOk.mp (congrArg Except.isOk result)
    rw [offer_of_safe safe]
    exact congrArg (output ++ ·) (List.append_nil _).symm
  | error fault =>
    rw [offer_of_error result]
    exact (List.append_nil output).symm

theorem offerAll_eq (output : List UInt8) (actions : List Action) :
    offerAll output actions = output ++ (taken actions).flatMap block := by
  induction actions generalizing output with
  | nil => exact (List.append_nil output).symm
  | cons action rest ih =>
    have step : offerAll output (action :: rest) = offerAll (offer output action) rest := rfl
    have split : taken (action :: rest) = taken [action] ++ taken rest :=
      List.filter_append [action] rest
    rw [step, ih, offer_eq, split, List.flatMap_append, List.append_assoc]

theorem safe_of_mem_taken {actions : List Action} (member : action ∈ taken actions) :
    action.Safe :=
  encode_isOk.mp (List.mem_filter.mp member).2

theorem cut_blocks {actions : List Action}
    (safe : ∀ action ∈ actions, action.Safe) :
    cut (actions.flatMap block) = (actions.map block, []) := by
  induction actions with
  | nil => exact cut_nil
  | cons action rest ih =>
    obtain ⟨first, others⟩ := List.forall_mem_cons.mp safe
    rw [List.flatMap_cons, cut_block first, ih others, List.map_cons]

/-- The bytes of a block, line by line. -/
theorem block_eq (action : Action) :
    action.block =
      (action.lines.flatMap fun pair => Utf8.bytesOf (lineText pair) ++ [cr, lf]) ++ [cr, lf] := by
  have ended : Utf8.encode ['\r'] ++ Utf8.encode ['\n'] = [cr, lf] := by decide
  have closed : Utf8.encode Ending.crLf.chars = [cr, lf] := by decide
  unfold block Utf8.bytesOf
  rw [toList_wire, Block.written, Utf8.encode_append, closed, List.flatMap_map, Utf8.encode_flatMap]
  simp only [Utf8.encode_append, List.append_assoc, ended]

/-- The identifier of an action that is written stands on a line of its own. -/
theorem idLine_infix {id : String} {wire : List UInt8} (tagged : action.actionId = some id)
    (encoded : action.encode [] = .ok wire) :
    Utf8.bytesOf (lineText (idKey, id)) ++ [cr, lf] <:+: wire := by
  have member : (idKey, id) ∈ action.lines := by
    unfold lines
    rw [tagged]
    simp
  have safe : action.Safe := encode_isOk.mp (congrArg Except.isOk encoded)
  rw [encode_of_safe safe, List.nil_append] at encoded
  cases encoded
  change _ <:+: action.block
  have line : Utf8.bytesOf (lineText (idKey, id)) ++ [cr, lf] ∈
      action.lines.map fun pair => Utf8.bytesOf (lineText pair) ++ [cr, lf] :=
    List.mem_map_of_mem member
  rw [block_eq, List.flatMap_def]
  exact (List.infix_of_mem_flatten line).trans (List.prefix_append _ _).isInfix

/-- However actions are put together, the output of all of them falls apart into one block for each
that was taken. A refusal is for a line end in a field and adds nothing. -/
theorem offerAll_framed (actions : List Action) :
    (∀ action ∈ actions, ∀ output,
      ((∃ fault, action.encode output = .error fault) ↔
        ∃ field ∈ action.fields, '\r' ∈ field.toList ∨ '\n' ∈ field.toList) ∧
      ((∃ fault, action.encode output = .error fault) → offer output action = output)) ∧
    cut (offerAll [] actions) = ((taken actions).map block, []) ∧
    ∀ action ∈ taken actions,
      action.block =
        (action.lines.flatMap fun pair => Utf8.bytesOf (lineText pair) ++ [cr, lf]) ++ [cr, lf] ∧
      action.lines.length = 1 + (if action.actionId.isSome then 1 else 0) + action.params.size ∧
      ∀ pair ∈ action.lines, isBlankText (lineText pair) = false ∧
        cr ∉ Utf8.bytesOf (lineText pair) ∧ lf ∉ Utf8.bytesOf (lineText pair) := by
  refine ⟨fun action _ output => ⟨encode_eq_error_iff, ?_⟩, ?_, ?_⟩
  · rintro ⟨fault, refused⟩
    exact offer_of_error refused
  · rw [offerAll_eq, List.nil_append]
    exact cut_blocks fun action member => safe_of_mem_taken member
  · intro action member
    refine ⟨block_eq action, length_lines action, fun pair inside => ?_⟩
    have safe := not_mem_of_safe (lines_safe (safe_of_mem_taken member) pair inside)
    exact ⟨isBlankText_lineText pair, mt cr_mem_encode.mp safe.1, mt lf_mem_encode.mp safe.2⟩

/-- An action with an identifier, one that would smuggle in another, and one with a field that is
empty. -/
theorem offerAll_framed_around_refusal :
    cut (offerAll [] [ping.withActionId "7", (new "Ping").param "Note" "x\r\n\r\nAction: Logoff",
        (new "Originate").param "" ""]) =
      ([Utf8.bytesOf "Action: Ping\r\nActionID: 7\r\n\r\n",
        Utf8.bytesOf "Action: Originate\r\n: \r\n\r\n"], []) :=
  (offerAll_framed [ping.withActionId "7", (new "Ping").param "Note" "x\r\n\r\nAction: Logoff",
    (new "Originate").param "" ""]).2.1.trans (by decide +kernel)

end Switchboard.Action
