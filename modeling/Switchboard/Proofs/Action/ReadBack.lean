/-
**What a receiver reads of an action.**

The keys of an action are written as they are, and a line is read as far as its first colon, without
the blanks around. So a key is read as it is written exactly when it has no colon and is not blank
(`KeyStands`), and what a receiver takes for a key (`heardKey`) may be the key of the identifier
although no identifier was given. `read_back_iff` tells for which actions neither happens.
-/

import Switchboard.Proofs.Action.Building
import Switchboard.Proofs.Block.Grammar

namespace Switchboard.Action

open Text Block

/-! ### Keys -/

/-- Whether a key has no colon and is not blank. -/
def KeyStands (key : String) : Prop := ':' ∉ key.toList ∧ isBlankText key = false

/-- What a receiver takes for a key: what stands before the first colon, without the blanks
around. -/
def heardKey (key : String) : String :=
  String.ofList (trimChars (key.toList.takeWhile (· != ':')))

theorem isBlankText_eq_false_iff {text : String} :
    isBlankText text = false ↔ Line.Filled text.toList := by
  unfold isBlankText Line.Filled
  rw [List.all_eq_false]
  simp only [Bool.not_eq_true]

theorem heardKey_of_stands {key : String} (stands : KeyStands key) : heardKey key = trim key := by
  unfold heardKey trim
  rw [List.takeWhile_eq_self_iff.mpr (Line.ne_colon stands.1)]

theorem colon_not_mem_heardKey (key : String) : ':' ∉ (heardKey key).toList := by
  unfold heardKey
  rw [String.toList_ofList]
  intro inside
  exact absurd (List.mem_takeWhile_imp (mem_of_mem_trimChars inside)) (by decide)

/-- Trimming takes no colon. -/
theorem colon_mem_trim {text : String} (inside : ':' ∈ text.toList) : ':' ∈ (trim text).toList := by
  obtain ⟨before, after, blankBefore, blankAfter, split⟩ := exists_blanks text.toList
  have solid : isBlank ':' ≠ true := by decide
  unfold trim
  rw [String.toList_ofList]
  rw [split, List.mem_append, List.mem_append] at inside
  rcases inside with (front | middle) | behind
  · exact absurd (blankBefore _ front) solid
  · exact middle
  · exact absurd (blankAfter _ behind) solid

/-! ### The line of a pair -/

/-- The line of a pair up to its line feed. -/
def rawLine (pair : String × String) : List Char := (lineText pair).toList ++ ['\r']

variable {pair : String × String}

theorem rawLine_eq (pair : String × String) :
    rawLine pair = pair.1.toList ++ ':' :: (' ' :: pair.2.toList ++ ['\r']) := by
  simp [rawLine, lineText]

/-- The key on a line ends where its first colon stands, be it the one behind the key or one in
it. -/
theorem takeWhile_rawLine (pair : String × String) :
    (rawLine pair).takeWhile (· != ':') = pair.1.toList.takeWhile (· != ':') := by
  rw [rawLine_eq]
  by_cases colon : ':' ∈ pair.1.toList
  · obtain ⟨front, behind, split, colonFree⟩ := List.eq_append_cons_of_mem colon
    rw [split, List.append_assoc, List.cons_append, (Line.at_colon colonFree _).1,
      (Line.at_colon colonFree _).1]
  · rw [(Line.at_colon colon _).1, List.takeWhile_eq_self_iff.mpr (Line.ne_colon colon)]

theorem key_rawLine (pair : String × String) : Line.key (rawLine pair) = heardKey pair.1 := by
  unfold Line.key heardKey
  rw [takeWhile_rawLine]

theorem value_rawLine (colonFree : ':' ∉ pair.1.toList) :
    Line.value (rawLine pair) = trim pair.2 := by
  have before : ∀ c ∈ [' '], isBlank c = true := List.forall_mem_singleton.mpr rfl
  have behind : ∀ c ∈ ['\r'], isBlank c = true := List.forall_mem_singleton.mpr rfl
  unfold Line.value trim
  rw [rawLine_eq, (Line.at_colon colonFree _).2, List.tail_cons, trimChars_append behind]
  exact congrArg String.ofList (append_trimChars before)

theorem keyed_rawLine :
    Line.Keyed (rawLine pair) ↔ Line.Filled (pair.1.toList.takeWhile (· != ':')) := by
  unfold Line.Keyed
  rw [takeWhile_rawLine]
  exact and_iff_right (List.mem_append_left _ (colon_mem_lineText pair))

/-- **A pair is read as it is written, up to blanks, exactly when its key stands.** -/
theorem heard_iff :
    Line.Keyed (rawLine pair) ∧
        (Line.key (rawLine pair), Line.value (rawLine pair)) = (trim pair.1, trim pair.2) ↔
      KeyStands pair.1 := by
  rw [keyed_rawLine, key_rawLine, Prod.mk.injEq]
  constructor
  · rintro ⟨⟨c, inside, solid⟩, key, -⟩
    refine ⟨fun colon => ?_, isBlankText_eq_false_iff.mpr ⟨c, ?_, solid⟩⟩
    · exact colon_not_mem_heardKey pair.1 (key ▸ colon_mem_trim colon)
    · exact (List.takeWhile_prefix _).subset inside
  · intro stands
    refine ⟨?_, heardKey_of_stands stands, value_rawLine stands.1⟩
    rw [List.takeWhile_eq_self_iff.mpr (Line.ne_colon stands.1)]
    exact isBlankText_eq_false_iff.mp stands.2

/-- A line is under the key of the identifier when that is what the receiver takes for its key. -/
theorem under_idKey_iff :
    Line.Under idKey (rawLine pair) ↔ sameName (heardKey pair.1) idKey = true := by
  unfold Line.Under
  rw [key_rawLine, keyed_rawLine]
  refine and_iff_right_of_imp fun isId => ?_
  by_contra blank
  have nothing := Line.trimChars_eq_nil_iff.mpr (Line.not_filled_iff.mp blank)
  have differs : sameName (String.ofList []) idKey = false := by cbv
  unfold heardKey at isId
  rw [nothing, differs] at isId
  cases isId

/-! ### The block of an action -/

variable {action : Action}

/-- What the decoder finds in the block of an action, line by line. -/
theorem ofChars_wire (safe : action.Safe) :
    Block.ofChars action.wire.toList =
      ofLines ((action.lines.map rawLine).map Line.ofChars) := by
  rw [toList_wire]
  exact ofChars_written (lines_stand safe)

theorem forall_mem_lines {property : String × String → Prop} :
    (∀ pair ∈ action.lines, property pair) ↔
      property ("Action", action.name) ∧
        (∀ id, action.actionId = some id → property (idKey, id)) ∧
        ∀ pair ∈ action.params.pairs, property pair := by
  unfold lines
  rw [List.forall_mem_append, List.forall_mem_cons, List.forall_mem_map, and_assoc]
  simp only [Option.mem_toList]

/-- The lines of an action are read as they are written exactly when the keys of its parameters
stand. -/
theorem pairs_read_iff (safe : action.Safe) :
    (Block.ofChars action.wire.toList).headers.pairs =
        action.lines.map (fun pair => (trim pair.1, trim pair.2)) ↔
      ∀ pair ∈ action.params.pairs, KeyStands pair.1 := by
  have all : (∀ pair ∈ action.lines, KeyStands pair.1) ↔
      ∀ pair ∈ action.params.pairs, KeyStands pair.1 := by
    have action : KeyStands "Action" := by unfold KeyStands; decide
    have id : KeyStands idKey := by unfold KeyStands; decide
    rw [forall_mem_lines]
    exact ⟨fun stand => stand.2.2, fun stand => ⟨action, fun _ _ => id, stand⟩⟩
  rw [← all, ofChars_wire safe, pairs_ofLines]
  simp only [← heard_iff]
  constructor
  · intro same
    -- As many headers are read as lines are written, so each line is one.
    have count := congrArg List.length same
    rw [List.length_map, List.length_map, ← @List.length_map _ _ action.lines rawLine] at count
    have keyed := List.length_filter_eq_length_iff.mp count
    rw [List.filter_eq_self.mpr keyed, List.map_map, List.map_inj_left] at same
    intro pair member
    exact ⟨by simpa using keyed _ (List.mem_map_of_mem member), same pair member⟩
  · intro heard
    rw [List.filter_eq_self.mpr, List.map_map]
    · exact List.map_congr_left fun pair member => (heard pair member).2
    · intro line member
      obtain ⟨pair, inside, rfl⟩ := List.mem_map.mp member
      simpa using (heard pair inside).1

/-- A receiver finds no identifier exactly when the action has none and no key is taken for its. -/
theorem contains_idKey_eq_false_iff (safe : action.Safe) :
    (Block.ofChars action.wire.toList).headers.contains idKey = false ↔
      action.actionId = none ∧
        ∀ pair ∈ action.params.pairs, sameName (heardKey pair.1) idKey = false := by
  have key : sameName (heardKey "Action") idKey = false := by cbv
  have id : sameName (heardKey idKey) idKey = true := by cbv
  unfold Headers.contains
  rw [Option.isSome_eq_false_iff, Option.isNone_iff_eq_none, ofChars_wire safe, get_ofLines,
    firstValue_eq_none_iff, List.forall_mem_map]
  simp only [under_idKey_iff, Bool.not_eq_true]
  rw [forall_mem_lines]
  simp only [key, id, true_and, Bool.true_eq_false, imp_false, Option.eq_none_iff_forall_ne_some]

/-- Whether a receiver finds an identifier tells whether the action has one, exactly when it has one
or no key is taken for its. -/
theorem tells_identifier_iff (safe : action.Safe) :
    (Block.ofChars action.wire.toList).headers.contains idKey = action.actionId.isSome ↔
      action.actionId.isSome = true ∨
        ∀ pair ∈ action.params.pairs, sameName (heardKey pair.1) idKey = false := by
  have found := contains_idKey_eq_false_iff safe
  cases given : action.actionId with
  | none =>
    rw [given] at found
    simpa using found
  | some id =>
    rw [given] at found
    simpa using found

/-- **What is asked for is read back exactly when the keys stand.** However an action was built, if
it is not refused its bytes are a text. Read line by line as the decoder reads lines, that text says
the name, the identifier if there is one, and the parameters, each without the blanks around,
exactly when no key of a parameter is blank or has a colon. It names an identifier exactly when the
action has one, unless the action has none and a receiver takes the key of some parameter for that
of the identifier. -/
theorem read_back_iff (name : String) (calls : List Call) {wire : List UInt8}
    (accepted : (built name calls).encode [] = .ok wire) :
    let action := built name calls
    let keys := action.params.pairs.map Prod.fst
    ∃ text, Utf8.decode wire = .ok text ∧
      let read := (Block.ofChars text).headers
      (read.pairs =
          ("Action", trim name) ::
            (action.actionId.toList.map fun id => ("ActionID", trim id)) ++
              action.params.pairs.map (fun pair => (trim pair.1, trim pair.2)) ↔
        ∀ key ∈ keys, ':' ∉ key.toList ∧ isBlankText key = false) ∧
      (read.contains idKey = action.actionId.isSome ↔
        action.actionId.isSome = true ∨
          ∀ key ∈ keys, sameName (heardKey key) idKey = false) := by
  intro action keys
  have safe : action.Safe := encode_isOk.mp (congrArg Except.isOk accepted)
  rw [encode_of_safe safe, List.nil_append] at accepted
  cases accepted
  refine ⟨action.wire.toList, Utf8.decode_encode _, ?_, ?_⟩
  · have asked : action.lines.map (fun pair => (trim pair.1, trim pair.2)) =
        ("Action", trim name) :: (action.actionId.toList.map fun id => ("ActionID", trim id)) ++
          action.params.pairs.map fun pair => (trim pair.1, trim pair.2) := by
      have nameKey : trim "Action" = "Action" := by cbv
      have idKeyTrimmed : trim idKey = "ActionID" := by cbv
      unfold lines
      rw [List.map_append, List.map_cons, List.map_map, nameKey, name_built]
      simp only [Function.comp_def, idKeyTrimmed]
    rw [← asked, pairs_read_iff safe, List.forall_mem_map]
    rfl
  · rw [tells_identifier_iff safe, List.forall_mem_map]

theorem encode_eq_of_wire {text : String} (faultless : action.framingFault? = none)
    (written : action.wire = text) : action.encode [] = .ok (Utf8.bytesOf text) := by
  rw [encode_of_safe (framingFault?_eq_none.mp faultless), written, List.nil_append]

/-- A key with blanks around it, a value with a colon, and an identifier. -/
def padded : List Call := [.param " Exten " "a: b ", .withActionId " 7"]

theorem read_back_iff_padded :
    ∃ text, Utf8.decode
        (Utf8.bytesOf "Action: Originate\r\nActionID:  7\r\n Exten : a: b \r\n\r\n") = .ok text ∧
      (Block.ofChars text).headers.pairs =
        [("Action", "Originate"), ("ActionID", "7"), ("Exten", "a: b")] ∧
      (Block.ofChars text).headers.contains idKey = true := by
  have action : built "Originate" padded =
      ⟨"Originate", ⟨[(" Exten ", "a: b ")]⟩, some " 7"⟩ := by cbv
  have accepted : (built "Originate" padded).encode [] =
      .ok (Utf8.bytesOf "Action: Originate\r\nActionID:  7\r\n Exten : a: b \r\n\r\n") := by
    rw [action]
    exact encode_eq_of_wire (by decide) (by decide)
  obtain ⟨text, decodes, reads, tells⟩ := read_back_iff "Originate" padded accepted
  rw [action] at reads tells
  have stands : ∀ key ∈ [" Exten "], ':' ∉ key.toList ∧ isBlankText key = false := by decide
  refine ⟨text, decodes, (reads.mpr stands).trans ?_, tells.mpr (.inl rfl)⟩
  cbv

/-- An action with one parameter. -/
def coreStatus (key : String) : Action := built "CoreStatus" [.param key "7"]

/-- **A key is taken for that of the identifier.** The actions have no identifier and are not
refused. The receiver finds one in each, and in the second no parameter as it was given. -/
theorem key_taken_for_identifier :
    ((coreStatus "ActionID ").actionId = none ∧
      (coreStatus "ActionID ").encode [] =
        .ok (Utf8.bytesOf "Action: CoreStatus\r\nActionID : 7\r\n\r\n") ∧
      (Block.ofChars "Action: CoreStatus\r\nActionID : 7\r\n\r\n".toList).headers.pairs =
        [("Action", "CoreStatus"), ("ActionID", "7")]) ∧
    (coreStatus "ActionID:").actionId = none ∧
      (coreStatus "ActionID:").encode [] =
        .ok (Utf8.bytesOf "Action: CoreStatus\r\nActionID:: 7\r\n\r\n") ∧
      (Block.ofChars "Action: CoreStatus\r\nActionID:: 7\r\n\r\n".toList).headers.pairs =
        [("Action", "CoreStatus"), ("ActionID", ": 7")] := by
  have padded : coreStatus "ActionID " = ⟨"CoreStatus", ⟨[("ActionID ", "7")]⟩, none⟩ := by cbv
  have colon : coreStatus "ActionID:" = ⟨"CoreStatus", ⟨[("ActionID:", "7")]⟩, none⟩ := by cbv
  rw [padded, colon]
  exact ⟨⟨rfl, encode_eq_of_wire (by decide) (by decide), by cbv⟩,
    rfl, encode_eq_of_wire (by decide) (by decide), by cbv⟩

end Switchboard.Action
