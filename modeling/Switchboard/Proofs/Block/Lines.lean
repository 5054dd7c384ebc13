/-
**Blocks that are written line by line.**

A line that means something is never taken for the blank line that closes a block
(`Line.Stands.solid`), so the first block of a stream that begins with such lines and a blank line
ends there (`blockEnd?_written`), and what its bytes spell is what its lines say
(`Frame.ofBytes_written`).
-/

import Switchboard.Frame
import Switchboard.Proofs.Block.Boundary
import Switchboard.Proofs.Text.Blank
import Switchboard.Proofs.Text.Utf8

namespace Switchboard

open Text Block

/-! ### Lines of a text -/

section Lines

variable {line text : List Char} {lines : List (List Char)}

theorem splitLinesFrom_eq (line : List Char) (lines : List (List Char)) (text : List Char) :
    splitLinesFrom line lines text = lines.reverse ++ splitLinesFrom line [] text := by
  induction text generalizing line lines with
  | nil =>
    unfold splitLinesFrom
    rw [List.reverse_cons, List.reverse_singleton]
  | cons c rest ih =>
    unfold splitLinesFrom
    split
    · rw [ih [] (line.reverse :: lines), ih [] [line.reverse], List.reverse_cons,
        List.reverse_singleton, List.append_assoc]
    · exact ih (c :: line) lines

theorem splitLinesFrom_of_not_mem (unended : '\n' ∉ text) :
    splitLinesFrom line [] text = [line.reverse ++ text] := by
  induction text generalizing line with
  | nil =>
    unfold splitLinesFrom
    rw [List.reverse_singleton, List.append_nil]
  | cons c rest ih =>
    obtain ⟨notEnd, unended⟩ := List.ne_and_not_mem_of_not_mem_cons unended
    unfold splitLinesFrom
    rw [if_neg notEnd.symm, ih unended, List.reverse_cons, List.append_assoc, List.singleton_append]

theorem splitLinesFrom_append (unended : '\n' ∉ text) (rest : List Char) :
    splitLinesFrom line [] (text ++ '\n' :: rest) = (line.reverse ++ text) :: splitLines rest := by
  induction text generalizing line with
  | nil =>
    rw [List.nil_append, List.append_nil, splitLinesFrom, if_pos rfl, splitLinesFrom_eq]
    rfl
  | cons c more ih =>
    obtain ⟨notEnd, unended⟩ := List.ne_and_not_mem_of_not_mem_cons unended
    rw [List.cons_append, splitLinesFrom, if_neg notEnd.symm, ih unended, List.reverse_cons,
      List.append_assoc, List.singleton_append]

theorem splitLines_of_not_mem (unended : '\n' ∉ text) : splitLines text = [text] :=
  splitLinesFrom_of_not_mem unended

theorem splitLines_append (unended : '\n' ∉ line) (rest : List Char) :
    splitLines (line ++ '\n' :: rest) = line :: splitLines rest :=
  splitLinesFrom_append unended rest

theorem splitLines_flatMap (unended : ∀ line ∈ lines, '\n' ∉ line) (rest : List Char) :
    splitLines (lines.flatMap (· ++ ['\n']) ++ rest) = lines ++ splitLines rest := by
  induction lines with
  | nil => rfl
  | cons line more ih =>
    obtain ⟨first, others⟩ := List.forall_mem_cons.mp unended
    rw [List.flatMap_cons, List.append_assoc, List.append_assoc, List.singleton_append,
      splitLines_append first, ih others, List.cons_append]

theorem not_mem_of_mem_splitLines (text : List Char) :
    ∀ line ∈ splitLines text, '\n' ∉ line := by
  by_cases ended : '\n' ∈ text
  · obtain ⟨line, rest, rfl, unended⟩ := List.eq_append_cons_of_mem ended
    rw [splitLines_append unended]
    exact List.forall_mem_cons.mpr ⟨unended, not_mem_of_mem_splitLines rest⟩
  · rw [splitLines_of_not_mem ended]
    exact List.forall_mem_singleton.mpr ended
termination_by text.length
decreasing_by
  subst_vars
  rw [List.length_append, List.length_cons]
  omega

end Lines

/-! ### What a line says -/

theorem lf_mem_encode {chars : List Char} : lf ∈ Utf8.encode chars ↔ '\n' ∈ chars := by
  have ascii : '\n'.toNat < 0x80 := by decide
  exact Utf8.mem_encode_ascii ascii

theorem cr_mem_encode {chars : List Char} : cr ∈ Utf8.encode chars ↔ '\r' ∈ chars := by
  have ascii : '\r'.toNat < 0x80 := by decide
  exact Utf8.mem_encode_ascii ascii

/-- Whether a pair can be written as a line and read back. -/
structure Tidy (pair : String × String) : Prop where
  keyed : pair.1 ≠ ""
  colonFree : ':' ∉ pair.1.toList
  keyInLine : '\n' ∉ pair.1.toList
  keyTrimmed : trim pair.1 = pair.1
  valueInLine : '\n' ∉ pair.2.toList
  valueTrimmed : trim pair.2 = pair.2

namespace Line

variable {raw : List Char} {pair : String × String} {before after : List Char}

theorem trimChars_toList {text : String} (trimmed : trim text = text) :
    trimChars text.toList = text.toList := by
  have chars := congrArg String.toList trimmed
  rwa [trim, String.toList_ofList] at chars

theorem trim_ofList_trimChars (chars : List Char) :
    trim (String.ofList (trimChars chars)) = String.ofList (trimChars chars) := by
  rw [trim, String.toList_ofList, trimChars_idem]

/-- The carriage returns at the end of a line are no part of it. -/
theorem ofChars_congr {other : List Char}
    (same : dropTrailing (· == '\r') raw = dropTrailing (· == '\r') other) :
    ofChars raw = ofChars other := by
  unfold ofChars
  rw [same]

theorem isBlank_of_isCr {c : Char} (isCr : (c == '\r') = true) : isBlank c = true := by
  rw [beq_iff_eq.mp isCr]
  rfl

theorem ne_colon {key : List Char} (colonFree : ':' ∉ key) :
    ∀ c ∈ key, (c != ':') = true := by
  intro c member
  rw [bne_iff_ne]
  rintro rfl
  exact colonFree member

/-- A line with a tidy key and a value between blanks. -/
theorem ofChars_spelt (tidy : Tidy pair) (blankBefore : ∀ c ∈ before, isBlank c = true)
    (blankAfter : ∀ c ∈ after, isBlank c = true) :
    ofChars (pair.1.toList ++ ':' :: (before ++ pair.2.toList ++ after)) =
      .header pair.1 pair.2 := by
  have inside := ne_colon tidy.colonFree
  have line : dropTrailing (· == '\r')
      (pair.1.toList ++ ':' :: (before ++ pair.2.toList ++ after)) =
      pair.1.toList ++ ':' :: dropTrailing (· == '\r') (before ++ pair.2.toList ++ after) :=
    dropTrailing_append_cons rfl _
  have value : trimChars (dropTrailing (· == '\r') (before ++ pair.2.toList ++ after)) =
      pair.2.toList := by
    rw [trimChars_dropTrailing fun _ => isBlank_of_isCr, trimChars_append blankAfter,
      append_trimChars blankBefore, trimChars_toList tidy.valueTrimmed]
  generalize dropTrailing (· == '\r') (before ++ pair.2.toList ++ after) = behind at line value
  have filled : ¬ (pair.1.toList ++ ':' :: behind).all isBlank = true := by
    intro blank
    have colon := List.all_eq_true.mp blank ':' (List.mem_append_right _ List.mem_cons_self)
    exact absurd colon (by decide)
  have keyed : ¬ pair.1.toList.isEmpty = true := by
    rw [List.isEmpty_iff, String.toList_eq_nil_iff]
    exact tidy.keyed
  unfold ofChars
  rw [line, if_neg filled, List.takeWhile_append_of_pos inside, List.dropWhile_append_of_pos inside]
  have none : (':' :: behind).takeWhile (· != ':') = [] := rfl
  have all : (':' :: behind).dropWhile (· != ':') = ':' :: behind := rfl
  rw [none, all, List.append_nil, trimChars_toList tidy.keyTrimmed]
  dsimp only
  rw [if_neg keyed, value, String.ofList_toList, String.ofList_toList]

/-- What a line can say, of which `line` is left without the carriage returns at its end. -/
theorem ofChars_cases (raw : List Char) {line : List Char}
    (left : dropTrailing (· == '\r') raw = line) :
    (line.all isBlank = true ∧ ofChars raw = .blank) ∨ ofChars raw = .loose (String.ofList line) ∨
      ∃ colon behind, line.dropWhile (· != ':') = colon :: behind ∧
        trimChars (line.takeWhile (· != ':')) ≠ [] ∧
        ofChars raw = .header (String.ofList (trimChars (line.takeWhile (· != ':'))))
          (String.ofList (trimChars behind)) := by
  unfold ofChars
  rw [left]
  dsimp only
  split
  · next blank => exact .inl ⟨blank, rfl⟩
  split
  · exact .inr (.inl rfl)
  · next colon behind after =>
    split
    · exact .inr (.inl rfl)
    · next keyed =>
      rw [List.isEmpty_iff] at keyed
      exact .inr (.inr ⟨colon, behind, after, keyed, rfl⟩)

/-- What a line has as its pair can be written as a line. -/
theorem tidy_of_ofChars {key value : String} (means : ofChars raw = .header key value)
    (inLine : '\n' ∉ raw) : Tidy (key, value) := by
  rcases ofChars_cases raw rfl with ⟨-, blank⟩ | loose | ⟨colon, behind, after, keyed, header⟩
  · rw [means] at blank
    cases blank
  · rw [means] at loose
    cases loose
  · rw [means] at header
    cases header
    have inFront : '\n' ∉ (dropTrailing (· == '\r') raw).takeWhile (· != ':') := fun member =>
      inLine (mem_of_mem_dropTrailing ((List.takeWhile_prefix _).subset member))
    have inBehind : '\n' ∉ behind := by
      intro member
      have ended := List.mem_cons_of_mem colon member
      rw [← after] at ended
      exact inLine (mem_of_mem_dropTrailing ((List.dropWhile_suffix _).subset ended))
    refine ⟨?_, ?_, ?_, trim_ofList_trimChars _, ?_, trim_ofList_trimChars _⟩
    · rwa [ne_eq, String.ofList_eq_empty_iff]
    · rw [String.toList_ofList]
      intro member
      have notColon := List.mem_takeWhile_imp (mem_of_mem_trimChars member)
      exact absurd notColon (by decide)
    · rw [String.toList_ofList]
      exact fun member => inFront (mem_of_mem_trimChars member)
    · rw [String.toList_ofList]
      exact fun member => inBehind (mem_of_mem_trimChars member)

/-- A loose line is the whole line but for the carriage returns at its end. -/
theorem toList_of_ofChars {text : String} (means : ofChars raw = .loose text) :
    text.toList = dropTrailing (· == '\r') raw := by
  rcases ofChars_cases raw rfl with ⟨-, blank⟩ | loose | ⟨colon, behind, -, -, header⟩
  · rw [means] at blank
    cases blank
  · rw [means] at loose
    cases loose
    exact String.toList_ofList
  · rw [means] at header
    cases header

theorem eq_header_of_pair? {line : Line} {key value : String}
    (means : line.pair? = some (key, value)) : line = .header key value := by
  cases line <;> cases means
  rfl

theorem eq_loose_of_loose? {line : Line} {text : String} (means : line.loose? = some text) :
    line = .loose text := by
  cases line <;> cases means
  rfl

/-- Whether a line says something, and is one line. -/
structure Stands (raw : List Char) : Prop where
  inLine : '\n' ∉ raw
  filled : ofChars raw ≠ .blank

/-- A colon is enough for a line to say something. -/
theorem stands_of_colon (inLine : '\n' ∉ raw) (colon : ':' ∈ raw) : Stands raw where
  inLine := inLine
  filled := by
    have stays : ':' ∈ dropTrailing (· == '\r') raw := mem_dropTrailing colon rfl
    rcases ofChars_cases raw rfl with ⟨all, -⟩ | loose | ⟨_, behind, -, -, header⟩
    · have colonBlank := List.all_eq_true.mp all ':' stays
      exact absurd colonBlank (by decide)
    · rw [loose]
      nofun
    · rw [header]
      nofun

theorem stands_spelt (tidy : Tidy pair) (inBefore : '\n' ∉ before) (inAfter : '\n' ∉ after) :
    Stands (pair.1.toList ++ ':' :: (before ++ pair.2.toList ++ after)) := by
  have notColon : '\n' ≠ ':' := by decide
  refine stands_of_colon ?_ (List.mem_append_right _ List.mem_cons_self)
  simp [tidy.keyInLine, tidy.valueInLine, inBefore, inAfter, notColon]

/-- In bytes, a line that says something is neither empty nor a carriage return. -/
theorem Stands.solid (stands : Stands raw) :
    lf ∉ Utf8.encode raw ∧ Utf8.encode raw ≠ [] ∧ Utf8.encode raw ≠ [cr] := by
  have ne {other : List Char} (blank : ofChars other = .blank) :
      Utf8.encode raw ≠ Utf8.encode other := by
    intro same
    have filled := stands.filled
    rw [Utf8.encode_injective same] at filled
    exact filled blank
  have notEmpty : ofChars [] = .blank := rfl
  have notCr : ofChars ['\r'] = .blank := rfl
  exact ⟨fun ended => stands.inLine (lf_mem_encode.mp ended), ne notEmpty, ne notCr⟩

end Line

/-! ### Blocks that are written -/

/-- A line end in a text. -/
inductive Ending where
  | lf
  | crLf
  deriving DecidableEq, Repr

namespace Ending

def chars : Ending → List Char
  | lf => ['\n']
  | crLf => ['\r', '\n']

def bytes (ending : Ending) : List UInt8 := Utf8.encode ending.chars

theorem bytes_mem (ending : Ending) : ending.bytes ∈ lineEnds := by
  cases ending <;> decide

/-- What stands before the line feed. -/
def lead : Ending → List Char
  | lf => []
  | crLf => ['\r']

theorem lead_blank (ending : Ending) : ∀ c ∈ ending.lead, isBlank c = true := by
  cases ending with
  | lf => exact List.forall_mem_nil _
  | crLf => exact List.forall_mem_singleton.mpr rfl

theorem lead_inLine (ending : Ending) : '\n' ∉ ending.lead := by
  cases ending <;> decide

end Ending

namespace Block

variable {lines : List (List Char)} {closing : Ending}

/-- The text of a block with the given lines, each of which may end in a carriage return. -/
def written (lines : List (List Char)) (closing : Ending) : List Char :=
  lines.flatMap (· ++ ['\n']) ++ closing.chars

theorem ofLines_append (first second : List Line) :
    ofLines (first ++ second) =
      ⟨⟨(ofLines first).headers.pairs ++ (ofLines second).headers.pairs⟩,
        (ofLines first).loose ++ (ofLines second).loose⟩ := by
  unfold ofLines
  rw [List.filterMap_append, List.filterMap_append]

theorem ofLines_headers (pairs : List (String × String)) :
    ofLines (pairs.map fun pair => .header pair.1 pair.2) = ⟨⟨pairs⟩, []⟩ := by
  unfold ofLines
  rw [List.filterMap_map, List.filterMap_map]
  simp [Function.comp_def, Line.pair?, Line.loose?]

theorem ofLines_loose (texts : List String) : ofLines (texts.map .loose) = ⟨⟨[]⟩, texts⟩ := by
  unfold ofLines
  rw [List.filterMap_map, List.filterMap_map]
  simp [Function.comp_def, Line.pair?, Line.loose?]

theorem ofChars_written (stand : ∀ line ∈ lines, Line.Stands line) :
    ofChars (written lines closing) = ofLines (lines.map Line.ofChars) := by
  have unended : ∀ line ∈ lines, '\n' ∉ line := fun line member => (stand line member).inLine
  have behind : (splitLines closing.chars).map Line.ofChars = [.blank, .blank] := by
    cases closing <;> decide
  unfold ofChars written
  rw [splitLines_flatMap unended, List.map_append, behind]
  simp [ofLines, Line.pair?, Line.loose?]

theorem encode_written_nil (closing : Ending) : Utf8.encode (written [] closing) = closing.bytes :=
  rfl

theorem encode_written_cons (line : List Char) (lines : List (List Char)) (closing : Ending) :
    Utf8.encode (written (line :: lines) closing) =
      Utf8.encode line ++ lf :: Utf8.encode (written lines closing) := by
  have lineFeed : Utf8.encode ['\n'] = [lf] := by decide
  unfold written
  rw [List.flatMap_cons, List.append_assoc, List.append_assoc, Utf8.encode_append,
    Utf8.encode_append ['\n'], lineFeed, List.singleton_append]

/-- A block begins with no line end. -/
theorem blankLine?_written (nonempty : lines ≠ []) (stand : ∀ line ∈ lines, Line.Stands line)
    (rest : List UInt8) : blankLine? (Utf8.encode (written lines closing) ++ rest) = none := by
  cases lines with
  | nil => exact absurd rfl nonempty
  | cons line more =>
    obtain ⟨unended, filled, notCr⟩ := (stand line List.mem_cons_self).solid
    rw [encode_written_cons, List.append_assoc]
    exact blankLine?_of_not_mem unended filled notCr _

/-- The first block of a stream that begins with a block ends with it. -/
theorem blockEnd?_written (nonempty : lines ≠ []) (stand : ∀ line ∈ lines, Line.Stands line)
    (rest : List UInt8) :
    blockEnd? (Utf8.encode (written lines closing) ++ rest) =
      some (Utf8.encode (written lines closing)).length := by
  induction lines with
  | nil => exact absurd rfl nonempty
  | cons line more ih =>
    obtain ⟨first, others⟩ := List.forall_mem_cons.mp stand
    rw [encode_written_cons, List.append_assoc, List.cons_append,
      blockEnd?_append_of_not_mem first.solid.1, List.length_append, List.length_cons]
    cases more with
    | nil =>
      have blank := blankLine?_of_lineEnd closing.bytes_mem rest
      rw [encode_written_nil, blockEnd?_lf blank, Option.map_some, Nat.add_comm 1]
    | cons next later =>
      have nonempty : next :: later ≠ [] := List.cons_ne_nil next later
      rw [blockEnd?_cons fun _ => blankLine?_written nonempty others rest, ih nonempty others,
        Option.map_some, Option.map_some, Nat.add_comm 1]

theorem ofBytes_written (stand : ∀ line ∈ lines, Line.Stands line) :
    Frame.ofBytes (Utf8.encode (written lines closing)) =
      Frame.ofBlock (ofLines (lines.map Line.ofChars)) := by
  unfold Frame.ofBytes
  rw [Utf8.decode_encode]
  dsimp only
  rw [ofChars_written stand]

/-! ### The blocks of a stream -/

/-- A stream cut behind each blank line that closes a block, and what no blank line closes. -/
def cut (bytes : List UInt8) : List (List UInt8) × List UInt8 :=
  match _found : blockEnd? bytes with
  | none => ([], bytes)
  | some size =>
    let (blocks, rest) := cut (bytes.drop size)
    (bytes.take size :: blocks, rest)
termination_by bytes.length
decreasing_by
  have := blockEnd?_bounds _found
  rw [List.length_drop]
  omega

theorem cut_nil : cut [] = ([], []) := by
  rw [cut]
  rfl

theorem cut_of_none {bytes : List UInt8} (unclosed : blockEnd? bytes = none) :
    cut bytes = ([], bytes) := by
  rw [cut]
  split
  · rfl
  · next size found =>
    rw [unclosed] at found
    cases found

theorem cut_of_some {bytes : List UInt8} {size : Nat} (found : blockEnd? bytes = some size) :
    cut bytes = (bytes.take size :: (cut (bytes.drop size)).1, (cut (bytes.drop size)).2) := by
  rw [cut]
  split
  · next none =>
    rw [found] at none
    cases none
  · next size' found' =>
    rw [found] at found'
    cases found'
    rfl

end Block

end Switchboard
