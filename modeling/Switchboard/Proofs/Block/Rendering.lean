/-
**Header lists as blocks.**

There are many ways to write a header list as a block (`HeaderBlock`): blanks around the values,
either line end on each line, blank lines before the block. Each of them is read as the list
(`HeaderBlock.ofLines_raw`). The other way round, what has been read from a block (`Block.Legible`)
can be written in one plain way (`Block.render`) and is read back as it was
(`Block.ofLines_rawLines`).
-/

import Switchboard.Proofs.Action.Framing

namespace Switchboard

open Text Block

/-! ### All ways to write a header list -/

/-- Blanks around a value. -/
structure Padding where
  chars : List Char
  blank : ∀ c ∈ chars, isBlank c = true
  inLine : '\n' ∉ chars

/-- A header as it may stand on a line. -/
structure HeaderLine where
  pair : String × String
  tidy : Tidy pair
  before : Padding
  after : Padding
  ending : Ending

namespace HeaderLine

def chars (line : HeaderLine) : List Char :=
  line.pair.1.toList ++ ':' :: (line.before.chars ++ line.pair.2.toList ++ line.after.chars) ++
    line.ending.chars

/-- The line up to its line feed. -/
def raw (line : HeaderLine) : List Char :=
  line.pair.1.toList ++
    ':' :: (line.before.chars ++ line.pair.2.toList ++ (line.after.chars ++ line.ending.lead))

theorem chars_eq (line : HeaderLine) : line.chars = line.raw ++ ['\n'] := by
  unfold chars raw
  cases line.ending <;> simp [Ending.chars, Ending.lead]

theorem ofChars_raw (line : HeaderLine) :
    Line.ofChars line.raw = .header line.pair.1 line.pair.2 := by
  refine Line.ofChars_spelt line.tidy line.before.blank ?_
  exact List.forall_mem_append.mpr ⟨line.after.blank, line.ending.lead_blank⟩

theorem stands_raw (line : HeaderLine) : Line.Stands line.raw := by
  refine Line.stands_spelt line.tidy line.before.inLine ?_
  rw [List.mem_append, not_or]
  exact ⟨line.after.inLine, line.ending.lead_inLine⟩

end HeaderLine

/-- Whether a block with these headers and without loose lines is an event or a response. -/
def Headers.Classified (headers : Headers) : Prop :=
  (∃ name, headers.get Event.key = some name ∧ isBlankText name = false) ∨
    (headers.contains Event.key = false ∧ headers.contains Response.key = true)

/-- A header list as it may be written: the blank lines before it, its lines, and the blank line
that closes it. -/
structure HeaderBlock where
  gap : List Ending
  lines : List HeaderLine
  closing : Ending
  classified : Headers.Classified ⟨lines.map HeaderLine.pair⟩

namespace HeaderBlock

def headers (block : HeaderBlock) : Headers := ⟨block.lines.map HeaderLine.pair⟩

/-- The block without the blank lines before it. -/
def bytes (block : HeaderBlock) : List UInt8 :=
  Utf8.encode (block.lines.flatMap HeaderLine.chars ++ block.closing.chars)

theorem bytes_eq (block : HeaderBlock) :
    block.bytes = Utf8.encode (Block.written (block.lines.map HeaderLine.raw) block.closing) := by
  unfold bytes Block.written
  rw [List.flatMap_map, funext HeaderLine.chars_eq]

theorem ofLines_raw (block : HeaderBlock) :
    Block.ofLines ((block.lines.map HeaderLine.raw).map Line.ofChars) = ⟨block.headers, []⟩ := by
  have pairs : (block.lines.map HeaderLine.raw).map Line.ofChars =
      block.headers.pairs.map fun pair => .header pair.1 pair.2 := by
    unfold headers
    rw [List.map_map, List.map_map]
    refine List.map_congr_left fun line _ => ?_
    rw [Function.comp_apply, line.ofChars_raw]
    rfl
  rw [pairs, Block.ofLines_headers]

theorem lines_ne_nil (block : HeaderBlock) : block.lines.map HeaderLine.raw ≠ [] := by
  intro empty
  have none : block.lines = [] := List.map_eq_nil_iff.mp empty
  have classified := block.classified
  rw [none] at classified
  rcases classified with ⟨name, found, -⟩ | ⟨-, found⟩
  · cases found
  · cases found

theorem lines_stand (block : HeaderBlock) :
    ∀ line ∈ block.lines.map HeaderLine.raw, Line.Stands line :=
  List.forall_mem_map.mpr fun line _ => line.stands_raw

/-- Blocks one after the other, and blank lines behind the last. -/
def stream (blocks : List HeaderBlock) (gap : List Ending) : List UInt8 :=
  blocks.flatMap (fun block => block.gap.flatMap Ending.bytes ++ block.bytes) ++
    gap.flatMap Ending.bytes

theorem stream_cons (block : HeaderBlock) (blocks : List HeaderBlock) (gap : List Ending) :
    stream (block :: blocks) gap =
      block.gap.flatMap Ending.bytes ++ (block.bytes ++ stream blocks gap) := by
  unfold stream
  rw [List.flatMap_cons, List.append_assoc, List.append_assoc]

end HeaderBlock

/-! ### One way to write a block -/

namespace Block

/-- What a block can hold that has been read from bytes. -/
structure Legible (block : Block) : Prop where
  tidy : ∀ pair ∈ block.headers.pairs, Tidy pair
  inLine : ∀ text ∈ block.loose, '\n' ∉ text.toList
  isLoose : ∀ text ∈ block.loose, Line.ofChars text.toList = .loose text

theorem legible_ofChars (text : List Char) : (ofChars text).Legible where
  tidy := by
    rintro ⟨key, value⟩ member
    obtain ⟨line, inside, means⟩ := List.mem_filterMap.mp member
    obtain ⟨raw, among, rfl⟩ := List.mem_map.mp inside
    have inLine := not_mem_of_mem_splitLines text raw among
    exact Line.tidy_of_ofChars (Line.eq_header_of_pair? means) inLine
  inLine := by
    intro loose member
    obtain ⟨line, inside, means⟩ := List.mem_filterMap.mp member
    obtain ⟨raw, among, rfl⟩ := List.mem_map.mp inside
    rw [Line.toList_of_ofChars (Line.eq_loose_of_loose? means)]
    intro ended
    exact not_mem_of_mem_splitLines text raw among (mem_of_mem_dropTrailing ended)
  isLoose := by
    intro loose member
    obtain ⟨line, inside, means⟩ := List.mem_filterMap.mp member
    obtain ⟨raw, among, rfl⟩ := List.mem_map.mp inside
    have isLoose := Line.eq_loose_of_loose? means
    rw [← isLoose, Line.toList_of_ofChars isLoose]
    exact Line.ofChars_congr (dropTrailing_idem raw)

/-- A block with one space before each value and CR LF behind each line, the headers first. -/
def render (block : Block) : String :=
  String.join (block.headers.pairs.map Action.wireLine) ++
    String.join (block.loose.map (· ++ lineEnd)) ++ lineEnd

/-- The lines of `render` up to their line feeds. -/
def rawLines (block : Block) : List (List Char) :=
  block.headers.pairs.map (fun pair => (Action.lineText pair).toList ++ ['\r']) ++
    block.loose.map fun text => text.toList ++ ['\r']

variable {block : Block}

theorem toList_render (block : Block) : block.render.toList = written block.rawLines .crLf := by
  have lineFeed (text : String) : (text ++ lineEnd).toList = text.toList ++ ['\r'] ++ ['\n'] := by
    simp [lineEnd]
  unfold render written rawLines
  rw [String.toList_append, String.toList_append, String.toList_join, String.toList_join,
    List.flatMap_map, List.flatMap_map, List.flatMap_append, List.flatMap_map, List.flatMap_map]
  simp only [Action.toList_wireLine, lineFeed]
  rfl

/-- The line of a pair is read as that pair without the blanks around its value. -/
theorem ofChars_lineText_trim {key value : String} (tidy : Tidy (key, trim value))
    (ending : Ending) :
    Line.ofChars ((Action.lineText (key, value)).toList ++ ending.lead) =
      .header key (trim value) := by
  obtain ⟨before, after, blankBefore, blankAfter, split⟩ := exists_blanks value.toList
  have trimmed : (trim value).toList = trimChars value.toList := String.toList_ofList
  have spaceBlank : ∀ c ∈ ' ' :: before, isBlank c = true :=
    List.forall_mem_cons.mpr ⟨rfl, blankBefore⟩
  have endBlank : ∀ c ∈ after ++ ending.lead, isBlank c = true :=
    List.forall_mem_append.mpr ⟨blankAfter, ending.lead_blank⟩
  have header := Line.ofChars_spelt tidy spaceBlank endBlank
  have line : (Action.lineText (key, value)).toList =
      key.toList ++ ':' :: ' ' :: value.toList := by
    simp [Action.lineText]
  have spelt : (Action.lineText (key, value)).toList ++ ending.lead =
      key.toList ++ ':' ::
        ((' ' :: before) ++ trimChars value.toList ++ (after ++ ending.lead)) := by
    rw [line]
    conv_lhs => rw [split]
    simp only [List.append_assoc, List.cons_append]
  rw [spelt, ← trimmed]
  exact header

theorem ofChars_lineText {pair : String × String} (tidy : Tidy pair) :
    Line.ofChars ((Action.lineText pair).toList ++ ['\r']) = .header pair.1 pair.2 := by
  have trimmed : Tidy (pair.1, trim pair.2) := by
    rw [tidy.valueTrimmed]
    exact tidy
  have header := ofChars_lineText_trim trimmed .crLf
  rwa [tidy.valueTrimmed] at header

theorem ofChars_loose {text : String} (isLoose : Line.ofChars text.toList = .loose text) :
    Line.ofChars (text.toList ++ ['\r']) = .loose text := by
  have isCr : ∀ c ∈ ['\r'], (c == '\r') = true := List.forall_mem_singleton.mpr rfl
  rw [← isLoose]
  exact Line.ofChars_congr (dropTrailing_append isCr)

theorem Legible.stand (legible : block.Legible) : ∀ line ∈ block.rawLines, Line.Stands line := by
  have notLineFeed : '\n' ∉ ['\r'] := by decide
  refine List.forall_mem_append.mpr ⟨List.forall_mem_map.mpr ?_, List.forall_mem_map.mpr ?_⟩
  · intro pair member
    have tidy := legible.tidy pair member
    refine ⟨?_, ?_⟩
    · have notColon : '\n' ≠ ':' := by decide
      simp [Action.lineText, tidy.keyInLine, tidy.valueInLine, notColon]
    · rw [ofChars_lineText tidy]
      intro blank
      cases blank
  · intro text member
    refine ⟨?_, ?_⟩
    · rw [List.mem_append, not_or]
      exact ⟨legible.inLine text member, notLineFeed⟩
    · rw [ofChars_loose (legible.isLoose text member)]
      intro blank
      cases blank

theorem Legible.ofLines_rawLines (legible : block.Legible) :
    ofLines (block.rawLines.map Line.ofChars) = block := by
  have headers : (block.headers.pairs.map fun pair => (Action.lineText pair).toList ++ ['\r']).map
      Line.ofChars = block.headers.pairs.map fun pair => .header pair.1 pair.2 := by
    rw [List.map_map]
    refine List.map_congr_left fun pair member => ?_
    rw [Function.comp_apply, ofChars_lineText (legible.tidy pair member)]
  have loose : (block.loose.map fun text => text.toList ++ ['\r']).map Line.ofChars =
      block.loose.map .loose := by
    rw [List.map_map]
    refine List.map_congr_left fun text member => ?_
    rw [Function.comp_apply, ofChars_loose (legible.isLoose text member)]
  unfold rawLines
  rw [List.map_append, headers, loose, ofLines_append, ofLines_headers, ofLines_loose,
    List.append_nil, List.nil_append]

end Block

end Switchboard
