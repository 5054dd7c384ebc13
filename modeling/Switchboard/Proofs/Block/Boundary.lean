/-
**What more bytes do to the end of a block.**

A line ends in one of two ways (`lineEnds`), and what begins with neither is no blank line. The end
of the first block is found as soon as it is there, and more bytes do not move it
(`blockEnd?_append`); where it lies in what has come already, it is found there
(`blockEnd?_of_append`). Line ends in front of a block may come one by one (`dropBlankLines_append`),
and once a line has ended behind them they are all gone (`dropBlankLines_append_of_mem`).
-/

import Mathlib.Data.List.Basic
import Switchboard.Block.Boundary

namespace Switchboard.Block

variable {first second : List UInt8}

/-! ### Line ends -/

/-- The two ways to end a line. -/
def lineEnds : List (List UInt8) := [[lf], [cr, lf]]

theorem blankLine?_of_lineEnd {ending : List UInt8} (isEnd : ending ∈ lineEnds)
    (rest : List UInt8) : blankLine? (ending ++ rest) = some ending.length := by
  rcases List.mem_cons.mp isEnd with rfl | isCrLf
  · rfl
  · rw [List.mem_singleton.mp isCrLf]
    rfl

theorem lineEnd_of_blankLine? {bytes : List UInt8} {size : Nat}
    (found : blankLine? bytes = some size) :
    ∃ ending ∈ lineEnds, ∃ rest, bytes = ending ++ rest ∧ size = ending.length := by
  unfold blankLine? at found
  split at found
  · cases found
  · next byte rest =>
    split at found
    · next isLf =>
      cases found
      exact ⟨[lf], List.mem_cons_self, rest, by rw [isLf]; rfl, rfl⟩
    · split at found
      · next isCr =>
        split at found
        · cases found
        · next next_ more =>
          split at found
          · next isLf =>
            cases found
            exact ⟨[cr, lf], by simp [lineEnds], more, by rw [isCr, isLf]; rfl, rfl⟩
          · cases found
      · cases found

theorem length_lineEnd {ending : List UInt8} (isEnd : ending ∈ lineEnds) :
    0 < ending.length ∧ ending.length ≤ 2 := by
  revert ending
  decide

theorem blankLine?_le_two {bytes : List UInt8} {size : Nat} (found : blankLine? bytes = some size) :
    size ≤ 2 := by
  obtain ⟨ending, isEnd, -, -, rfl⟩ := lineEnd_of_blankLine? found
  exact (length_lineEnd isEnd).2

theorem blankLine?_append {size : Nat} (found : blankLine? first = some size) :
    blankLine? (first ++ second) = some size := by
  obtain ⟨ending, isEnd, rest, rfl, rfl⟩ := lineEnd_of_blankLine? found
  rw [List.append_assoc]
  exact blankLine?_of_lineEnd isEnd _

theorem blankLine?_of_append {size : Nat} (found : blankLine? (first ++ second) = some size)
    (inside : size ≤ first.length) : blankLine? first = some size := by
  obtain ⟨ending, isEnd, rest, same, rfl⟩ := lineEnd_of_blankLine? found
  have whole : ending <+: first :=
    List.prefix_of_prefix_length_le ⟨rest, same.symm⟩ (List.prefix_append first second) inside
  obtain ⟨more, rfl⟩ := whole
  exact blankLine?_of_lineEnd isEnd more

theorem blankLine?_take {bytes : List UInt8} (settled : blankLine? bytes = none) (count : Nat) :
    blankLine? (bytes.take count) = none := by
  by_contra blank
  obtain ⟨size, found⟩ := Option.ne_none_iff_exists'.mp blank
  have whole : blankLine? (bytes.take count ++ bytes.drop count) = some size :=
    blankLine?_append found
  rw [List.take_append_drop, settled] at whole
  cases whole

/-- A line end takes more than what can stand before a line feed and be no line. -/
theorem blankLine?_of_not_mem {line : List UInt8} (unended : lf ∉ line) (filled : line ≠ [])
    (notCr : line ≠ [cr]) (rest : List UInt8) : blankLine? (line ++ rest) = none := by
  match line with
  | [] => exact absurd rfl filled
  | [byte] =>
    have notLf : byte ≠ lf := fun isLf => unended (isLf ▸ List.mem_cons_self)
    have notCr' : byte ≠ cr := fun isCr => notCr (isCr ▸ rfl)
    unfold blankLine?
    rw [List.singleton_append]
    dsimp only
    rw [if_neg notLf, if_neg notCr']
  | byte :: next :: more =>
    have notLf : byte ≠ lf := fun isLf => unended (isLf ▸ List.mem_cons_self)
    have nextNotLf : next ≠ lf := fun isLf =>
      unended (isLf ▸ List.mem_cons_of_mem _ List.mem_cons_self)
    unfold blankLine?
    rw [List.cons_append, List.cons_append]
    dsimp only
    rw [if_neg notLf, if_neg nextNotLf, ite_self]

/-- Bytes that hold a line feed and do not begin with a line end will not begin with one. -/
theorem blankLine?_append_of_mem (ended : lf ∈ first) (settled : blankLine? first = none) :
    blankLine? (first ++ second) = none := by
  cases first with
  | nil => cases ended
  | cons byte rest =>
    cases rest with
    | nil =>
      rw [← List.mem_singleton.mp ended] at settled
      cases settled
    | cons next more => exact settled

/-! ### The end of the first block -/

theorem blockEndFrom_eq (passed : Nat) (bytes : List UInt8) :
    blockEndFrom passed bytes = (blockEnd? bytes).map (passed + ·) := by
  unfold blockEnd?
  induction bytes generalizing passed with
  | nil => rfl
  | cons byte rest ih =>
    have later : blockEndFrom (passed + 1) rest =
        (blockEndFrom (0 + 1) rest).map (passed + ·) := by
      rw [ih, ih (0 + 1), Option.map_map]
      congr 1
      funext size
      show passed + 1 + size = passed + (0 + 1 + size)
      omega
    unfold blockEndFrom
    split
    · split
      · next size blank => rw [Option.map_some, Nat.zero_add, Nat.add_assoc]
      · exact later
    · exact later

theorem blockEnd?_lf {rest : List UInt8} {size : Nat} (blank : blankLine? rest = some size) :
    blockEnd? (lf :: rest) = some (1 + size) := by
  unfold blockEnd? blockEndFrom
  rw [if_pos rfl, blank]

/-- A byte with which no blank line begins leaves the end of the block to the rest. -/
theorem blockEnd?_cons {byte : UInt8} {rest : List UInt8}
    (unclosed : byte = lf → blankLine? rest = none) :
    blockEnd? (byte :: rest) = (blockEnd? rest).map (1 + ·) := by
  have later : blockEndFrom (0 + 1) rest = (blockEnd? rest).map (1 + ·) := blockEndFrom_eq _ _
  rw [← later, blockEnd?, blockEndFrom]
  split
  · next isLf => rw [unclosed isLf]
  · rfl

/-- The two ways in which the first block can end. -/
theorem blockEnd?_cons_cases {byte : UInt8} {rest : List UInt8} {size : Nat}
    (found : blockEnd? (byte :: rest) = some size) :
    (byte = lf ∧ ∃ blank, blankLine? rest = some blank ∧ size = 1 + blank) ∨
      ((byte = lf → blankLine? rest = none) ∧
        ∃ later, blockEnd? rest = some later ∧ size = 1 + later) := by
  by_cases closed : byte = lf ∧ ∃ blank, blankLine? rest = some blank
  · obtain ⟨rfl, blank, closes⟩ := closed
    rw [blockEnd?_lf closes] at found
    exact .inl ⟨rfl, blank, closes, (Option.some.inj found).symm⟩
  · have unclosed : byte = lf → blankLine? rest = none := by
      intro isLf
      by_contra blank
      exact closed ⟨isLf, Option.ne_none_iff_exists'.mp blank⟩
    rw [blockEnd?_cons unclosed] at found
    obtain ⟨later, ends, rfl⟩ := Option.map_eq_some_iff.mp found
    exact .inr ⟨unclosed, later, ends, rfl⟩

/-- More bytes do not move the end of the first block. -/
theorem blockEnd?_append {size : Nat} (found : blockEnd? first = some size) :
    blockEnd? (first ++ second) = some size := by
  induction first generalizing size with
  | nil => cases found
  | cons byte rest ih =>
    rcases blockEnd?_cons_cases found with ⟨rfl, blank, closes, rfl⟩ | ⟨unclosed, later, ends, rfl⟩
    · exact blockEnd?_lf (blankLine?_append closes)
    · rw [List.cons_append, blockEnd?_cons, ih ends, Option.map_some]
      intro isLf
      -- A blank line that needs the new bytes would leave nothing for the end further on.
      have room := blockEnd?_bounds ends
      by_contra blank
      obtain ⟨size, closes⟩ := Option.ne_none_iff_exists'.mp blank
      have short := blankLine?_le_two closes
      rw [blankLine?_of_append closes (by omega)] at unclosed
      cases unclosed isLf

/-- The end of the first block is found as soon as it is there. -/
theorem blockEnd?_of_append {size : Nat} (found : blockEnd? (first ++ second) = some size)
    (inside : size ≤ first.length) : blockEnd? first = some size := by
  induction first generalizing size with
  | nil =>
    have := blockEnd?_bounds found
    rw [List.length_nil] at inside
    omega
  | cons byte rest ih =>
    rw [List.cons_append] at found
    rw [List.length_cons] at inside
    rcases blockEnd?_cons_cases found with ⟨rfl, blank, closes, rfl⟩ | ⟨unclosed, later, ends, rfl⟩
    · exact blockEnd?_lf (blankLine?_of_append closes (by omega))
    · rw [blockEnd?_cons, ih ends (by omega), Option.map_some]
      intro isLf
      by_contra blank
      obtain ⟨size, closes⟩ := Option.ne_none_iff_exists'.mp blank
      rw [blankLine?_append closes] at unclosed
      cases unclosed isLf

theorem blockEnd?_take {bytes : List UInt8} {size count : Nat}
    (found : blockEnd? bytes = some size) (inside : size ≤ count) :
    blockEnd? (bytes.take count) = some size := by
  have bounds := (blockEnd?_bounds found).2
  rw [← List.take_append_drop count bytes] at found
  refine blockEnd?_of_append found ?_
  rw [List.length_take]
  omega

theorem blockEnd?_take_of_lt {bytes : List UInt8} {size count : Nat}
    (found : blockEnd? bytes = some size) (before : count < size) :
    blockEnd? (bytes.take count) = none := by
  by_contra closed
  obtain ⟨early, ends⟩ := Option.ne_none_iff_exists'.mp closed
  have bounds := (blockEnd?_bounds ends).2
  have whole : blockEnd? (bytes.take count ++ bytes.drop count) = some early :=
    blockEnd?_append ends
  rw [List.take_append_drop, found] at whole
  rw [List.length_take, ← Option.some.inj whole] at bounds
  omega

/-- What has no line feed in it does not close a block. -/
theorem blockEnd?_append_of_not_mem (unended : lf ∉ first) (second : List UInt8) :
    blockEnd? (first ++ second) = (blockEnd? second).map (first.length + ·) := by
  induction first with
  | nil => simp
  | cons byte rest ih =>
    have notLf : byte ≠ lf := fun isLf => unended (isLf ▸ List.mem_cons_self)
    have inside : lf ∉ rest := fun isLf => unended (List.mem_cons_of_mem byte isLf)
    rw [List.cons_append, blockEnd?_cons fun isLf => absurd isLf notLf, ih inside, Option.map_map]
    congr 1
    funext size
    simp only [Function.comp_apply, List.length_cons]
    omega

theorem lf_mem_of_blockEnd? {bytes : List UInt8} {size : Nat}
    (found : blockEnd? bytes = some size) : lf ∈ bytes := by
  induction bytes generalizing size with
  | nil => cases found
  | cons byte rest ih =>
    rcases blockEnd?_cons_cases found with ⟨rfl, -⟩ | ⟨-, later, ends, -⟩
    · exact List.mem_cons_self
    · exact List.mem_cons_of_mem _ (ih ends)

/-! ### Line ends before a block -/

theorem dropBlankLines_lineEnd {ending : List UInt8} (isEnd : ending ∈ lineEnds)
    (rest : List UInt8) : dropBlankLines (ending ++ rest) = dropBlankLines rest := by
  rcases List.mem_cons.mp isEnd with rfl | isCrLf
  · cases rest <;> rfl
  · rw [List.mem_singleton.mp isCrLf]
    rfl

theorem dropBlankLines_of_none {bytes : List UInt8} (settled : blankLine? bytes = none) :
    dropBlankLines bytes = bytes := by
  fun_cases dropBlankLines bytes with
  | case1 => rfl
  | case2 rest => cases rest <;> simp [blankLine?] at settled
  | case4 rest notLf => cases settled
  | case3 => rfl
  | case5 => rfl
  | case6 => rfl

/-- Every list of bytes is line ends, one after the other, and bytes that begin with none. -/
theorem lineEnd_induction {motive : List UInt8 → Prop}
    (settled : ∀ bytes, blankLine? bytes = none → motive bytes)
    (ended : ∀ ending ∈ lineEnds, ∀ rest, motive rest → motive (ending ++ rest))
    (bytes : List UInt8) : motive bytes := by
  induction shorter : bytes.length using Nat.strongRecOn generalizing bytes with
  | ind length ih =>
    cases found : blankLine? bytes with
    | none => exact settled bytes found
    | some size =>
      obtain ⟨ending, isEnd, rest, rfl, -⟩ := lineEnd_of_blankLine? found
      have nonempty := (length_lineEnd isEnd).1
      refine ended ending isEnd rest (ih rest.length ?_ rest rfl)
      rw [← shorter, List.length_append]
      omega

theorem blankLine?_dropBlankLines (bytes : List UInt8) :
    blankLine? (dropBlankLines bytes) = none := by
  induction bytes using lineEnd_induction with
  | settled bytes none =>
    rw [dropBlankLines_of_none none]
    exact none
  | ended ending isEnd rest ih =>
    rw [dropBlankLines_lineEnd isEnd]
    exact ih

theorem dropBlankLines_append (first second : List UInt8) :
    dropBlankLines (first ++ second) = dropBlankLines (dropBlankLines first ++ second) := by
  induction first using lineEnd_induction with
  | settled bytes none => rw [dropBlankLines_of_none none]
  | ended ending isEnd rest ih =>
    rw [List.append_assoc, dropBlankLines_lineEnd isEnd, dropBlankLines_lineEnd isEnd, ih]

theorem dropBlankLines_idem (bytes : List UInt8) :
    dropBlankLines (dropBlankLines bytes) = dropBlankLines bytes :=
  dropBlankLines_of_none (blankLine?_dropBlankLines bytes)

/-- Line ends before a block can be told without it. -/
theorem exists_gap (bytes : List UInt8) :
    ∃ gap, bytes = gap ++ dropBlankLines bytes ∧
      ∀ rest, dropBlankLines (gap ++ rest) = dropBlankLines rest := by
  induction bytes using lineEnd_induction with
  | settled bytes none => exact ⟨[], (dropBlankLines_of_none none).symm, fun rest => rfl⟩
  | ended ending isEnd rest ih =>
    obtain ⟨gap, split, skips⟩ := ih
    refine ⟨ending ++ gap, ?_, fun more => ?_⟩
    · rw [dropBlankLines_lineEnd isEnd, List.append_assoc, ← split]
    · rw [List.append_assoc, dropBlankLines_lineEnd isEnd, skips]

theorem dropBlankLines_suffix (bytes : List UInt8) : dropBlankLines bytes <:+ bytes := by
  obtain ⟨gap, split, -⟩ := exists_gap bytes
  exact ⟨gap, split.symm⟩

/-- Once a line has ended behind them, the line ends before a block are all gone. -/
theorem dropBlankLines_append_of_mem (ended : lf ∈ dropBlankLines first) :
    dropBlankLines (first ++ second) = dropBlankLines first ++ second := by
  induction first using lineEnd_induction with
  | settled bytes none =>
    rw [dropBlankLines_of_none none] at ended ⊢
    exact dropBlankLines_of_none (blankLine?_append_of_mem ended none)
  | ended ending isEnd rest ih =>
    rw [dropBlankLines_lineEnd isEnd] at ended
    rw [List.append_assoc, dropBlankLines_lineEnd isEnd, dropBlankLines_lineEnd isEnd, ih ended]

end Switchboard.Block
