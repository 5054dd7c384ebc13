/-
**What trimming leaves.**

A list of characters is its trimmed form with blanks on both sides (`exists_blanks`), and blanks on
either side are all that trimming takes (`trimChars_append`, `append_trimChars`).
-/

import Mathlib.Data.List.DropRight
import Switchboard.Text.Blank

namespace Switchboard.Text

/-! ### Members dropped at the end -/

section Trailing

variable {α : Type} {p : α → Bool} {first rest : List α}

theorem dropTrailing_append (all : ∀ member ∈ rest, p member = true) :
    dropTrailing p (first ++ rest) = dropTrailing p first := by
  unfold dropTrailing
  rw [List.reverse_append, List.dropWhile_append_of_pos]
  intro member inside
  exact all member (List.mem_reverse.mp inside)

/-- A member that stays keeps all that stand before it. -/
theorem dropTrailing_append_cons {member : α} (stays : p member = false) (rest : List α) :
    dropTrailing p (first ++ member :: rest) = first ++ member :: dropTrailing p rest := by
  induction rest using List.reverseRecOn with
  | nil => exact List.rdropWhile_concat_neg p first member (by simp [stays])
  | append_singleton rest last ih =>
    have split : first ++ member :: (rest ++ [last]) = (first ++ member :: rest) ++ [last] := by
      rw [List.append_assoc, List.cons_append]
    rw [split]
    cases drops : p last with
    | true =>
      have all : ∀ other ∈ [last], p other = true := List.forall_mem_singleton.mpr drops
      rw [dropTrailing_append all, dropTrailing_append all, ih]
    | false =>
      have kept (front : List α) : dropTrailing p (front ++ [last]) = front ++ [last] :=
        List.rdropWhile_concat_neg p front last (by simp [drops])
      rw [kept, kept, ← split]

theorem exists_trailing (p : α → Bool) (members : List α) :
    ∃ rest, (∀ member ∈ rest, p member = true) ∧ members = dropTrailing p members ++ rest := by
  refine ⟨(members.reverse.takeWhile p).reverse, ?_, ?_⟩
  · intro member inside
    exact List.mem_takeWhile_imp (List.mem_reverse.mp inside)
  · unfold dropTrailing
    rw [← List.reverse_append, List.takeWhile_append_dropWhile, List.reverse_reverse]

theorem mem_of_mem_dropTrailing {member : α} (inside : member ∈ dropTrailing p first) :
    member ∈ first := by
  obtain ⟨rest, -, split⟩ := exists_trailing p first
  rw [split]
  exact List.mem_append_left _ inside

theorem mem_dropTrailing {member : α} (inside : member ∈ first) (stays : p member = false) :
    member ∈ dropTrailing p first := by
  obtain ⟨rest, all, split⟩ := exists_trailing p first
  rw [split] at inside
  rcases List.mem_append.mp inside with front | behind
  · exact front
  · rw [all member behind] at stays
    cases stays

theorem dropTrailing_idem (members : List α) :
    dropTrailing p (dropTrailing p members) = dropTrailing p members := by
  obtain ⟨rest, all, split⟩ := exists_trailing p members
  calc dropTrailing p (dropTrailing p members)
      = dropTrailing p (dropTrailing p members ++ rest) := (dropTrailing_append all).symm
    _ = dropTrailing p members := by rw [← split]

end Trailing

/-! ### Blanks at both ends -/

variable {before chars after : List Char}

theorem append_trimChars (blank : ∀ c ∈ before, isBlank c = true) :
    trimChars (before ++ chars) = trimChars chars := by
  unfold trimChars
  rw [List.dropWhile_append_of_pos blank]

theorem trimChars_append (blank : ∀ c ∈ after, isBlank c = true) :
    trimChars (chars ++ after) = trimChars chars := by
  unfold trimChars
  rw [List.dropWhile_append]
  split
  · next empty =>
    rw [List.isEmpty_iff.mp empty, List.dropWhile_eq_nil_iff.mpr blank]
  · exact dropTrailing_append blank

theorem exists_blanks (chars : List Char) :
    ∃ before after, (∀ c ∈ before, isBlank c = true) ∧ (∀ c ∈ after, isBlank c = true) ∧
      chars = before ++ trimChars chars ++ after := by
  obtain ⟨after, blank, split⟩ := exists_trailing isBlank (chars.dropWhile isBlank)
  refine ⟨chars.takeWhile isBlank, after, fun _ => List.mem_takeWhile_imp, blank, ?_⟩
  unfold trimChars
  rw [List.append_assoc, ← split, List.takeWhile_append_dropWhile]

theorem trimChars_idem (chars : List Char) : trimChars (trimChars chars) = trimChars chars := by
  obtain ⟨before, after, blankBefore, blankAfter, split⟩ := exists_blanks chars
  calc trimChars (trimChars chars)
      = trimChars (before ++ trimChars chars ++ after) := by
        rw [trimChars_append blankAfter, append_trimChars blankBefore]
    _ = trimChars chars := by rw [← split]

theorem mem_of_mem_trimChars {c : Char} (inside : c ∈ trimChars chars) : c ∈ chars := by
  obtain ⟨before, after, -, -, split⟩ := exists_blanks chars
  rw [split]
  exact List.mem_append_left _ (List.mem_append_right _ inside)

/-- Blanks that are dropped at the end beforehand make no difference. -/
theorem trimChars_dropTrailing {p : Char → Bool} (blank : ∀ c, p c = true → isBlank c = true)
    (chars : List Char) : trimChars (dropTrailing p chars) = trimChars chars := by
  obtain ⟨rest, all, split⟩ := exists_trailing p chars
  have blankRest : ∀ c ∈ rest, isBlank c = true := fun c inside => blank c (all c inside)
  calc trimChars (dropTrailing p chars)
      = trimChars (dropTrailing p chars ++ rest) := (trimChars_append blankRest).symm
    _ = trimChars chars := by rw [← split]

/-! ### Texts that hold nothing -/

theorem nonBlank?_eq_some_iff {text kept : String} :
    nonBlank? text = some kept ↔ ¬isBlankText text ∧ text = kept := by
  unfold nonBlank?
  split
  · next blank => exact iff_of_false nofun fun both => both.1 blank
  · next filled => simp [filled]

/-- Trimming puts nothing into a text. -/
theorem isBlankText_trim {text : String} (blank : isBlankText text = true) :
    isBlankText (trim text) = true := by
  unfold isBlankText trim at *
  rw [List.all_eq_true, String.toList_ofList]
  exact fun c inside => List.all_eq_true.mp blank c (mem_of_mem_trimChars inside)

/-- What trimming leaves of a text with something in it is not blank. -/
theorem isBlankText_trim_eq (text : String) : isBlankText (trim text) = isBlankText text := by
  refine Bool.eq_iff_iff.mpr ⟨fun blank => ?_, isBlankText_trim⟩
  obtain ⟨before, after, blankBefore, blankAfter, split⟩ := exists_blanks text.toList
  unfold isBlankText trim at *
  rw [String.toList_ofList, List.all_eq_true] at blank
  rw [split, List.all_append, List.all_append, List.all_eq_true.mpr blankBefore,
    List.all_eq_true.mpr blank, List.all_eq_true.mpr blankAfter]
  rfl

end Switchboard.Text
