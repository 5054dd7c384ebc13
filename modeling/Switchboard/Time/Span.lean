/-
**Lengths of time, word by word.**

A length of time is kept as whole seconds in a word of 64 bits and the nanoseconds of one second
more. What is computed with it is computed in words, and each step here says whether its word holds
the number: `none` stands for one that does not fit. A product alone may be too long; it is cut to
the longest length there is.

* `word?`: a number as a word;
* `Span.ofMillis?`, `Span.millis?`: milliseconds as a length of time, and back;
* `Span.timesSaturating?`, `Span.shorter`, `Span.longer`;
* `Span.total`: all its nanoseconds, which tell what each operation does.
-/

import Switchboard.Number.Word

namespace Switchboard

/-- A number as a word of some count of bits, if it fits. -/
def word? (bits n : Nat) : Option Nat :=
  if n < wordCount bits then some n else none

theorem word?_of_lt {bits n : Nat} (small : n < wordCount bits) : word? bits n = some n :=
  if_pos small

theorem word?_of_le {bits n : Nat} (large : wordCount bits ≤ n) : word? bits n = none :=
  if_neg (Nat.not_lt.mpr large)

/-- A sum fits exactly when it fits added to what fits itself. -/
theorem word?_add (bits first second : Nat) :
    ((word? bits first).bind fun n => word? bits (n + second)) = word? bits (first + second) := by
  by_cases small : first < wordCount bits
  · rw [word?_of_lt small, Option.bind_some]
  · have large := Nat.not_lt.mp small
    rw [word?_of_le large, word?_of_le (Nat.le_trans large (Nat.le_add_right _ _)),
      Option.bind_none]

/-- How many nanoseconds make a second. -/
def nanosPerSecond : Nat := 1000000000

/-- How many nanoseconds make a millisecond. -/
def nanosPerMilli : Nat := 1000000

/-- A length of time. -/
structure Span where
  seconds : Nat
  nanos : Nat
  seconds_lt : seconds < wordCount 64
  nanos_lt : nanos < nanosPerSecond
  deriving DecidableEq

namespace Span

/-- Seconds and nanoseconds as a length of time, if each is in its bounds. -/
def new? (seconds nanos : Nat) : Option Span :=
  if bounds : seconds < wordCount 64 ∧ nanos < nanosPerSecond then
    some ⟨seconds, nanos, bounds.1, bounds.2⟩
  else none

/-- The longest length of time. -/
def longest : Span :=
  ⟨wordCount 64 - 1, nanosPerSecond - 1, by decide, by decide⟩

/-- Milliseconds as a length of time. -/
def ofMillis? (millis : Nat) : Option Span :=
  (word? 32 (millis % 1000 * nanosPerMilli)).bind (new? (millis / 1000))

/-- The whole milliseconds of a length of time: counted in a word of 128 bits, and handed on in one
of 64. -/
def millis? (span : Span) : Option Nat :=
  (word? 128 (span.seconds * 1000 + span.nanos / nanosPerMilli)).bind (word? 64)

/-- A length of time taken several times, or the longest one if the seconds do not fit. -/
def timesSaturating? (span : Span) (factor : Nat) : Option Span :=
  (word? 64 (span.nanos * factor)).bind fun nanos =>
    match (word? 64 (span.seconds * factor)).bind
      fun seconds => word? 64 (seconds + nanos / nanosPerSecond) with
    | none => some longest
    | some seconds => new? seconds (nanos % nanosPerSecond)

/-- Whether one length of time is shorter than another: the seconds count first. -/
def isShorter (first second : Span) : Bool :=
  first.seconds < second.seconds || first.seconds == second.seconds && first.nanos < second.nanos

/-- The shorter one of two. -/
def shorter (first second : Span) : Span :=
  if second.isShorter first then second else first

/-- The longer one of two. -/
def longer (first second : Span) : Span :=
  if second.isShorter first then first else second

/-! ### All nanoseconds -/

/-- All nanoseconds of a length of time. -/
def total (span : Span) : Nat :=
  span.seconds * nanosPerSecond + span.nanos

theorem total_le_longest (span : Span) : span.total ≤ longest.total := by
  have seconds := span.seconds_lt
  have nanos := span.nanos_lt
  calc span.total ≤ (wordCount 64 - 1) * nanosPerSecond + (nanosPerSecond - 1) :=
        Nat.add_le_add (Nat.mul_le_mul_right _ (Nat.le_sub_one_of_lt seconds))
          (Nat.le_sub_one_of_lt nanos)
    _ = longest.total := rfl

theorem exists_new? {seconds nanos : Nat} (secondsFit : seconds < wordCount 64)
    (nanosFit : nanos < nanosPerSecond) :
    ∃ span, new? seconds nanos = some span ∧ span.total = seconds * nanosPerSecond + nanos :=
  ⟨⟨seconds, nanos, secondsFit, nanosFit⟩, dif_pos ⟨secondsFit, nanosFit⟩, rfl⟩

/-- Milliseconds in a word are a length of time. -/
theorem exists_ofMillis? {millis : Nat} (small : millis < wordCount 64) :
    ∃ span, ofMillis? millis = some span ∧ span.total = millis * nanosPerMilli := by
  have fraction : millis % 1000 * nanosPerMilli < nanosPerSecond := by
    unfold nanosPerMilli nanosPerSecond
    omega
  have word : millis % 1000 * nanosPerMilli < wordCount 32 :=
    Nat.lt_trans fraction (by decide)
  have seconds : millis / 1000 < wordCount 64 := Nat.lt_of_le_of_lt (Nat.div_le_self _ _) small
  obtain ⟨span, made, total⟩ := exists_new? seconds fraction
  refine ⟨span, ?_, ?_⟩
  · rw [ofMillis?, word?_of_lt word, Option.bind_some, made]
  · rw [total]
    unfold nanosPerMilli nanosPerSecond
    omega

theorem millis_of_total {span : Span} {millis : Nat}
    (whole : span.total = millis * nanosPerMilli) :
    span.seconds * 1000 + span.nanos / nanosPerMilli = millis := by
  have inMillis : span.nanos + span.seconds * 1000 * nanosPerMilli = millis * nanosPerMilli := by
    rw [← whole, total, Nat.mul_assoc, Nat.add_comm]
    rfl
  calc span.seconds * 1000 + span.nanos / nanosPerMilli
      = (span.nanos + span.seconds * 1000 * nanosPerMilli) / nanosPerMilli := by
        rw [Nat.add_mul_div_right _ _ (by decide), Nat.add_comm]
    _ = millis := by rw [inMillis, Nat.mul_div_cancel _ (by decide)]

/-- The milliseconds of a length of time are found again if they fit into a word. -/
theorem millis?_of_total {span : Span} {millis : Nat} (small : millis < wordCount 64)
    (whole : span.total = millis * nanosPerMilli) : span.millis? = some millis := by
  rw [millis?, millis_of_total whole, word?_of_lt (Nat.lt_trans small (by decide)),
    Option.bind_some, word?_of_lt small]

theorem isShorter_iff {first second : Span} :
    first.isShorter second = true ↔ first.total < second.total := by
  have nanosFirst := first.nanos_lt
  have nanosSecond := second.nanos_lt
  unfold isShorter total
  unfold nanosPerSecond at *
  simp only [Bool.or_eq_true, Bool.and_eq_true, decide_eq_true_eq, beq_iff_eq]
  omega

theorem total_shorter (first second : Span) :
    (first.shorter second).total = min first.total second.total := by
  unfold shorter
  split
  · next shorter => exact (Nat.min_eq_right (Nat.le_of_lt (isShorter_iff.mp shorter))).symm
  · next longer =>
    exact (Nat.min_eq_left (Nat.not_lt.mp fun less => longer (isShorter_iff.mpr less))).symm

theorem total_longer (first second : Span) :
    (first.longer second).total = max first.total second.total := by
  unfold longer
  split
  · next shorter => exact (Nat.max_eq_left (Nat.le_of_lt (isShorter_iff.mp shorter))).symm
  · next longer =>
    exact (Nat.max_eq_right (Nat.not_lt.mp fun less => longer (isShorter_iff.mpr less))).symm

/-- A product is the product, cut to the longest length of time. -/
theorem exists_timesSaturating? (span : Span) {factor : Nat} (small : factor < wordCount 32) :
    ∃ product, span.timesSaturating? factor = some product ∧
      product.total = min (span.total * factor) longest.total := by
  have word : span.nanos * factor < wordCount 64 :=
    calc span.nanos * factor ≤ nanosPerSecond * wordCount 32 :=
          Nat.mul_le_mul (Nat.le_of_lt span.nanos_lt) (Nat.le_of_lt small)
      _ < wordCount 64 := by decide
  have nanosFit : span.nanos * factor % nanosPerSecond < nanosPerSecond :=
    Nat.mod_lt _ (by decide)
  -- The seconds that the machine adds up, and the nanoseconds left over, are the whole product.
  have whole : span.total * factor =
      (span.seconds * factor + span.nanos * factor / nanosPerSecond) * nanosPerSecond +
        span.nanos * factor % nanosPerSecond := by
    have split := Nat.div_add_mod' (span.nanos * factor) nanosPerSecond
    rw [Nat.add_mul, Nat.add_assoc, split, total, Nat.add_mul, Nat.mul_right_comm]
  rw [timesSaturating?, word?_of_lt word, Option.bind_some, word?_add]
  by_cases secondsFit :
      span.seconds * factor + span.nanos * factor / nanosPerSecond < wordCount 64
  · obtain ⟨product, made, total⟩ := exists_new? secondsFit nanosFit
    rw [word?_of_lt secondsFit]
    refine ⟨product, made, ?_⟩
    rw [whole, ← total, Nat.min_eq_left product.total_le_longest]
  · have long := Nat.not_lt.mp secondsFit
    rw [word?_of_le long]
    refine ⟨longest, rfl, (Nat.min_eq_right ?_).symm⟩
    calc longest.total ≤ wordCount 64 * nanosPerSecond := by decide
      _ ≤ _ := Nat.mul_le_mul_right _ long
      _ ≤ span.total * factor := whole ▸ Nat.le_add_right _ _

end Span

end Switchboard
