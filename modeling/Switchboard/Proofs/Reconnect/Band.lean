/-
**The band in which a delay lies.**

The delay behind a failed attempt is drawn from the upper half of a base that doubles from one
failure to the next, up to the greatest delay. `delay_in_band` says so for all settings whose delays
are words of 64 bits, and also that the computation in words comes to this delay
(`delayInWords?`): no step overflows, loses bits or draws from an empty range. Only the product of
the initial delay may be too long for a length of time, and then the greatest delay is shorter
anyway.

* `base_ofSettings`: the base over the integers;
* `delayInWords?_eq`: the computation in words.
-/

import Mathlib
import Switchboard.Reconnect
import Switchboard.Time.Span

namespace Switchboard

namespace ReconnectSettings

/-- The base of the delay behind a failed attempt, over the integers. -/
def base (settings : ReconnectSettings) (attempt : Nat) : Nat :=
  min (settings.initialDelayMs * 2 ^ min (max attempt 1 - 1) 20)
    (max settings.initialDelayMs settings.maxDelayMs)

variable (settings : ReconnectSettings)

/-- The base does not decrease from one attempt to a later one. -/
theorem base_mono : Monotone settings.base := by
  intro earlier later order
  refine min_le_min_right _ (Nat.mul_le_mul_left _ (Nat.pow_le_pow_right two_pos ?_))
  exact min_le_min_right _ (Nat.sub_le_sub_right (max_le_max_right _ order) 1)

theorem base_le (attempt : Nat) :
    settings.base attempt ≤ max settings.initialDelayMs settings.maxDelayMs :=
  min_le_right _ _

end ReconnectSettings

namespace ReconnectPolicy

variable {settings : ReconnectSettings}

/-! ### The delay as a number -/

theorem doublings_eq (attempt : Nat) : doublings attempt = min (max attempt 1 - 1) 20 := by
  unfold doublings
  congr 1
  omega

/-- The base of a policy is that of its settings: neither the cut of a product that is too long nor
the word that it is handed on in changes it. -/
theorem base_ofSettings (initialFits : settings.initialDelayMs < wordCount 64)
    (greatestFits : settings.maxDelayMs < wordCount 64) (attempt : Nat) :
    (ofSettings settings).base attempt = settings.base attempt := by
  have greatest : max settings.initialDelayMs settings.maxDelayMs < wordCount 64 :=
    max_lt initialFits greatestFits
  have longest : wordCount 64 ≤ longestDuration := by decide
  have fits : settings.base attempt < wordCount 64 := (settings.base_le attempt).trans_lt greatest
  calc (ofSettings settings).base attempt
      = toWord (min (min (settings.initialDelayMs * 2 ^ doublings attempt) longestDuration)
          (max settings.maxDelayMs settings.initialDelayMs)) := rfl
    _ = toWord (settings.base attempt) := by
      rw [doublings_eq, max_comm settings.maxDelayMs, min_assoc,
        min_eq_right (greatest.le.trans longest)]
      rfl
    _ = settings.base attempt := Nat.mod_eq_of_lt fits

variable {policy : ReconnectPolicy} {attempt : Nat}

theorem delay_of_small (small : policy.base attempt < 2) (draw : Nat) :
    policy.delay attempt draw = policy.base attempt := by
  unfold delay band
  dsimp only
  rw [if_pos small, Nat.sub_self, Nat.zero_add, Nat.mod_one, Nat.add_zero]

theorem delay_of_large (large : ¬ policy.base attempt < 2) (draw : Nat) :
    policy.delay attempt draw =
      policy.base attempt / 2 + draw % (policy.base attempt - policy.base attempt / 2 + 1) := by
  unfold delay band
  dsimp only
  rw [if_neg large]

/-- Whatever is drawn, the delay lies between half of the base and the base. -/
theorem half_base_le_delay (policy : ReconnectPolicy) (attempt draw : Nat) :
    policy.base attempt / 2 ≤ policy.delay attempt draw := by
  by_cases small : policy.base attempt < 2
  · rw [delay_of_small small]
    exact Nat.div_le_self _ _
  · rw [delay_of_large small]
    exact Nat.le_add_right _ _

theorem delay_le_base (policy : ReconnectPolicy) (attempt draw : Nat) :
    policy.delay attempt draw ≤ policy.base attempt := by
  by_cases small : policy.base attempt < 2
  · exact (delay_of_small small draw).le
  · have drawn := Nat.mod_lt draw (Nat.succ_pos (policy.base attempt - policy.base attempt / 2))
    calc policy.delay attempt draw
        ≤ policy.base attempt / 2 + (policy.base attempt - policy.base attempt / 2) := by
          rw [delay_of_large small]
          exact Nat.add_le_add_left (Nat.le_of_lt_succ drawn) _
      _ = policy.base attempt := Nat.add_sub_of_le (Nat.div_le_self _ _)

/-- Every delay of the band is that of some draw. -/
theorem exists_draw {millis : Nat} (low : policy.base attempt / 2 ≤ millis)
    (high : millis ≤ policy.base attempt) (large : ¬ policy.base attempt < 2) :
    ∃ draw, policy.delay attempt draw = millis := by
  refine ⟨millis - policy.base attempt / 2, ?_⟩
  rw [delay_of_large large, Nat.mod_eq_of_lt (Nat.lt_succ_of_le (Nat.sub_le_sub_right high _)),
    Nat.add_sub_of_le low]

/-! ### The delay in words -/

/-- How often the base is doubled, as a factor: a word of 32 bits with one bit, which is shifted by
less than its width. -/
def factor? (attempt : Nat) : Option Nat :=
  if doublings attempt < 32 then word? 32 (2 ^ doublings attempt) else none

/-- A draw from a range of words, which may not be empty. -/
def drawn? (low high draw : Nat) : Option Nat :=
  if low ≤ high then some (low + draw % (high - low + 1)) else none

/-- The delay behind a failed attempt, computed in words from the settings. -/
def delayInWords? (settings : ReconnectSettings) (attempt draw : Nat) : Option Span := do
  let initial ← Span.ofMillis? settings.initialDelayMs
  let greatest ← Span.ofMillis? settings.maxDelayMs
  let factor ← factor? attempt
  let product ← initial.timesSaturating? factor
  let base := product.shorter (greatest.longer initial)
  let millis ← base.millis?
  if millis < 2 then return base
  let drawn ← drawn? (millis / 2) millis draw
  Span.ofMillis? drawn

theorem factor?_eq (attempt : Nat) :
    factor? attempt = some (2 ^ doublings attempt) ∧ 2 ^ doublings attempt < wordCount 32 := by
  have few : doublings attempt ≤ 20 := min_le_right _ _
  have small : 2 ^ doublings attempt < wordCount 32 :=
    (Nat.pow_le_pow_right two_pos few).trans_lt (by decide)
  refine ⟨?_, small⟩
  rw [factor?, if_pos (few.trans_lt (by decide)), word?_of_lt small]

/-- In words the base comes to that of the settings, in whole milliseconds. -/
theorem total_base {initial greatest product : Span}
    (initialTotal : initial.total = settings.initialDelayMs * nanosPerMilli)
    (greatestTotal : greatest.total = settings.maxDelayMs * nanosPerMilli)
    (productTotal :
      product.total = min (initial.total * 2 ^ doublings attempt) Span.longest.total) :
    (product.shorter (greatest.longer initial)).total = settings.base attempt * nanosPerMilli := by
  have cut := (greatest.longer initial).total_le_longest
  rw [Span.total_shorter, productTotal, min_assoc, min_eq_right cut, Span.total_longer,
    greatestTotal, initialTotal, Nat.mul_right_comm, Nat.mul_max_mul_right, Nat.mul_min_mul_right,
    max_comm, doublings_eq]
  rfl

/-- **No step goes wrong.** In words the delay is computed, and it is the delay of the policy. -/
theorem exists_delayInWords? (initialFits : settings.initialDelayMs < wordCount 64)
    (greatestFits : settings.maxDelayMs < wordCount 64) (attempt draw : Nat) :
    ∃ span, delayInWords? settings attempt draw = some span ∧
      span.total = (ofSettings settings).delay attempt draw * nanosPerMilli := by
  have same := base_ofSettings initialFits greatestFits attempt
  have baseFits : settings.base attempt < wordCount 64 :=
    (settings.base_le attempt).trans_lt (max_lt initialFits greatestFits)
  obtain ⟨initial, initialMade, initialTotal⟩ := Span.exists_ofMillis? initialFits
  obtain ⟨greatest, greatestMade, greatestTotal⟩ := Span.exists_ofMillis? greatestFits
  obtain ⟨factor, factorFits⟩ := factor?_eq attempt
  obtain ⟨product, multiplied, productTotal⟩ := initial.exists_timesSaturating? factorFits
  have total := total_base initialTotal greatestTotal productTotal
  have millis := Span.millis?_of_total baseFits total
  -- Each step has its word; what is left is whether a draw is made.
  unfold delayInWords?
  simp only [initialMade, greatestMade, factor, multiplied, millis, Option.bind_eq_bind,
    Option.bind_some]
  by_cases small : settings.base attempt < 2
  · rw [if_pos small]
    refine ⟨_, rfl, ?_⟩
    rw [total, delay_of_small (same.symm ▸ small), same]
  · rw [if_neg small, drawn?, if_pos (Nat.div_le_self _ _), Option.bind_some]
    have drawn := delay_of_large (same.symm ▸ small) draw
    rw [same] at drawn
    rw [← drawn]
    refine Span.exists_ofMillis? (lt_of_le_of_lt ?_ baseFits)
    exact same ▸ delay_le_base _ attempt draw

/-- **A delay lies in its band, and nothing overflows on the way.** Whatever words of 64 bits the
delays of the settings are, whichever attempt has failed and whatever is drawn, the delay lies
between half of the base and the base, and it is the base where the base is less than two
milliseconds. Every delay in between may be drawn. In words it is computed without a step that
overflows, loses bits or draws from an empty range. The base does not decrease from one attempt to a
later one, and the delay never exceeds the greater one of the two delays that are set. -/
theorem delay_in_band (initialFits : settings.initialDelayMs < wordCount 64)
    (greatestFits : settings.maxDelayMs < wordCount 64) (attempt draw : Nat) :
    let base := settings.base attempt
    let delay := (ofSettings settings).delay attempt
    base / 2 ≤ delay draw ∧ delay draw ≤ base ∧ (base < 2 → delay draw = base) ∧
    (¬ base < 2 → ∀ millis, base / 2 ≤ millis → millis ≤ base → ∃ other, delay other = millis) ∧
    (∃ span, delayInWords? settings attempt draw = some span ∧
      span.total = delay draw * nanosPerMilli) ∧
    (∀ later, attempt ≤ later → base ≤ settings.base later) ∧
    delay draw ≤ max settings.initialDelayMs settings.maxDelayMs := by
  intro base delay
  have same : (ofSettings settings).base attempt = base :=
    base_ofSettings initialFits greatestFits attempt
  have low : base / 2 ≤ delay draw := same ▸ half_base_le_delay _ attempt draw
  have high : delay draw ≤ base := same ▸ delay_le_base _ attempt draw
  refine ⟨low, high, fun small => ?_, fun large millis above below => ?_,
    exists_delayInWords? initialFits greatestFits attempt draw,
    fun later order => settings.base_mono order, high.trans (settings.base_le attempt)⟩
  · exact (delay_of_small (same.symm ▸ small) draw).trans same
  · exact exists_draw (same.symm ▸ above) (same.symm ▸ below) (same.symm ▸ large)

/-- The longest delays that there are. -/
def boundless : ReconnectSettings :=
  { initialDelayMs := wordCount 64 - 1, maxDelayMs := wordCount 64 - 1, maxAttempts := 0 }

theorem delay_in_band_boundless :
    boundless.base 4294967295 = 18446744073709551615 ∧
    9223372036854775807 ≤ (ofSettings boundless).delay 4294967295 7 ∧
    (ofSettings boundless).delay 4294967295 7 ≤ 18446744073709551615 ∧
    ∃ span, delayInWords? boundless 4294967295 7 = some span := by
  have base : boundless.base 4294967295 = 18446744073709551615 := by decide
  obtain ⟨low, high, -, -, ⟨span, computed, -⟩, -⟩ :=
    @delay_in_band boundless (by decide) (by decide) 4294967295 7
  rw [base] at low high
  exact ⟨base, low, high, span, computed⟩

end ReconnectPolicy

end Switchboard
