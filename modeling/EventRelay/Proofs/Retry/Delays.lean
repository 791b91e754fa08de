import EventRelay.Proofs.Draw
import EventRelay.Proofs.Retry.Duration
import Mathlib.Order.Monotone.Defs

set_option autoImplicit false

/-!
The pauses between attempts, computed in machine words. The pause doubles and stops at the cap,
which is so far below the greatest length that the random part can be added to it; and the
milliseconds of it fit into a word. So the computing never stops the program, and what comes out is
one of the pauses of the policy in nanoseconds, and each of them comes out for some random words.
-/
namespace EventRelay

namespace Pause
variable {pause : Pause} {length : Nat}

/-- A length is one of those that may be drawn. -/
def Holds (pause : Pause) (length : Nat) : Prop :=
  ∃ extra < max pause.spread 1, length = pause.least + extra * RetryPolicy.millisecond

def drawn (pause : Pause) (words : Words) : Nat :=
  pause.least + (Draw.below 64 pause.spread words).1 * RetryPolicy.millisecond

theorem holds_drawn (pause : Pause) (words : Words) : pause.Holds (pause.drawn words) := by
  refine ⟨_, ?_, rfl⟩
  by_cases nothing : pause.spread = 0
  · rw [nothing, Draw.below_zero]
    decide
  · have below := Draw.below_lt (Nat.pos_of_ne_zero nothing) words
    omega

theorem Holds.exists_drawn_eq (held : pause.Holds length) (few : pause.spread < Nat.pow 2 64) :
    ∃ words, pause.drawn words = length := by
  obtain ⟨extra, possible, rfl⟩ := held
  by_cases nothing : pause.spread = 0
  · obtain rfl : extra = 0 := by omega
    exact ⟨[], by rw [drawn, nothing, Draw.below_zero]⟩
  · obtain ⟨words, value⟩ := Draw.exists_below_eq few (by omega : extra < pause.spread)
    exact ⟨words, by rw [drawn, value]⟩

end Pause

namespace RetryPolicy
variable {policy : RetryPolicy} {attempt length : Nat}

theorem factor_eq_min (attempt : Nat) :
    factor attempt = min (Nat.pow 2 (attempt - 1)) (Nat.pow 2 32 - 1) := by
  unfold factor
  split
  · rename_i small
    have below : Nat.pow 2 (attempt - 1) < Nat.pow 2 32 := Nat.pow_lt_pow_right (by decide) small
    exact (Nat.min_eq_left (Nat.le_pred_of_lt below)).symm
  · rename_i great
    have above : Nat.pow 2 32 ≤ Nat.pow 2 (attempt - 1) :=
      Nat.pow_le_pow_right (by decide) (Nat.not_lt.mp great)
    exact (Nat.min_eq_right (Nat.le_trans (Nat.sub_le ..) above)).symm

theorem delay_le_cap : policy.delay attempt ≤ policy.cap := Nat.min_le_right ..

theorem delay_one (policy : RetryPolicy) : policy.delay 1 = policy.base := by
  have once : factor 1 = 1 := rfl
  rw [delay, once, Nat.mul_one]
  exact Nat.min_eq_left policy.ordered

/-- Later attempts wait at least as long. -/
theorem delay_mono (policy : RetryPolicy) : Monotone policy.delay := by
  intro early late before
  have doubled : Nat.pow 2 (early - 1) ≤ Nat.pow 2 (late - 1) :=
    Nat.pow_le_pow_right (by decide) (Nat.sub_le_sub_right before 1)
  have factors : factor early ≤ factor late := by
    rw [factor_eq_min, factor_eq_min]
    omega
  have products := Nat.mul_le_mul_left policy.base factors
  unfold delay
  omega

theorem isSome_next?_iff (error : FunctionError) : (policy.next? attempt error).isSome = true ↔
    error.isRetryable = true ∧ attempt < policy.maxAttempts := by
  unfold next?
  split
  · rename_i givesUp
    simp only [Option.isSome_none, Bool.false_eq_true, false_iff, not_and, Nat.not_lt]
    exact fun retryable => givesUp.resolve_left (not_not_intro retryable)
  · rename_i goesOn
    rw [not_or, not_not, Nat.not_le] at goesOn
    simp only [Option.isSome_some, true_iff]
    exact goesOn

theorem eq_pause_of_next? {error : FunctionError} {pause : Pause}
    (again : policy.next? attempt error = some pause) : pause = policy.pause attempt := by
  unfold next? at again
  split at again
  · cases again
  · exact (Option.some.inj again).symm

theorem bounds_of_holds (held : (policy.pause attempt).Holds length) :
    policy.delay attempt ≤ length ∧
    (policy.delay attempt < 10 * millisecond → length = policy.delay attempt) ∧
    (10 * millisecond ≤ policy.delay attempt →
      10 * (length - policy.delay attempt) < policy.delay attempt) := by
  obtain ⟨extra, few, rfl⟩ := held
  simp only [pause, millisecond] at few ⊢
  omega

end RetryPolicy

/-- A policy for failed deliveries, in machine words. -/
structure TimedPolicy where
  maxAttempts : UInt32
  base : Duration
  cap : Duration
deriving DecidableEq, Repr

namespace TimedPolicy

def of (maxAttempts : UInt32) (base cap : Duration) : TimedPolicy where
  maxAttempts := max maxAttempts 1
  base
  cap := max cap base

def ofSettings (retries : RetrySettings) : TimedPolicy :=
  of retries.attempts (.ofMillis retries.baseDelayMs) (.ofMillis retries.maxDelayMs)

/-- One shifted by so many places, which are to be fewer than a half word has. -/
def shifted? (places : UInt32) : Option UInt32 :=
  if places < 32 then some (1 <<< places) else none

/-- How many attempts came before; none did before the attempt zero. -/
def before (attempt : UInt32) : UInt32 := if attempt = 0 then 0 else attempt - 1

/-- The factor of the base: one shifted, or else the greatest half word. -/
def factor (attempt : UInt32) : UInt32 := (shifted? (before attempt)).getD 4294967295

def delay (timed : TimedPolicy) (attempt : UInt32) : Duration :=
  min (timed.base.times (factor attempt)) timed.cap

def spread (timed : TimedPolicy) (attempt : UInt32) : UInt64 :=
  (timed.delay attempt).millisWord / 10

/-- A random number below a bound. Below zero there is none to draw. -/
def drawn? (bound : UInt64) (words : Words) : Option UInt64 :=
  if bound = 0 then none else some (.ofNat (Draw.below 64 bound.toNat words).1)

/-- The pause with the random part, unless computing it stops the program. -/
def backoff? (timed : TimedPolicy) (attempt : UInt32) (words : Words) : Option Duration :=
  if timed.spread attempt = 0 then some (timed.delay attempt)
  else (drawn? (timed.spread attempt) words).bind fun extra =>
    (timed.delay attempt).plus? (.ofMillis extra)

/-- The pause before the next attempt if there is to be one, unless computing it stops the
program. -/
def next? (timed : TimedPolicy) (attempt : UInt32) (error : FunctionError) (words : Words) :
    Option (Option Duration) :=
  if ¬ error.isRetryable ∨ timed.maxAttempts ≤ attempt then some none
  else (timed.backoff? attempt words).map some

/-- A policy in machine words is the one in nanoseconds, with a cap whose milliseconds are a
word. -/
structure Tells (timed : TimedPolicy) (policy : RetryPolicy) : Prop where
  maxAttempts : timed.maxAttempts.toNat = policy.maxAttempts
  base : timed.base.toNat = policy.base
  cap : timed.cap.toNat = policy.cap
  short : policy.cap ≤ (Nat.pow 2 64 - 1) * RetryPolicy.millisecond

theorem tells_ofSettings (retries : RetrySettings) :
    (ofSettings retries).Tells (.ofSettings retries) where
  maxAttempts := value_greater (fun _ _ => UInt32.le_iff_toNat_le) retries.attempts 1
  base := Duration.toNat_ofMillis _
  cap := by
    change
      (max (Duration.ofMillis retries.maxDelayMs) (Duration.ofMillis retries.baseDelayMs)).toNat =
        max (retries.maxDelayMs.toNat * 1000000) (retries.baseDelayMs.toNat * 1000000)
    rw [Duration.toNat_max, Duration.toNat_ofMillis, Duration.toNat_ofMillis]
  short := by
    have most := retries.maxDelayMs.toNat_lt
    have base := retries.baseDelayMs.toNat_lt
    refine Nat.max_le.mpr ⟨Nat.mul_le_mul_right _ ?_, Nat.mul_le_mul_right _ ?_⟩
    · exact Nat.le_pred_of_lt most
    · exact Nat.le_pred_of_lt base

theorem toNat_before (attempt : UInt32) : (before attempt).toNat = attempt.toNat - 1 := by
  unfold before
  split
  · rename_i zero
    rw [zero]
    rfl
  · rename_i later
    have least : 1 ≤ attempt.toNat := by
      have positive := mt UInt32.toNat_inj.mp later
      change attempt.toNat ≠ 0 at positive
      omega
    exact UInt32.toNat_sub_of_le _ _ (UInt32.le_iff_toNat_le.mpr least)

theorem toNat_factor (attempt : UInt32) :
    (factor attempt).toNat = RetryPolicy.factor attempt.toNat := by
  have small : before attempt < 32 ↔ attempt.toNat - 1 < 32 := by
    rw [UInt32.lt_iff_toNat_lt, toNat_before]
    exact Iff.rfl
  unfold factor shifted? RetryPolicy.factor
  by_cases shifts : attempt.toNat - 1 < 32
  · have fits : Nat.pow 2 (attempt.toNat - 1) < Nat.pow 2 32 :=
      Nat.pow_lt_pow_right (by decide) shifts
    rw [if_pos (small.mpr shifts), if_pos shifts, Option.getD_some, UInt32.toNat_shiftLeft,
      toNat_before, Nat.mod_eq_of_lt shifts, Nat.shiftLeft_eq]
    change 1 * Nat.pow 2 (attempt.toNat - 1) % Nat.pow 2 32 = _
    rw [Nat.one_mul]
    exact Nat.mod_eq_of_lt fits
  · rw [if_neg (mt small.mp shifts), if_neg shifts, Option.getD_none]
    rfl

theorem exists_drawn? {bound : UInt64} (nonzero : bound ≠ 0) (words : Words) :
    ∃ extra, drawn? bound words = some extra ∧
      extra.toNat = (Draw.below 64 bound.toNat words).1 := by
  have positive : 0 < bound.toNat := by
    have unlike := mt UInt64.toNat_inj.mp nonzero
    change bound.toNat ≠ 0 at unlike
    omega
  have below := Draw.below_lt positive words
  exact ⟨_, if_neg nonzero, UInt64.toNat_ofNat_of_lt' (Nat.lt_trans below bound.toNat_lt)⟩

section Told
variable {timed : TimedPolicy} {policy : RetryPolicy} (tells : timed.Tells policy)
  (attempt : UInt32) {error : FunctionError} {words : Words}
include tells

/-- The product may stop at the greatest length, but the cap is below that. -/
theorem Tells.toNat_delay : (timed.delay attempt).toNat = policy.delay attempt.toNat := by
  have within : policy.cap ≤ Duration.greatest.toNat := tells.cap ▸ timed.cap.toNat_le_greatest
  rw [delay, Duration.toNat_min, Duration.toNat_times, toNat_factor, tells.base, tells.cap,
    Nat.min_assoc, Nat.min_eq_right within]
  rfl

theorem Tells.toNat_millisWord : (timed.delay attempt).millisWord.toNat =
    policy.delay attempt.toNat / RetryPolicy.millisecond := by
  have short : policy.delay attempt.toNat ≤ (Nat.pow 2 64 - 1) * RetryPolicy.millisecond :=
    Nat.le_trans RetryPolicy.delay_le_cap tells.short
  have fits : (timed.delay attempt).toNat / 1000000 < Nat.pow 2 64 := by
    rw [tells.toNat_delay]
    exact Nat.lt_of_le_pred (by decide) (Nat.div_le_of_le_mul (Nat.mul_comm .. ▸ short))
  rw [Duration.toNat_millisWord fits, tells.toNat_delay]
  rfl

theorem Tells.toNat_spread :
    (timed.spread attempt).toNat = (policy.pause attempt.toNat).spread := by
  rw [spread, UInt64.toNat_div, tells.toNat_millisWord]
  rfl

theorem Tells.exists_backoff? (words : Words) : ∃ d, timed.backoff? attempt words = some d ∧
    d.toNat = (policy.pause attempt.toNat).drawn words := by
  have spread := tells.toNat_spread attempt
  unfold backoff? Pause.drawn
  rw [← spread]
  split
  · rename_i zero
    have nothing : (timed.spread attempt).toNat = 0 := by rw [zero]; rfl
    refine ⟨_, rfl, ?_⟩
    rw [nothing, Draw.below_zero, Nat.zero_mul]
    exact tells.toNat_delay attempt
  · rename_i nonzero
    obtain ⟨extra, found, value⟩ := exists_drawn? nonzero words
    have sum : (timed.delay attempt).toNat + (Duration.ofMillis extra).toNat ≤
        Duration.greatest.toNat := by
      have least : policy.delay attempt.toNat ≤ 18446744073709551615 * 1000000 :=
        Nat.le_trans RetryPolicy.delay_le_cap tells.short
      have few : extra.toNat < 18446744073709551616 := extra.toNat_lt
      rw [tells.toNat_delay, Duration.toNat_ofMillis]
      change _ ≤ 18446744073709551615999999999
      omega
    obtain ⟨d, added, total⟩ := Duration.exists_plus? sum
    refine ⟨d, by rw [found, Option.bind_some, added], ?_⟩
    rw [total, tells.toNat_delay, Duration.toNat_ofMillis, value]
    rfl

/-- What comes next is what comes next by the policy in nanoseconds. -/
theorem Tells.exists_next? (error : FunctionError) (words : Words) :
    ∃ found, timed.next? attempt error words = some found ∧
      found.map Duration.toNat =
        (policy.next? attempt.toNat error).map fun pause => pause.drawn words := by
  have spent : timed.maxAttempts ≤ attempt ↔ policy.maxAttempts ≤ attempt.toNat := by
    rw [UInt32.le_iff_toNat_le, tells.maxAttempts]
  unfold next? RetryPolicy.next?
  simp only [spent]
  split
  · exact ⟨none, rfl, rfl⟩
  · obtain ⟨d, computed, value⟩ := tells.exists_backoff? attempt words
    exact ⟨some d, by rw [computed, Option.map_some], by rw [Option.map_some, value]; rfl⟩

/-- Each pause of the policy comes out for some random words. -/
theorem Tells.exists_words {length : Nat} (held : (policy.pause attempt.toNat).Holds length) :
    ∃ words d, timed.backoff? attempt words = some d ∧ d.toNat = length := by
  have few : (policy.pause attempt.toNat).spread < Nat.pow 2 64 := by
    rw [← tells.toNat_spread]
    exact UInt64.toNat_lt _
  obtain ⟨words, rfl⟩ := held.exists_drawn_eq few
  exact ⟨words, tells.exists_backoff? attempt words⟩

end Told
end TimedPolicy

/-- The pause after an attempt, without the random part and in nanoseconds: the base doubled for
each attempt before, by no more than a half word, and up to the cap. -/
def RetrySettings.pauseAfter (retries : RetrySettings) (attempt : Nat) : Nat :=
  let base := retries.baseDelayMs.toNat * RetryPolicy.millisecond
  let cap := max base (retries.maxDelayMs.toNat * RetryPolicy.millisecond)
  min (base * min (Nat.pow 2 (attempt - 1)) (Nat.pow 2 32 - 1)) cap

/-- No step to the pause after an attempt runs over: each has the number that it is to have. The
product alone may stop, at the greatest length. -/
structure TimedPolicy.Exact (retries : RetrySettings) (attempt : UInt32) : Prop where
  base : (ofSettings retries).base.toNat = retries.baseDelayMs.toNat * RetryPolicy.millisecond
  cap : (ofSettings retries).cap.toNat = max (retries.baseDelayMs.toNat * RetryPolicy.millisecond)
    (retries.maxDelayMs.toNat * RetryPolicy.millisecond)
  factor : (factor attempt).toNat = min (Nat.pow 2 (attempt.toNat - 1)) (Nat.pow 2 32 - 1)
  product : ((ofSettings retries).base.times (TimedPolicy.factor attempt)).toNat =
    min ((ofSettings retries).base.toNat * (TimedPolicy.factor attempt).toNat)
      Duration.greatest.toNat
  delay : ((ofSettings retries).delay attempt).toNat = retries.pauseAfter attempt.toNat
  milliseconds : ((ofSettings retries).delay attempt).millisWord.toNat =
    retries.pauseAfter attempt.toNat / RetryPolicy.millisecond

section Configured
variable (retries : RetrySettings)

theorem RetryPolicy.delay_ofSettings : (ofSettings retries).delay = retries.pauseAfter := by
  funext attempt
  rw [delay, factor_eq_min, RetrySettings.pauseAfter]
  exact congrArg _ (Nat.max_comm ..)

theorem TimedPolicy.exact (attempt : UInt32) : Exact retries attempt := by
  have tells := tells_ofSettings retries
  refine ⟨tells.base, ?_, ?_, Duration.toNat_times .., ?_, ?_⟩
  · rw [Nat.max_comm]
    exact tells.cap
  · rw [toNat_factor, RetryPolicy.factor_eq_min]
  · rw [tells.toNat_delay, RetryPolicy.delay_ofSettings]
  · rw [tells.toNat_millisWord, RetryPolicy.delay_ofSettings]

/-- Whatever is configured, whichever attempt fails and whatever is drawn, the pause before the next
attempt is computed without running over. There is one exactly while attempts are left and the
failure may pass; it is the pause by the formula, and from ten milliseconds on less than a tenth
more. It is the base after the first attempt, and not shorter after later ones. -/
theorem RetrySettings.pauses_are_bounded (attempt : UInt32) (error : FunctionError)
    (words : Words) :
    TimedPolicy.Exact retries attempt ∧
    (∃ found, (TimedPolicy.ofSettings retries).next? attempt error words = some found ∧
      found.map Duration.toNat =
        ((RetryPolicy.ofSettings retries).next? attempt.toNat error).map (Pause.drawn · words) ∧
      (found.isSome = true ↔
        error.isRetryable = true ∧ attempt.toNat < (RetryPolicy.ofSettings retries).maxAttempts) ∧
      ∀ d ∈ found,
        retries.pauseAfter attempt.toNat ≤ d.toNat ∧
        (retries.pauseAfter attempt.toNat < 10 * RetryPolicy.millisecond →
          d.toNat = retries.pauseAfter attempt.toNat) ∧
        (10 * RetryPolicy.millisecond ≤ retries.pauseAfter attempt.toNat →
          10 * (d.toNat - retries.pauseAfter attempt.toNat) < retries.pauseAfter attempt.toNat)) ∧
    retries.pauseAfter 1 = retries.baseDelayMs.toNat * RetryPolicy.millisecond ∧
    Monotone retries.pauseAfter := by
  obtain ⟨found, computed, same⟩ :=
    (TimedPolicy.tells_ofSettings retries).exists_next? attempt error words
  rw [← RetryPolicy.delay_ofSettings]
  refine ⟨TimedPolicy.exact retries attempt, ⟨found, computed, same, ?_, ?_⟩,
    RetryPolicy.delay_one _, RetryPolicy.delay_mono _⟩
  · rw [← RetryPolicy.isSome_next?_iff, ← Option.isSome_map, same, Option.isSome_map]
  · rintro d rfl
    obtain ⟨pause, again, drawn⟩ := Option.map_eq_some_iff.mp same.symm
    rw [RetryPolicy.eq_pause_of_next? again] at drawn
    refine RetryPolicy.bounds_of_holds ?_
    rw [← drawn]
    exact Pause.holds_drawn _ words

/-- With a base of three seconds and a maximum of one the pause is always the base. -/
example : (List.range 4).map (RetrySettings.mk true 5 3000 1000).pauseAfter =
    [3000000000, 3000000000, 3000000000, 3000000000] := by decide

end Configured
end EventRelay
