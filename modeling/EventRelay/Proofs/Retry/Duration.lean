import EventRelay.Retry

set_option autoImplicit false

/-!
Lengths of time in machine words: seconds in one word, and the nanoseconds of another second in half
a word. Each operation is the one on numbers of nanoseconds, up to the greatest length.
-/
namespace EventRelay

section Orders
variable {α : Type} [LE α] [DecidableLE α] {value : α → Nat}

theorem value_lesser (orders : ∀ a b, a ≤ b ↔ value a ≤ value b) (a b : α) :
    value (if a ≤ b then a else b) = min (value a) (value b) := by
  by_cases less : a ≤ b
  · rw [if_pos less]
    exact (Nat.min_eq_left ((orders a b).mp less)).symm
  · have above := mt (orders a b).mpr less
    rw [if_neg less]
    exact (Nat.min_eq_right (Nat.le_of_not_le above)).symm

theorem value_greater (orders : ∀ a b, a ≤ b ↔ value a ≤ value b) (a b : α) :
    value (if a ≤ b then b else a) = max (value a) (value b) := by
  by_cases less : a ≤ b
  · rw [if_pos less]
    exact (Nat.max_eq_right ((orders a b).mp less)).symm
  · have above := mt (orders a b).mpr less
    rw [if_neg less]
    exact (Nat.max_eq_left (Nat.le_of_not_le above)).symm

end Orders

namespace Word

/-- The product of two words, unless it runs over. -/
def times? (a b : UInt64) : Option UInt64 :=
  if a.toNat * b.toNat < Nat.pow 2 64 then some (a * b) else none

/-- The sum of two words, unless it runs over. -/
def plus? (a b : UInt64) : Option UInt64 :=
  if a.toNat + b.toNat < Nat.pow 2 64 then some (a + b) else none

section
variable {a b : UInt64}

theorem exists_times? (fits : a.toNat * b.toNat < Nat.pow 2 64) :
    ∃ product, times? a b = some product ∧ product.toNat = a.toNat * b.toNat := by
  refine ⟨a * b, if_pos fits, ?_⟩
  rw [UInt64.toNat_mul]
  exact Nat.mod_eq_of_lt fits

theorem times?_eq_none (runsOver : Nat.pow 2 64 ≤ a.toNat * b.toNat) : times? a b = none :=
  if_neg (Nat.not_lt.mpr runsOver)

theorem exists_plus? (fits : a.toNat + b.toNat < Nat.pow 2 64) :
    ∃ sum, plus? a b = some sum ∧ sum.toNat = a.toNat + b.toNat := by
  refine ⟨a + b, if_pos fits, ?_⟩
  rw [UInt64.toNat_add]
  exact Nat.mod_eq_of_lt fits

theorem plus?_eq_none (runsOver : Nat.pow 2 64 ≤ a.toNat + b.toNat) : plus? a b = none :=
  if_neg (Nat.not_lt.mpr runsOver)

end
end Word

/-- A length of time: whole seconds, and nanoseconds that do not make another one. -/
structure Duration where
  seconds : UInt64
  nanoseconds : UInt32
  proper : nanoseconds.toNat < 1000000000
deriving DecidableEq, Repr

namespace Duration

def toNat (d : Duration) : Nat := d.seconds.toNat * 1000000000 + d.nanoseconds.toNat

def greatest : Duration := ⟨18446744073709551615, 999999999, by decide⟩

theorem toNat_milliseconds (ms : UInt64) :
    ((ms % 1000).toUInt32 * 1000000).toNat = ms.toNat % 1000 * 1000000 := by
  have part : (ms % 1000).toUInt32.toNat = ms.toNat % 1000 := by
    rw [UInt64.toNat_toUInt32, UInt64.toNat_mod]
    exact Nat.mod_eq_of_lt (Nat.lt_trans (Nat.mod_lt _ (by decide)) (by decide : 1000 < 2 ^ 32))
  have small : ms.toNat % 1000 < 1000 := Nat.mod_lt _ (by decide)
  have fits : ms.toNat % 1000 * 1000000 < 2 ^ 32 := by omega
  rw [UInt32.toNat_mul, part]
  exact Nat.mod_eq_of_lt fits

def ofMillis (ms : UInt64) : Duration where
  seconds := ms / 1000
  nanoseconds := (ms % 1000).toUInt32 * 1000000
  proper := by
    rw [toNat_milliseconds]
    omega

/-- The seconds decide which of two lengths is the greater, and then the nanoseconds. -/
instance : LE Duration where
  le a b := a.seconds < b.seconds ∨ a.seconds = b.seconds ∧ a.nanoseconds ≤ b.nanoseconds

instance : DecidableLE Duration := fun _ _ => instDecidableOr

instance : Min Duration := minOfLe

instance : Max Duration := maxOfLe

theorem toNat_rest (total : UInt64) :
    (total % 1000000000).toUInt32.toNat = total.toNat % 1000000000 := by
  have small : total.toNat % 1000000000 < 1000000000 := Nat.mod_lt _ (by decide)
  change total.toNat % 1000000000 % 2 ^ 32 = total.toNat % 1000000000
  omega

/-- So many seconds, and of so many nanoseconds those that make no second. -/
def withRest (seconds total : UInt64) : Duration where
  seconds
  nanoseconds := (total % 1000000000).toUInt32
  proper := by
    rw [toNat_rest]
    omega

/-- A length so many times, unless it runs over. -/
def times? (d : Duration) (factor : UInt32) : Option Duration :=
  let total := d.nanoseconds.toUInt64 * factor.toUInt64
  (Word.times? d.seconds factor.toUInt64).bind fun whole =>
    (Word.plus? whole (total / 1000000000)).map fun seconds => withRest seconds total

/-- A length so many times, or else the greatest. -/
def times (d : Duration) (factor : UInt32) : Duration := (d.times? factor).getD greatest

theorem toNat_sum (a b : Duration) :
    (a.nanoseconds + b.nanoseconds).toNat = a.nanoseconds.toNat + b.nanoseconds.toNat := by
  have left := a.proper
  have right := b.proper
  rw [UInt32.toNat_add]
  omega

theorem toNat_carried {nanoseconds : UInt32} (carries : ¬ nanoseconds.toNat < 1000000000) :
    (nanoseconds - 1000000000).toNat = nanoseconds.toNat - 1000000000 := by
  refine UInt32.toNat_sub_of_le _ _ (UInt32.le_iff_toNat_le.mpr ?_)
  exact Nat.not_lt.mp carries

/-- The sum of two lengths, unless it runs over. -/
def plus? (a b : Duration) : Option Duration :=
  let nanoseconds := a.nanoseconds + b.nanoseconds
  (Word.plus? a.seconds b.seconds).bind fun seconds =>
    if within : nanoseconds.toNat < 1000000000 then
      some ⟨seconds, nanoseconds, within⟩
    else
      (Word.plus? seconds 1).map fun seconds =>
        { seconds
          nanoseconds := nanoseconds - 1000000000
          proper := by
            have left := a.proper
            have right := b.proper
            rw [toNat_carried within, toNat_sum]
            omega }

/-- The whole milliseconds, as a number of 128 bits. -/
def millis (d : Duration) : BitVec 128 :=
  d.seconds.toBitVec.setWidth 128 * 1000 + (d.nanoseconds / 1000000).toBitVec.setWidth 128

def millisWord (d : Duration) : UInt64 := ⟨d.millis.setWidth 64⟩

section Numbers
variable {a b d : Duration}

theorem toNat_le_greatest (d : Duration) : d.toNat ≤ greatest.toNat := by
  have whole : d.seconds.toNat < 18446744073709551616 := d.seconds.toNat_lt
  have rest := d.proper
  change d.seconds.toNat * 1000000000 + d.nanoseconds.toNat ≤ 18446744073709551615999999999
  omega

theorem toNat_ofMillis (ms : UInt64) : (ofMillis ms).toNat = ms.toNat * 1000000 := by
  change ms.toNat / 1000 * 1000000000 + ((ms % 1000).toUInt32 * 1000000).toNat = _
  rw [toNat_milliseconds]
  omega

theorem le_iff_toNat_le : a ≤ b ↔ a.toNat ≤ b.toNat := by
  have left := a.proper
  have right := b.proper
  have orders : a ≤ b ↔ a.seconds.toNat < b.seconds.toNat ∨
      a.seconds.toNat = b.seconds.toNat ∧ a.nanoseconds.toNat ≤ b.nanoseconds.toNat := by
    rw [UInt64.toNat_inj]
    exact Iff.rfl
  rw [orders, toNat, toNat]
  omega

theorem toNat_min (a b : Duration) : (min a b).toNat = min a.toNat b.toNat :=
  value_lesser (fun _ _ => le_iff_toNat_le) a b

theorem toNat_max (a b : Duration) : (max a b).toNat = max a.toNat b.toNat :=
  value_greater (fun _ _ => le_iff_toNat_le) a b

theorem toNat_withRest (seconds total : UInt64) :
    (withRest seconds total).toNat = seconds.toNat * 1000000000 + total.toNat % 1000000000 := by
  rw [toNat, withRest, toNat_rest]

theorem toNat_total (d : Duration) (factor : UInt32) :
    (d.nanoseconds.toUInt64 * factor.toUInt64).toNat = d.nanoseconds.toNat * factor.toNat := by
  have proper := d.proper
  have few : factor.toNat < 4294967296 := factor.toNat_lt
  have fits : d.nanoseconds.toNat * factor.toNat < 2 ^ 64 := by
    have most := Nat.mul_le_mul (Nat.le_of_lt proper) (Nat.le_of_lt few)
    omega
  rw [UInt64.toNat_mul, UInt32.toNat_toUInt64, UInt32.toNat_toUInt64]
  exact Nat.mod_eq_of_lt fits

theorem toNat_greatest_le {whole total : Nat}
    (runsOver : Nat.pow 2 64 ≤ whole + total / 1000000000) :
    greatest.toNat ≤ whole * 1000000000 + total := by
  change 18446744073709551616 ≤ whole + total / 1000000000 at runsOver
  change 18446744073709551615999999999 ≤ whole * 1000000000 + total
  omega

theorem toNat_times (d : Duration) (factor : UInt32) :
    (d.times factor).toNat = min (d.toNat * factor.toNat) greatest.toNat := by
  have total := toNat_total d factor
  have split : d.toNat * factor.toNat =
      d.seconds.toNat * factor.toUInt64.toNat * 1000000000 +
        d.nanoseconds.toNat * factor.toNat := by
    rw [toNat, Nat.add_mul, Nat.mul_right_comm, UInt32.toNat_toUInt64]
  rw [split, ← total, times, times?]
  generalize d.nanoseconds.toUInt64 * factor.toUInt64 = total
  have carried : (total / 1000000000).toNat = total.toNat / 1000000000 := UInt64.toNat_div _ _
  -- the whole seconds may run over by themselves, or with those of the nanoseconds
  by_cases fits : d.seconds.toNat * factor.toUInt64.toNat < Nat.pow 2 64
  · obtain ⟨whole, product, exact⟩ := Word.exists_times? fits
    rw [product, Option.bind_some, ← exact]
    by_cases within : whole.toNat + (total / 1000000000).toNat < Nat.pow 2 64
    · obtain ⟨seconds, sum, added⟩ := Word.exists_plus? within
      have value : (withRest seconds total).toNat = whole.toNat * 1000000000 + total.toNat := by
        rw [toNat_withRest, added, carried, Nat.add_mul, Nat.add_assoc, Nat.div_add_mod']
      have bound := toNat_le_greatest (withRest seconds total)
      rw [sum, Option.map_some, Option.getD_some, ← value]
      exact (Nat.min_eq_left bound).symm
    · have runsOver := Nat.not_lt.mp within
      have stops := Word.plus?_eq_none runsOver
      rw [carried] at runsOver
      rw [Nat.min_eq_right (toNat_greatest_le runsOver), stops, Option.map_none, Option.getD_none]
  · have runsOver := Nat.not_lt.mp fits
    have stops := Word.times?_eq_none runsOver
    have later := Nat.le_add_right_of_le (k := total.toNat / 1000000000) runsOver
    rw [Nat.min_eq_right (toNat_greatest_le later), stops, Option.bind_none, Option.getD_none]

theorem exists_plus? (fits : a.toNat + b.toNat ≤ greatest.toNat) :
    ∃ sum, a.plus? b = some sum ∧ sum.toNat = a.toNat + b.toNat := by
  have most : a.seconds.toNat * 1000000000 + a.nanoseconds.toNat +
      (b.seconds.toNat * 1000000000 + b.nanoseconds.toNat) ≤
        18446744073709551615999999999 := fits
  have nanoseconds := toNat_sum a b
  have whole : a.seconds.toNat + b.seconds.toNat < 18446744073709551616 := by omega
  obtain ⟨seconds, sum, added⟩ := Word.exists_plus? whole
  rw [plus?, sum, Option.bind_some]
  split
  · rename_i within
    refine ⟨_, rfl, ?_⟩
    simp only [toNat, added, nanoseconds]
    omega
  · rename_i carries
    have room : seconds.toNat + (1 : UInt64).toNat < 18446744073709551616 := by
      change seconds.toNat + 1 < 18446744073709551616
      omega
    obtain ⟨carried, carry, one⟩ := Word.exists_plus? room
    have one : carried.toNat = seconds.toNat + 1 := one
    rw [carry, Option.map_some]
    refine ⟨_, rfl, ?_⟩
    simp only [toNat, toNat_carried carries, one, added, nanoseconds]
    omega

theorem toNat_millis (d : Duration) : d.millis.toNat = d.toNat / 1000000 := by
  have whole : d.seconds.toNat < 18446744073709551616 := d.seconds.toNat_lt
  have rest := d.proper
  have part : (d.nanoseconds / 1000000).toNat = d.nanoseconds.toNat / 1000000 := rfl
  rw [millis, BitVec.toNat_add, BitVec.toNat_mul, BitVec.toNat_setWidth, BitVec.toNat_setWidth]
  change (d.seconds.toNat % 2 ^ 128 * 1000 % 2 ^ 128 +
    (d.nanoseconds / 1000000).toNat % 2 ^ 128) % 2 ^ 128 = _
  rw [part, toNat]
  omega

theorem toNat_millisWord (fits : d.toNat / 1000000 < Nat.pow 2 64) :
    d.millisWord.toNat = d.toNat / 1000000 := by
  change (d.millis.setWidth 64).toNat = _
  rw [BitVec.toNat_setWidth, toNat_millis]
  exact Nat.mod_eq_of_lt fits

end Numbers
end Duration
end EventRelay
