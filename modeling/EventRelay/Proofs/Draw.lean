import EventRelay.Draw
import Mathlib.Algebra.Order.Floor.Div
import Mathlib.Data.Set.Card
import Mathlib.Order.Interval.Finset.Nat

set_option autoImplicit false

/-!
Even draws. The words that count for an outcome follow one another, and every outcome has equally
many of them: as many as `n` can be doubled within a word. A word that does not count is passed
over.
-/
namespace EventRelay.Draw

section Widths
variable {width n value v : Nat}

theorem mul_leadingZeros_lt (positive : n ≠ 0) (fits : n < Nat.pow 2 width) :
    n * Nat.pow 2 (leadingZeros width n) < Nat.pow 2 width := by
  have short : n.log2 < width := (Nat.log2_lt positive).mpr fits
  have split : n.log2 + 1 + leadingZeros width n = width := by
    unfold leadingZeros
    omega
  calc n * Nat.pow 2 (leadingZeros width n)
      < 2 ^ (n.log2 + 1) * 2 ^ leadingZeros width n :=
        Nat.mul_lt_mul_of_pos_right Nat.lt_log2_self (Nat.two_pow_pos _)
    _ = 2 ^ width := by rw [← pow_add, split]

theorem div_eq_and_mod_lt_iff {product size bound : Nat} (within : bound ≤ size) :
    product / size = value ∧ product % size < bound ↔
      value * size ≤ product ∧ product < value * size + bound := by
  constructor
  · rintro ⟨rfl, low⟩
    have whole := Nat.div_add_mod' product size
    omega
  · rintro ⟨least, most⟩
    have high : product / size = value := by
      refine Nat.div_eq_of_lt_le least ?_
      rw [Nat.succ_mul]
      omega
    have whole := Nat.div_add_mod' product size
    rw [high] at whole
    exact ⟨high, by omega⟩

/-- The words that count for an outcome, as numbers. -/
def wordsFor (width n value : Nat) : Finset Nat :=
  Finset.Ico (value * Nat.pow 2 width ⌈/⌉ n)
    (value * Nat.pow 2 width ⌈/⌉ n + Nat.pow 2 (leadingZeros width n))

theorem card_wordsFor : (wordsFor width n value).card = Nat.pow 2 (leadingZeros width n) := by
  rw [wordsFor, Nat.card_Ico, Nat.add_sub_cancel_left]

theorem mem_wordsFor_iff (positive : 0 < n) : v ∈ wordsFor width n value ↔
    value * Nat.pow 2 width ≤ v * n ∧
      v * n < value * Nat.pow 2 width + n * Nat.pow 2 (leadingZeros width n) := by
  have reached : ∀ u, value * Nat.pow 2 width ⌈/⌉ n ≤ u ↔ value * Nat.pow 2 width ≤ u * n := by
    intro u
    rw [ceilDiv_le_iff_le_mul positive, Nat.mul_comm n]
  rw [wordsFor, Finset.mem_Ico, reached]
  generalize Nat.pow 2 (leadingZeros width n) = count at *
  refine and_congr_right fun least => ?_
  by_cases early : v < count
  · have below : v * n < n * count := by
      rw [Nat.mul_comm n]
      exact Nat.mul_lt_mul_of_pos_right early positive
    omega
  · -- as far into the words as into the products
    obtain ⟨u, rfl⟩ := Nat.exists_eq_add_of_le (Nat.not_lt.mp early)
    have before := not_congr (reached u)
    rw [Nat.not_le, Nat.not_le] at before
    rw [Nat.add_mul, Nat.mul_comm n]
    omega

theorem lt_of_mem_wordsFor (positive : 0 < n) (fits : n < Nat.pow 2 width) (possible : value < n)
    (member : v ∈ wordsFor width n value) : v < Nat.pow 2 width := by
  obtain ⟨-, most⟩ := (mem_wordsFor_iff positive).mp member
  have within := mul_leadingZeros_lt positive.ne' fits
  refine Nat.lt_of_mul_lt_mul_right (a := n) ?_
  calc v * n < value * Nat.pow 2 width + Nat.pow 2 width := by omega
    _ = (value + 1) * Nat.pow 2 width := by rw [Nat.succ_mul]
    _ ≤ Nat.pow 2 width * n := by
      rw [Nat.mul_comm]
      exact Nat.mul_le_mul_left _ possible

end Widths

section Words
variable {n value : Nat} {word : UInt64} {words : Words}

/-- Whether a word counts: the low half of its product is not beyond the zone. -/
def Counts (n : Nat) (word : UInt64) : Prop :=
  word.toNat * n % Nat.pow 2 64 ≤ n * Nat.pow 2 (leadingZeros 64 n) - 1

instance : Decidable (Counts n word) := inferInstanceAs (Decidable (_ ≤ _))

theorem outcome?_eq (n : Nat) (word : UInt64) : outcome? 64 n word =
    if Counts n word then some (word.toNat * n / Nat.pow 2 64) else none := by
  have whole : word.toNat % Nat.pow 2 64 = word.toNat := Nat.mod_eq_of_lt word.toNat_lt
  rw [outcome?, whole]
  rfl

/-- The outcome of a word that counts is the high half of its product. -/
theorem below_of_counts (counts : Counts n word) (words : Words) :
    below 64 n (word :: words) = (word.toNat * n / Nat.pow 2 64, words) := by
  rw [below, outcome?_eq, if_pos counts]

theorem below_of_not_counts (passed : ¬ Counts n word) (words : Words) :
    below 64 n (word :: words) = below 64 n words := by
  rw [below, outcome?_eq, if_neg passed]

theorem high_lt (positive : 0 < n) (word : UInt64) : word.toNat * n / Nat.pow 2 64 < n := by
  rw [Nat.div_lt_iff_lt_mul (Nat.two_pow_pos 64), Nat.mul_comm n]
  exact Nat.mul_lt_mul_of_pos_right word.toNat_lt positive

theorem below_lt (positive : 0 < n) (words : Words) : (below 64 n words).1 < n := by
  induction words with
  | nil => exact positive
  | cons word rest ih =>
      by_cases counts : Counts n word
      · rw [below_of_counts counts]
        exact high_lt positive word
      · rwa [below_of_not_counts counts]

theorem below_zero (words : Words) : (below 64 0 words).1 = 0 := by
  cases words with
  | nil => rfl
  | cons word rest =>
      have counts : Counts 0 word := by
        rw [Counts, Nat.mul_zero]
        exact Nat.zero_le _
      rw [below_of_counts counts, Nat.mul_zero]

theorem counts_and_high_eq_iff (positive : 0 < n) (fits : n < Nat.pow 2 64) :
    Counts n word ∧ word.toNat * n / Nat.pow 2 64 = value ↔
      word.toNat ∈ wordsFor 64 n value := by
  have within := mul_leadingZeros_lt positive.ne' fits
  have filled : 0 < n * Nat.pow 2 (leadingZeros 64 n) := Nat.mul_pos positive (Nat.two_pow_pos _)
  rw [mem_wordsFor_iff positive, ← div_eq_and_mod_lt_iff within.le, Counts, and_comm]
  exact and_congr_right fun _ => by omega

theorem exists_below_eq (fits : n < Nat.pow 2 64) (possible : value < n) :
    ∃ words, (below 64 n words).1 = value := by
  have positive : 0 < n := Nat.zero_lt_of_lt possible
  obtain ⟨v, member⟩ : (wordsFor 64 n value).Nonempty := by
    rw [← Finset.card_pos, card_wordsFor]
    exact Nat.two_pow_pos _
  have small := lt_of_mem_wordsFor positive fits possible member
  have same : (UInt64.ofNat v).toNat = v := UInt64.toNat_ofNat_of_lt' small
  obtain ⟨counts, high⟩ := (counts_and_high_eq_iff positive fits).mpr (same.symm ▸ member)
  exact ⟨[.ofNat v], by rw [below_of_counts counts, high]⟩

theorem ncard_words {numbers : Finset Nat} (fit : ∀ v ∈ numbers, v < Nat.pow 2 64) :
    {word : UInt64 | word.toNat ∈ numbers}.ncard = numbers.card := by
  have apart : Function.Injective UInt64.toNat := fun _ _ => UInt64.toNat_inj.mp
  have all : (numbers : Set Nat) ⊆ Set.range UInt64.toNat := fun v member =>
    ⟨UInt64.ofNat v, UInt64.toNat_ofNat_of_lt' (fit v member)⟩
  rw [← Set.ncard_coe_finset, ← Set.ncard_preimage_of_injective_subset_range apart all]
  rfl

/-- For each outcome of some there are equally many words that count, whatever the outcome. -/
theorem ncard_counts (positive : 0 < n) (fits : n < Nat.pow 2 64) {outcomes : Finset Nat}
    (possible : ∀ value ∈ outcomes, value < n) :
    {word : UInt64 | Counts n word ∧ word.toNat * n / Nat.pow 2 64 ∈ outcomes}.ncard =
      Nat.pow 2 (leadingZeros 64 n) * outcomes.card := by
  have disjoint : (outcomes : Set Nat).PairwiseDisjoint (wordsFor 64 n) := by
    intro value _ other _ unlike
    refine Finset.disjoint_left.mpr fun v here there => unlike ?_
    have within := (mul_leadingZeros_lt positive.ne' fits).le
    rw [mem_wordsFor_iff positive, ← div_eq_and_mod_lt_iff within] at here there
    exact here.1.symm.trans there.1
  have whole : ∀ v ∈ outcomes.biUnion (wordsFor 64 n), v < Nat.pow 2 64 := by
    intro v member
    obtain ⟨value, listed, here⟩ := Finset.mem_biUnion.mp member
    exact lt_of_mem_wordsFor positive fits (possible value listed) here
  have same : {word : UInt64 | Counts n word ∧ word.toNat * n / Nat.pow 2 64 ∈ outcomes} =
      {word : UInt64 | word.toNat ∈ outcomes.biUnion (wordsFor 64 n)} := by
    ext word
    simp only [Set.mem_ofPred_eq, Finset.mem_biUnion, ← counts_and_high_eq_iff positive fits]
    constructor
    · rintro ⟨counts, listed⟩
      exact ⟨_, listed, counts, rfl⟩
    · rintro ⟨_, listed, counts, rfl⟩
      exact ⟨counts, listed⟩
  rw [same, ncard_words whole, Finset.card_biUnion disjoint,
    Finset.sum_congr rfl fun _ _ => card_wordsFor, Finset.sum_const, smul_eq_mul, Nat.mul_comm]

end Words
end EventRelay.Draw
