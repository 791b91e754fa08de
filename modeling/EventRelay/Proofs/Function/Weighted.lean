import EventRelay.Function.Weighted
import EventRelay.Proofs.Draw
import Mathlib.Data.Nat.Count

set_option autoImplicit false

/-!
Weighted choices are exactly proportional. Of the random words that count, each function gets as
many as its weights call for, and a function without weight gets none. The shares lie one after
another between one and the sum of the weights, so that every number that can be drawn lies in the
share of some function.
-/
namespace EventRelay.WeightedFunction

/-- The sum of the weights with which a function is listed. -/
def weightOf (id : FunctionId) (functions : List WeightedFunction) : Nat :=
  total (functions.filter (·.functionId = id))

section Sums
variable {id : FunctionId} {f : WeightedFunction} {functions rest : List WeightedFunction}

theorem total_cons : total (f :: rest) = f.weight.toNat + total rest := rfl

theorem total_append : total (functions ++ rest) = total functions + total rest := by
  induction functions with
  | nil => simp [total]
  | cons f others ih => rw [List.cons_append, total_cons, total_cons, ih, Nat.add_assoc]

theorem weightOf_cons : weightOf id (f :: rest) =
    (if f.functionId = id then f.weight.toNat else 0) + weightOf id rest := by
  by_cases same : f.functionId = id
  · simp [weightOf, same, total_cons]
  · simp [weightOf, same]

theorem total_le (functions : List WeightedFunction) :
    total functions ≤ functions.length * (Nat.pow 2 32 - 1) := by
  induction functions with
  | nil => exact Nat.le_refl 0
  | cons f rest ih =>
      have small : f.weight.toNat ≤ Nat.pow 2 32 - 1 := Nat.le_sub_one_of_lt f.weight.toNat_lt
      rw [total_cons, List.length_cons, Nat.succ_mul]
      omega

/-- Fewer than `2 ^ 32` weights sum to less than what a word of 64 bits holds. -/
theorem total_lt (few : functions.length < Nat.pow 2 32) : total functions < Nat.pow 2 64 := by
  have most := Nat.mul_le_mul_right (Nat.pow 2 32 - 1) (Nat.le_sub_one_of_lt few)
  exact Nat.lt_of_le_of_lt ((total_le functions).trans most) (by decide)

/-- The sum of the weights in words of 64 bits. -/
def wordSum (functions : List WeightedFunction) : UInt64 :=
  functions.foldl (fun sum f => sum + f.weight.toUInt64) 0

/-- A sum in words of 64 bits is the sum. -/
theorem toNat_wordSum (few : functions.length < Nat.pow 2 32) :
    (wordSum functions).toNat = total functions := by
  -- from the end, for a weight is added to the sum of those before it
  induction functions using List.reverseRecOn with
  | nil => rfl
  | append_singleton before f ih =>
      have fits := total_lt few
      rw [total_append] at fits ⊢
      rw [List.length_append, List.length_singleton] at few
      rw [wordSum, List.foldl_concat, ← wordSum, UInt64.toNat_add, ih (by omega),
        UInt32.toNat_toUInt64]
      exact Nat.mod_eq_of_lt fits

end Sums

section Shares
variable {id : FunctionId} {f : WeightedFunction} {functions rest : List WeightedFunction}
  {value before : Nat}

theorem at?_cons_of_lt (within : value < f.weight.toNat) :
    at? (before + value + 1) before (f :: rest) = some f.functionId :=
  if_pos (by omega)

theorem at?_cons_add (value : Nat) :
    at? (before + (f.weight.toNat + value) + 1) before (f :: rest) =
      at? (before + f.weight.toNat + value + 1) (before + f.weight.toNat) rest := by
  rw [at?, ← Nat.add_assoc before]
  exact if_neg (by omega)

theorem count_at? (id : FunctionId) (before : Nat) (functions : List WeightedFunction) :
    Nat.count (fun value => at? (before + value + 1) before functions = some id)
      (total functions) = weightOf id functions := by
  induction functions generalizing before with
  | nil => rfl
  | cons f rest ih =>
      rw [total_cons, Nat.count_add, weightOf_cons]
      simp only [at?_cons_add, ih]
      congr 1
      split
      · rename_i same
        refine Nat.count_of_forall fun value within => ?_
        rw [at?_cons_of_lt within, same]
      · rename_i unlike
        refine Nat.count_of_forall_not fun value within => ?_
        rw [at?_cons_of_lt within, Option.some.injEq]
        exact unlike

theorem exists_at? (within : value < total functions) (before : Nat) :
    ∃ id, at? (before + value + 1) before functions = some id := by
  induction functions generalizing value before with
  | nil => cases within
  | cons f rest ih =>
      by_cases here : value < f.weight.toNat
      · exact ⟨_, at?_cons_of_lt here⟩
      · obtain ⟨later, rfl⟩ := Nat.exists_eq_add_of_le (Nat.not_lt.mp here)
        rw [at?_cons_add]
        exact ih (Nat.lt_of_add_lt_add_left within) _

/-- The numbers below the sum of the weights, less one each, that lie in the shares of a
function. -/
def sharesOf (id : FunctionId) (functions : List WeightedFunction) : Finset Nat :=
  (Finset.range (total functions)).filter fun value => at? (value + 1) 0 functions = some id

theorem mem_sharesOf_iff : value ∈ sharesOf id functions ↔
    value < total functions ∧ at? (value + 1) 0 functions = some id := by
  rw [sharesOf, Finset.mem_filter, Finset.mem_range]

theorem card_sharesOf : (sharesOf id functions).card = weightOf id functions := by
  have counted := count_at? id 0 functions
  simp only [Nat.zero_add] at counted
  rw [sharesOf, ← Nat.count_eq_card_filter_range, counted]

theorem weightOf_pos (shared : value ∈ sharesOf id functions) : 0 < weightOf id functions := by
  rw [← card_sharesOf]
  exact Finset.card_pos.mpr ⟨value, shared⟩

end Shares

section Choices
variable {id : FunctionId} {functions : List WeightedFunction} (several : functions.length ≠ 1)
include several

theorem choose_of_total_eq_zero (none : total functions = 0) (words : Words) :
    choose functions words = (.error .noWeightedTarget, words) := by
  unfold choose
  split
  · exact absurd rfl several
  · exact if_pos none

variable (positive : 0 < total functions)
include positive

theorem choose_eq_iff (words rest : Words) : choose functions words = (.ok id, rest) ↔
    (Draw.below 64 (total functions) words).1 ∈ sharesOf id functions ∧
      (Draw.below 64 (total functions) words).2 = rest := by
  have drawn := Draw.below_lt positive words
  obtain ⟨found, falls⟩ := exists_at? drawn 0
  rw [Nat.zero_add] at falls
  have chosen :
      choose functions words = (.ok found, (Draw.below 64 (total functions) words).2) := by
    unfold choose
    split
    · exact absurd rfl several
    · simp only [if_neg positive.ne', falls]
  rw [chosen, mem_sharesOf_iff, falls]
  simp [drawn]

/-- There is always a choice, and it falls on a function of some weight. -/
theorem exists_choose (words : Words) : ∃ id, 0 < weightOf id functions ∧
    choose functions words = (.ok id, (Draw.below 64 (total functions) words).2) := by
  have drawn := Draw.below_lt positive words
  obtain ⟨id, falls⟩ := exists_at? drawn 0
  rw [Nat.zero_add] at falls
  have shared := mem_sharesOf_iff.mpr ⟨drawn, falls⟩
  exact ⟨id, weightOf_pos shared, (choose_eq_iff several positive words _).mpr ⟨shared, rfl⟩⟩

theorem choose_of_not_counts {word : UInt64} (passed : ¬ Draw.Counts (total functions) word)
    (words : Words) : choose functions (word :: words) = choose functions words := by
  obtain ⟨id, -, chosen⟩ := exists_choose several positive words
  rw [chosen, choose_eq_iff several positive, Draw.below_of_not_counts passed]
  exact (choose_eq_iff several positive words _).mp chosen

/-- Of the words that count, as many fall on a function as its weights call for. -/
theorem ncard_choose (fits : total functions < Nat.pow 2 64) (id : FunctionId) :
    {word : UInt64 | Draw.Counts (total functions) word ∧
      ∀ words, choose functions (word :: words) = (.ok id, words)}.ncard =
      Nat.pow 2 (Draw.leadingZeros 64 (total functions)) * weightOf id functions := by
  rw [← card_sharesOf, ← Draw.ncard_counts positive fits fun value shared =>
    (mem_sharesOf_iff.mp shared).1]
  congr 1
  ext word
  refine and_congr_right fun counts => ?_
  simp [choose_eq_iff several positive, Draw.below_of_counts counts]

end Choices

/-- Choices among several functions, or none, are exactly proportional to their weights. The sums of
the weights, of all or of the first few, fit words of 64 bits. Let the weights sum to something. A
first word that does not count is passed over; of those that count, the number with which a function
is chosen is its weight times a power of two, the same for all functions: the sum can be doubled as
often within a word. Some function is always chosen, and none that has no weight. If the weights sum
to nothing, there is never a target. -/
theorem choices_are_proportional {functions : List WeightedFunction}
    (several : functions.length ≠ 1) (few : functions.length < Nat.pow 2 32) :
    (∀ k, (wordSum (functions.take k)).toNat = total (functions.take k)) ∧
    (0 < total functions →
      (∀ id, {word : UInt64 | Draw.Counts (total functions) word ∧
        ∀ words, choose functions (word :: words) = (.ok id, words)}.ncard =
          Nat.pow 2 (Draw.leadingZeros 64 (total functions)) * weightOf id functions) ∧
      (∀ word, ¬ Draw.Counts (total functions) word →
        ∀ words, choose functions (word :: words) = choose functions words) ∧
      ∀ words, ∃ id, 0 < weightOf id functions ∧ (choose functions words).1 = .ok id) ∧
    (total functions = 0 →
      ∀ words, choose functions words = (.error .noWeightedTarget, words)) := by
  refine ⟨fun k => ?_, fun positive => ⟨?_, ?_, fun words => ?_⟩, choose_of_total_eq_zero several⟩
  · exact toNat_wordSum (Nat.lt_of_le_of_lt (List.length_take_le' k functions) few)
  · exact ncard_choose several positive (total_lt few)
  · exact fun word passed => choose_of_not_counts several positive passed
  · obtain ⟨id, weighty, chosen⟩ := exists_choose several positive words
    exact ⟨id, weighty, by rw [chosen]⟩

/-- A version that is listed twice, one that is listed without weight, and another one. -/
def exampleShares : List WeightedFunction :=
  [⟨⟨"crm-v1"⟩, 1⟩, ⟨⟨"crm-v2"⟩, 0⟩, ⟨⟨"crm-v1"⟩, 2⟩, ⟨⟨"crm-v3"⟩, 2⟩]

/-- Three fifths of the words that count fall on the first version, and none on the second. -/
theorem exampleShares_are_kept :
    {word : UInt64 | Draw.Counts 5 word ∧
      ∀ words, choose exampleShares (word :: words) = (.ok ⟨"crm-v1"⟩, words)}.ncard =
        Nat.pow 2 61 * 3 ∧
    (∀ words, (choose exampleShares words).1 ≠ .ok ⟨"crm-v2"⟩) ∧
    ∀ words,
      choose [⟨⟨"crm-v1"⟩, 0⟩, ⟨⟨"crm-v2"⟩, 0⟩] words = (.error .noWeightedTarget, words) := by
  obtain ⟨-, proportional, -⟩ := @choices_are_proportional exampleShares (by decide) (by decide)
  obtain ⟨counted, -, chosen⟩ := proportional (by decide)
  obtain ⟨-, -, none⟩ :=
    @choices_are_proportional [⟨⟨"crm-v1"⟩, 0⟩, ⟨⟨"crm-v2"⟩, 0⟩] (by decide) (by decide)
  refine ⟨counted ⟨"crm-v1"⟩, fun words falls => ?_, none rfl⟩
  obtain ⟨id, weighty, found⟩ := chosen words
  rw [falls, Except.ok.injEq] at found
  subst found
  exact absurd weighty (by decide)

end EventRelay.WeightedFunction
