import EventRelay.Proofs.Time.Calendar
import EventRelay.Time.Rfc3339
import Mathlib.Algebra.Group.Nat.Defs

set_option autoImplicit false

/-!
Instants as text. What is written for an instant is read as that instant, by the looser reader
always and by the strict one if the year needs no sign; and both readers give well-formed instants
only, so what was read once is kept when it is written and read again.
-/
namespace EventRelay.Rfc3339

def Stops (rest : List Char) : Prop := ∀ c ∈ rest.head?, c.isDigit = false

section Numbers
variable {least most width n : Nat} {rest : List Char}

theorem number_eq_ofDigitChars (cs : List Char) : number cs = Nat.ofDigitChars 10 cs 0 := by
  rw [number, Nat.ofDigitChars_eq_foldl]
  congr 1
  funext n c
  rw [Nat.mul_comm]
  rfl

theorem number_padded (width n : Nat) : number (padded width n) = n := by
  rw [number_eq_ofDigitChars, padded, Nat.ofDigitChars_eq_foldl, List.foldl_append,
    ← Nat.ofDigitChars_eq_foldl, ← Nat.ofDigitChars_eq_foldl, Nat.ofDigitChars_replicate_zero,
    Nat.mul_zero, Nat.ofDigitChars_ten_toDigits]

theorem isDigit_of_mem_padded {c : Char} (member : c ∈ padded width n) : c.isDigit = true := by
  rcases List.mem_append.mp member with zero | digit
  · rw [(List.mem_replicate.mp zero).2]
    rfl
  · exact Nat.isDigit_of_mem_toDigits (by decide) (by decide) digit

theorem le_length_padded : width ≤ (padded width n).length := by
  simp only [padded, List.length_append, List.length_replicate]
  omega

theorem length_padded (positive : 0 < width) (fits : n < 10 ^ width) :
    (padded width n).length = width := by
  have short := (Nat.length_toDigits_le_iff (by decide) positive).mpr fits
  simp only [padded, List.length_append, List.length_replicate]
  omega

theorem leadingDigits_append {digits : List Char} (all : ∀ c ∈ digits, c.isDigit = true)
    (fits : digits.length ≤ most) (stops : digits.length = most ∨ Stops rest) :
    leadingDigits most (digits ++ rest) = digits := by
  induction digits generalizing most with
  | nil =>
      cases most with
      | zero => rfl
      | succ most =>
          cases rest with
          | nil => rfl
          | cons c rest =>
              have stop : c.isDigit = false := (stops.resolve_left (by simp)) c rfl
              simp [leadingDigits, stop]
  | cons c digits ih =>
      cases most with
      | zero => cases fits
      | succ most =>
          have first : c.isDigit = true := all c List.mem_cons_self
          have tail := ih (fun d member => all d (List.mem_cons_of_mem _ member))
            (Nat.le_of_succ_le_succ fits) (stops.imp_left Nat.succ.inj)
          simp [leadingDigits, first, tail]

/-- A number that is written with zeros in front is read, and the text after it is left. -/
theorem digits_padded (enough : least ≤ (padded width n).length)
    (fits : (padded width n).length ≤ most) (stops : (padded width n).length = most ∨ Stops rest) :
    digits least most (padded width n ++ rest) = some (n, rest) := by
  have found : leadingDigits most (padded width n ++ rest) = padded width n :=
    leadingDigits_append (fun c => isDigit_of_mem_padded) fits stops
  simp only [digits, found, number_padded, List.drop_left]
  exact if_neg (Nat.not_lt.mpr enough)

theorem digits_two (small : n < 100) : digits 2 2 (padded 2 n ++ rest) = some (n, rest) := by
  have length : (padded 2 n).length = 2 := length_padded (by decide) small
  exact digits_padded (Nat.le_of_eq length.symm) (Nat.le_of_eq length) (Or.inl length)

end Numbers

section Blanks
variable {c : Char} {rest : List Char}

theorem isBlank_of_isDigit (digit : c.isDigit = true) : Text.isBlank c = false := by
  have number : c.val.toNat = c.toNat := rfl
  simp only [Char.isDigit, Bool.and_eq_true, decide_eq_true_eq, ge_iff_le, UInt32.le_iff_toNat_le,
    number] at digit
  obtain ⟨low, high⟩ : 48 ≤ c.toNat ∧ c.toNat ≤ 57 := digit
  simp only [Text.isBlank, Bool.or_eq_false_iff, Bool.and_eq_false_iff, decide_eq_false_iff_not,
    beq_eq_false_iff_ne]
  omega

theorem trimStart_cons (dark : Text.isBlank c = false) :
    Text.trimStart (c :: rest) = c :: rest := by
  simp [Text.trimStart, dark]

theorem trimStart_of_digit {cs : List Char} (first : ∀ c ∈ cs.head?, c.isDigit = true) :
    Text.trimStart cs = cs := by
  cases cs with
  | nil => rfl
  | cons c cs => exact trimStart_cons (isBlank_of_isDigit (first c rfl))

theorem isDigit_of_head? {width n : Nat} :
    ∀ c ∈ (padded width n ++ rest).head?, c.isDigit = true := by
  cases written : padded width n with
  | nil => simp [padded] at written
  | cons d digits =>
      rintro c ⟨⟩
      have member : d ∈ padded width n := by simp [written]
      exact isDigit_of_mem_padded member

theorem looseNumber_padded {n : Nat} (small : n < 100) :
    looseNumber (padded 2 n ++ rest) = some (n, rest) := by
  have length : (padded 2 n).length = 2 := length_padded (by decide) small
  rw [looseNumber, trimStart_of_digit isDigit_of_head?]
  exact digits_padded (by omega) (Nat.le_of_eq length) (Or.inl length)

theorem looseChar_cons (dark : Text.isBlank c = false) :
    looseChar c (c :: rest) = some ((), rest) := by
  rw [looseChar, trimStart_cons dark, char, if_pos rfl]

end Blanks

section Parts

theorem fraction_point {width n : Nat} (positive : 0 < width) (few : width ≤ 9)
    (fits : n < 10 ^ width) :
    fraction ('.' :: padded width n ++ ['Z']) = some (n * Nat.pow 10 (9 - width), ['Z']) := by
  have length : (padded width n).length = width := length_padded positive fits
  have found : leadingDigits 9 (padded width n ++ ['Z']) = padded width n :=
    leadingDigits_append (fun c => isDigit_of_mem_padded) (by omega) (Or.inr (by rintro c ⟨⟩; rfl))
  have value := number_padded width n
  have rest : (padded width n ++ ['Z']).drop (padded width n).length = ['Z'] := List.drop_left
  simp only [List.cons_append, fraction, found]
  split
  · rename_i nothing
    rw [nothing] at length
    exact absurd length (Nat.ne_of_lt positive)
  · rw [value, rest, length]
    rfl

theorem fraction_fractionText {nanos : Nat} (small : nanos < 1000000000) :
    fraction (fractionText nanos ++ ['Z']) = some (nanos, ['Z']) := by
  have thousands :
      Nat.pow 10 (9 - 3) = 1000000 ∧ Nat.pow 10 (9 - 6) = 1000 ∧ Nat.pow 10 (9 - 9) = 1 := by
    decide
  unfold fractionText
  split
  · rename_i none
    rw [none]
    rfl
  · split
    · rw [fraction_point (by decide) (by decide) (by omega), thousands.1, Nat.div_mul_cancel]
      omega
    · split
      · rw [fraction_point (by decide) (by decide) (by omega), thousands.2.1, Nat.div_mul_cancel]
        omega
      · rw [fraction_point (by decide) (by decide) (by omega), thousands.2.2, Nat.mul_one]

theorem looseYear_unsigned {cs : List Char} (first : ∀ c ∈ cs.head?, c.isDigit = true) :
    looseYear cs = (digits 1 4 cs).map fun (n, rest) => (Int.ofNat n, rest) := by
  unfold looseYear
  rw [trimStart_of_digit first]
  split
  · exact absurd (first '-' rfl) (by decide)
  · exact absurd (first '+' rfl) (by decide)
  · rfl

theorem looseYear_yearText (year : Int) (rest : List Char) :
    looseYear (yearText year ++ '-' :: rest) = some (year, '-' :: rest) := by
  have stops : Stops ('-' :: rest) := by rintro c ⟨⟩; rfl
  unfold yearText
  split
  · rename_i plain
    have small : year.toNat < 10 ^ 4 := by omega
    have length : (padded 4 year.toNat).length = 4 := length_padded (by decide) small
    have read : digits 1 4 (padded 4 year.toNat ++ '-' :: rest) = some (year.toNat, '-' :: rest) :=
      digits_padded (by omega) (Nat.le_of_eq length) (Or.inl length)
    rw [looseYear_unsigned isDigit_of_head?, read]
    simp only [Option.map_some, Option.some.injEq, Prod.mk.injEq, and_true]
    exact Int.toNat_of_nonneg plain.1
  · rename_i signed
    have least : 1 ≤ (padded 4 year.natAbs).length := Nat.le_trans (by decide) le_length_padded
    have read : digits 1 (anyLength (padded 4 year.natAbs ++ '-' :: rest))
        (padded 4 year.natAbs ++ '-' :: rest) = some (year.natAbs, '-' :: rest) := by
      refine digits_padded least ?_ (Or.inr stops)
      simp [anyLength]
    split
    · rename_i before
      rw [looseYear, List.cons_append, trimStart_cons (by rfl)]
      have size : -Int.ofNat year.natAbs = year := by
        rw [Int.ofNat_eq_natCast]
        omega
      simp only [read, Option.map_some, size]
    · rename_i after
      rw [looseYear, List.cons_append, trimStart_cons (by rfl)]
      have size : Int.ofNat year.natAbs = year := by
        rw [Int.ofNat_eq_natCast]
        omega
      simp only [read, Option.map_some, size]

end Parts

section Instants
variable {i : Instant}

/-- The parts of what is written for an instant are short. -/
structure Short (i : Instant) : Prop where
  month : i.date.month < 100
  day : i.date.day < 100
  hour : i.timeOfDay.hour < 100
  minute : i.timeOfDay.minute < 100
  second : i.timeOfDay.second < 100
  nanos : i.timeOfDay.nanos < 1000000000

theorem short_of_wellFormed (wellFormed : i.WellFormed) : Short i := by
  have made := Date.of?_ofDayNumber wellFormed.first wellFormed.last
  have fits := Date.month_day_le made
  have valid := wellFormed.isValid_timeOfDay
  simp only [TimeOfDay.isValid, Bool.and_eq_true, decide_eq_true_eq] at valid
  constructor
  · exact Nat.lt_of_le_of_lt fits.1 (by decide)
  · exact Nat.lt_of_le_of_lt fits.2 (by decide)
  all_goals omega

theorem dateEnd_cons (rest : List Char) : dateEnd ('T' :: rest) = some ((), rest) := by
  simp [dateEnd]

theorem char_cons (c : Char) (rest : List Char) : char c (c :: rest) = some ((), rest) := by
  simp [char]

theorem toList_text (i : Instant) : (text i).toList =
    yearText i.date.year ++ '-' :: (padded 2 i.date.month ++ '-' :: (padded 2 i.date.day
      ++ 'T' :: (padded 2 i.timeOfDay.hour ++ ':' :: (padded 2 i.timeOfDay.minute
      ++ ':' :: (padded 2 i.timeOfDay.second ++ (fractionText i.timeOfDay.nanos ++ ['Z'])))))) := by
  simp only [text, String.toList_ofList, List.append_assoc, List.cons_append]

theorem bind_of_some {α β : Type} {first : Option α} {next : α → Option β} {a : α} {b : β}
    (read : first = some a) (goesOn : next a = some b) : (first >>= next) = some b := by
  rw [read]
  exact goesOn

/-- What is written for an instant is read as that instant by the looser reader. -/
theorem parseLoose?_text (wellFormed : i.WellFormed) : parseLoose? (text i) = some i := by
  have short := short_of_wellFormed wellFormed
  have made : Date.of? i.date.year i.date.month i.date.day = some i.date :=
    Date.of?_ofDayNumber wellFormed.first wellFormed.last
  have utc : looseOffset (Text.trimStart ['Z']) = some (0, []) := rfl
  unfold parseLoose?
  rw [toList_text]
  refine bind_of_some (looseYear_yearText ..) (bind_of_some (looseChar_cons rfl) ?_)
  refine bind_of_some (looseNumber_padded short.month) (bind_of_some (looseChar_cons rfl) ?_)
  refine bind_of_some (looseNumber_padded short.day) (bind_of_some (dateEnd_cons _) ?_)
  refine bind_of_some (looseNumber_padded short.hour) (bind_of_some (looseChar_cons rfl) ?_)
  refine bind_of_some (looseNumber_padded short.minute) (bind_of_some (looseChar_cons rfl) ?_)
  refine bind_of_some (looseNumber_padded short.second) ?_
  refine bind_of_some (fraction_fractionText short.nanos) (bind_of_some utc ?_)
  exact bind_of_some made wellFormed.ofLocal?_eq

/-- The strict reader reads what is written for an instant if the year is written without a sign. -/
theorem parse?_text (wellFormed : i.WellFormed) (unsigned : 0 ≤ i.date.year ∧ i.date.year ≤ 9999) :
    parse? (text i) = some i := by
  have short := short_of_wellFormed wellFormed
  have made : Date.of? i.date.year i.date.month i.date.day = some i.date :=
    Date.of?_ofDayNumber wellFormed.first wellFormed.last
  have year : ((i.date.year.toNat : Nat) : Int) = i.date.year := Int.toNat_of_nonneg unsigned.1
  have few : (padded 4 i.date.year.toNat).length = 4 := length_padded (by decide) (by omega)
  have read (rest : List Char) :
      digits 4 4 (padded 4 i.date.year.toNat ++ rest) = some (i.date.year.toNat, rest) :=
    digits_padded (Nat.le_of_eq few.symm) (Nat.le_of_eq few) (Or.inl few)
  have utc : offset (char ':') ['Z'] = some (0, []) := rfl
  unfold parse?
  rw [toList_text, yearText, if_pos unsigned]
  refine bind_of_some (read _) (bind_of_some (char_cons ..) ?_)
  refine bind_of_some (digits_two short.month) (bind_of_some (char_cons ..) ?_)
  refine bind_of_some (digits_two short.day) (bind_of_some (dateEnd_cons _) ?_)
  refine bind_of_some (digits_two short.hour) (bind_of_some (char_cons ..) ?_)
  refine bind_of_some (digits_two short.minute) (bind_of_some (char_cons ..) ?_)
  refine bind_of_some (digits_two short.second) ?_
  refine bind_of_some (fraction_fractionText short.nanos) (bind_of_some utc ?_)
  refine bind_of_some ?_ wellFormed.ofLocal?_eq
  rw [year, made]

theorem offset_minutes {between : Text.Parser Unit} {cs rest : List Char} {ahead : Int}
    (read : offset between cs = some (ahead, rest)) : ahead % 60 = 0 := by
  unfold offset at read
  split at read
  · cases read
    rfl
  · cases read
    rfl
  · obtain ⟨⟨sign, _⟩, -, read⟩ := Option.bind_eq_some_iff.mp read
    obtain ⟨⟨hours, _⟩, -, read⟩ := Option.bind_eq_some_iff.mp read
    obtain ⟨_, -, read⟩ := Option.bind_eq_some_iff.mp read
    obtain ⟨⟨minutes, _⟩, -, read⟩ := Option.bind_eq_some_iff.mp read
    cases read
    have whole : sign * (hours * 3600 + minutes * 60) = sign * (hours * 60 + minutes) * 60 := by
      grind
    rw [whole]
    exact Int.mul_emod_left _ _

theorem looseOffset_minutes {cs rest : List Char} {ahead : Int}
    (read : looseOffset cs = some (ahead, rest)) : ahead % 60 = 0 := by
  unfold looseOffset at read
  split at read
  · split at read
    · cases read
      rfl
    · exact offset_minutes read
  · exact offset_minutes read

theorem wellFormed_of_parse? {written : String} (read : parse? written = some i) :
    i.WellFormed := by
  unfold parse? at read
  -- the twelve parts before the offset
  iterate 12 obtain ⟨⟨_, _⟩, -, read⟩ := Option.bind_eq_some_iff.mp read
  obtain ⟨⟨ahead, rest⟩, minutes, read⟩ := Option.bind_eq_some_iff.mp read
  dsimp only at read
  split at read
  · cases read
  · obtain ⟨date, -, shown⟩ := Option.bind_eq_some_iff.mp read
    exact Instant.wellFormed_of_ofLocal? (offset_minutes minutes) shown

theorem wellFormed_of_parseLoose? {written : String} (read : parseLoose? written = some i) :
    i.WellFormed := by
  unfold parseLoose? at read
  -- the twelve parts before the offset
  iterate 12 obtain ⟨⟨_, _⟩, -, read⟩ := Option.bind_eq_some_iff.mp read
  obtain ⟨⟨ahead, rest⟩, minutes, read⟩ := Option.bind_eq_some_iff.mp read
  dsimp only at read
  split at read
  · cases read
  · obtain ⟨date, -, shown⟩ := Option.bind_eq_some_iff.mp read
    exact Instant.wellFormed_of_ofLocal? (looseOffset_minutes minutes) shown

end Instants
end EventRelay.Rfc3339
