import EventRelay.Time.Instant

set_option autoImplicit false

/-!
The calendar and the count of days. Four hundred years make an era, whose days are counted from the
first of March: four centuries, in each spans of four years, in each span four years, and the leap
day at the very end of a year. Every number of days is that of a day of the calendar, and gives it
back.
-/
namespace EventRelay

namespace Date

/-- How a day of an era is counted: by centuries, spans of four years, years, and days. A year has a
last, 366th day if it ends its span, and if that ends a century only at the end of the era. -/
structure Counts (day century span year rest : Int) : Prop where
  sum : day = 36524 * century + 1461 * span + 365 * year + rest
  ofCentury : 0 ≤ century ∧ century ≤ 3
  ofSpan : 0 ≤ span ∧ span ≤ 24
  ofYear : 0 ≤ year ∧ year ≤ 3
  ofRest : 0 ≤ rest ∧ rest ≤ 365
  leap : rest = 365 → year = 3 ∧ (span = 24 → century = 3)

section Eras
variable {day century span year rest : Int}

/-- Each day of an era can be counted. The last of four parts takes the day that is left over. -/
theorem exists_counts (day : Int) (low : 0 ≤ day) (high : day ≤ 146096) :
    ∃ century span year rest, Counts day century span year rest := by
  obtain ⟨c, century⟩ : ∃ c, c = min (day / 36524) 3 := ⟨_, rfl⟩
  obtain ⟨s, span⟩ : ∃ s, s = (day - 36524 * c) / 1461 := ⟨_, rfl⟩
  obtain ⟨y, year⟩ : ∃ y, y = min ((day - 36524 * c - 1461 * s) / 365) 3 := ⟨_, rfl⟩
  refine ⟨c, s, y, day - 36524 * c - 1461 * s - 365 * y, ?_, ?_, ?_, ?_, ?_, ?_⟩ <;> omega

theorem Counts.div_century (counts : Counts day century span year rest) :
    day / 36524 - day / 146096 = century := by
  obtain ⟨sum, c, s, y, r, leap⟩ := counts
  obtain ⟨part, within⟩ : ∃ part, part = 1461 * span + 365 * year + rest := ⟨_, rfl⟩
  have whole : day = 36524 * century + part := by omega
  -- only the last day of an era is past the days of its century
  have bound : 0 ≤ part ∧ (part ≤ 36523 ∨ part = 36524 ∧ century = 3) := by omega
  clear within sum
  omega

/-- Four years are taken for 1460 days at first; the days that come too early are few. -/
theorem Counts.div_span (counts : Counts day century span year rest) :
    ∃ early, day / 1460 = 25 * century + span + early ∧ 0 ≤ rest - early ∧ rest - early ≤ 364 := by
  obtain ⟨sum, c, s, y, r, leap⟩ := counts
  refine ⟨(24 * century + span + 365 * year + rest) / 1460, ?_, ?_, ?_⟩ <;> omega

theorem Counts.div_year (counts : Counts day century span year rest) :
    (day - day / 1460 + day / 36524 - day / 146096) / 365 = 100 * century + 4 * span + year := by
  have centuries := counts.div_century
  obtain ⟨early, spans, low, high⟩ := counts.div_span
  have sum := counts.sum
  omega

theorem Counts.sub_yearStart (counts : Counts day century span year rest) {number : Int}
    (same : number = 100 * century + 4 * span + year) :
    day - (365 * number + number / 4 - number / 100) = rest := by
  obtain ⟨sum, c, s, y, r, -⟩ := counts
  have quarters : number / 4 = 25 * century + span := by omega
  have hundreds : number / 100 = century := by omega
  omega

/-- A year has a last day only if the next January is in a leap year. -/
theorem Counts.isLeap (counts : Counts day century span year rest) (last : rest = 365) (era : Int) :
    Date.isLeap (100 * century + 4 * span + year + era * 400 + 1) = true := by
  obtain ⟨-, c, s, y, -, leap⟩ := counts
  obtain ⟨ends, whole⟩ := leap last
  have fourth : (100 * century + 4 * span + year + era * 400 + 1) % 4 = 0 := by omega
  by_cases hundredth : (100 * century + 4 * span + year + era * 400 + 1) % 100 = 0
  · have all : (100 * century + 4 * span + year + era * 400 + 1) % 400 = 0 := by omega
    simp [Date.isLeap, fourth, all]
  · simp [Date.isLeap, fourth, hundredth]

end Eras

/-- The days of a calendar, in the words of the count: the year of the era and the day of the year,
both from March, and the era. -/
structure Reckons (n era year day : Int) : Prop where
  sum : n + 719468 = era * 146097 + (365 * year + year / 4 - year / 100) + day
  ofYear : 0 ≤ year ∧ year ≤ 399
  ofDay : 0 ≤ day ∧ day ≤ 365
  leap : day = 365 → isLeap (year + era * 400 + 1) = true

/-- A day of the calendar whose month is counted from March. -/
def ofMarch (year month day : Int) : Date :=
  let fromJanuary := if month < 10 then month + 3 else month - 9
  ⟨if fromJanuary ≤ 2 then year + 1 else year, fromJanuary.toNat, day.toNat⟩

/-- The month of a day of the year, both counted from March. -/
def marchMonth (day : Int) : Int := (5 * day + 2) / 153

/-- The day of its month on which a day of the year falls. -/
def marchDay (day : Int) : Int := day - (153 * marchMonth day + 2) / 5 + 1

theorem ofDayNumber_eq (n : Int) : ∃ era year day, Reckons n era year day ∧
    ofDayNumber n = ofMarch (year + era * 400) (marchMonth day) (marchDay day) := by
  obtain ⟨era, eras⟩ : ∃ era, era = Int.fdiv (n + 719468) 146097 := ⟨_, rfl⟩
  rw [Int.fdiv_eq_ediv_of_nonneg _ (by decide)] at eras
  obtain ⟨century, span, year, rest, counts⟩ :=
    exists_counts (n + 719468 - era * 146097) (by omega) (by omega)
  have number := counts.div_year
  have start := counts.sub_yearStart rfl
  have leap := fun last => counts.isLeap last era
  refine ⟨era, 100 * century + 4 * span + year, rest, ⟨?_, ?_, counts.ofRest, leap⟩, ?_⟩
  · omega
  · obtain ⟨-, c, s, y, -⟩ := counts
    omega
  · unfold ofDayNumber ofMarch marchDay marchMonth
    simp only [Int.fdiv_eq_ediv_of_nonneg _ (by decide : (0 : Int) ≤ 146097), ← eras, number, start]

section March
variable {year month day : Int}

theorem month_ofMarch (of : 0 ≤ month ∧ month ≤ 11) :
    (Int.ofNat (((ofMarch year month day).month + 9) % 12) = month) ∧
      ((ofMarch year month day).month ≤ 2 ↔ 10 ≤ month) := by
  simp only [ofMarch, Int.ofNat_eq_natCast]
  split <;> omega

theorem year_ofMarch (of : 0 ≤ month ∧ month ≤ 11) :
    (if (ofMarch year month day).month ≤ 2 then (ofMarch year month day).year - 1
      else (ofMarch year month day).year) = year := by
  simp only [(month_ofMarch of).2]
  simp only [ofMarch]
  split <;> split <;> omega

theorem dayNumber_ofMarch (of : 0 ≤ month ∧ month ≤ 11) (positive : 0 ≤ day) {era : Int}
    (within : 0 ≤ year ∧ year ≤ 399) :
    (ofMarch (year + era * 400) month day).dayNumber =
      era * 146097 + (year * 365 + year / 4 - year / 100 + ((153 * month + 2) / 5 + day - 1)) -
        719468 := by
  have eras : Int.fdiv (year + era * 400) 400 = era := by
    rw [Int.fdiv_eq_ediv_of_nonneg _ (by decide)]
    omega
  have days : ((ofMarch (year + era * 400) month day).day : Int) = day := by
    simp only [ofMarch]
    omega
  have years : year + era * 400 - era * 400 = year := by omega
  simp only [dayNumber, year_ofMarch of, (month_ofMarch of).1, eras, days, years]

end March

theorem marchMonth_bounds {day : Int} (of : 0 ≤ day ∧ day ≤ 365) :
    (0 ≤ marchMonth day ∧ marchMonth day ≤ 11) ∧ 1 ≤ marchDay day := by
  unfold marchDay marchMonth
  omega

/-- A number of days is that of its day. -/
theorem dayNumber_ofDayNumber (n : Int) : (ofDayNumber n).dayNumber = n := by
  obtain ⟨era, year, day, reckons, same⟩ := ofDayNumber_eq n
  obtain ⟨sum, ofYear, ofDay, -⟩ := reckons
  obtain ⟨month, positive⟩ := marchMonth_bounds ofDay
  rw [same, dayNumber_ofMarch month (by omega) ofYear, marchDay]
  omega

theorem daysInMonth_ofMarch (year day : Int) {month : Int} (of : 0 ≤ month ∧ month ≤ 10) :
    (daysInMonth (ofMarch year month day).year (ofMarch year month day).month : Int) =
      (153 * (month + 1) + 2) / 5 - (153 * month + 2) / 5 := by
  have cases : month = 0 ∨ month = 1 ∨ month = 2 ∨ month = 3 ∨ month = 4 ∨ month = 5 ∨ month = 6 ∨
      month = 7 ∨ month = 8 ∨ month = 9 ∨ month = 10 := by omega
  rcases cases with rfl | rfl | rfl | rfl | rfl | rfl | rfl | rfl | rfl | rfl | rfl <;> rfl

theorem daysInMonth_february (year day : Int) :
    daysInMonth (ofMarch year 11 day).year (ofMarch year 11 day).month =
      if isLeap (year + 1) then 29 else 28 := rfl

theorem day_le_daysInMonth {year day : Int} (of : 0 ≤ day ∧ day ≤ 365)
    (leap : day = 365 → isLeap (year + 1) = true) :
    (marchDay day).toNat ≤
      daysInMonth (ofMarch year (marchMonth day) (marchDay day)).year
        (ofMarch year (marchMonth day) (marchDay day)).month := by
  have bounds := marchMonth_bounds of
  by_cases february : marchMonth day = 11
  · rw [february, daysInMonth_february, marchDay, february]
    by_cases last : day = 365
    · rw [if_pos (leap last), last]
      decide
    · split <;> omega
  · have before : 0 ≤ marchMonth day ∧ marchMonth day ≤ 10 := by omega
    have length := daysInMonth_ofMarch year (marchDay day) before
    have next : 5 * day + 2 < 153 * (marchMonth day + 1) := by
      unfold marchMonth
      omega
    have place : marchDay day = day - (153 * marchMonth day + 2) / 5 + 1 := rfl
    omega

theorem of?_ofDayNumber {n : Int} (first : minYear ≤ (ofDayNumber n).year)
    (last : (ofDayNumber n).year ≤ maxYear) :
    of? (ofDayNumber n).year (ofDayNumber n).month (ofDayNumber n).day = some (ofDayNumber n) := by
  obtain ⟨era, year, day, ⟨-, -, ofDay, leap⟩, same⟩ := ofDayNumber_eq n
  obtain ⟨month, positive⟩ := marchMonth_bounds ofDay
  have fits := day_le_daysInMonth ofDay leap
  rw [same] at first last ⊢
  have named : 1 ≤ (ofMarch (year + era * 400) (marchMonth day) (marchDay day)).month ∧
      (ofMarch (year + era * 400) (marchMonth day) (marchDay day)).month ≤ 12 := by
    simp only [ofMarch]
    split <;> omega
  have counted : 1 ≤ (marchDay day).toNat := by omega
  rw [of?, if_pos ⟨first, last, named.1, named.2, counted, fits⟩]

theorem month_day_le {year : Int} {month day : Nat} {d : Date}
    (made : of? year month day = some d) : month ≤ 12 ∧ day ≤ 31 := by
  obtain ⟨⟨-, -, -, month, -, day⟩, -⟩ := Option.ite_none_right_eq_some.mp made
  refine ⟨month, Nat.le_trans day ?_⟩
  unfold daysInMonth
  split
  · split <;> decide
  · split <;> decide

end Date

/-- An instant of the years that are told apart; a leap second stands at the end of a minute. -/
structure Instant.WellFormed (i : Instant) : Prop where
  first : Date.minYear ≤ i.date.year
  last : i.date.year ≤ Date.maxYear
  nanos : i.nanos < 2000000000
  leap : 1000000000 ≤ i.nanos → i.seconds % 60 = 59

namespace Instant

variable {i : Instant}

theorem WellFormed.isValid_timeOfDay (wellFormed : i.WellFormed) : i.timeOfDay.isValid = true := by
  obtain ⟨-, -, nanos, leap⟩ := wellFormed
  obtain ⟨rest, rests⟩ : ∃ rest, rest = (Int.fmod i.seconds 86400).toNat := ⟨_, rfl⟩
  rw [Int.fmod_eq_emod_of_nonneg _ (by decide)] at rests
  simp only [timeOfDay, TimeOfDay.isValid, Bool.and_eq_true, decide_eq_true_eq,
    Int.fmod_eq_emod_of_nonneg _ (by decide : (0 : Int) ≤ 86400), ← rests]
  by_cases late : 1000000000 ≤ i.nanos
  · have ends := leap late
    simp only [late, ↓reduceIte]
    omega
  · simp only [late, ↓reduceIte]
    omega

/-- The 60th second is shown in a leap second only. -/
theorem WellFormed.second_eq_iff (wellFormed : i.WellFormed) :
    i.timeOfDay.second = 60 ↔ 1000000000 ≤ i.nanos := by
  have leap := wellFormed.leap
  simp only [timeOfDay, Int.fmod_eq_emod_of_nonneg _ (by decide : (0 : Int) ≤ 86400)]
  by_cases late : 1000000000 ≤ i.nanos
  · have ends := leap late
    simp only [late, ↓reduceIte, iff_true]
    omega
  · simp only [late, ↓reduceIte, iff_false]
    omega

theorem WellFormed.secondsOfDay (wellFormed : i.WellFormed) :
    (i.timeOfDay.hour * 3600 + i.timeOfDay.minute * 60 +
        (if i.timeOfDay.second = 60 then 59 else i.timeOfDay.second) : Int) =
          i.seconds % 86400 := by
  have leap := wellFormed.leap
  simp only [wellFormed.second_eq_iff]
  simp only [timeOfDay, Int.fmod_eq_emod_of_nonneg _ (by decide : (0 : Int) ≤ 86400)]
  by_cases late : 1000000000 ≤ i.nanos
  · have ends := leap late
    simp only [late, ↓reduceIte]
    omega
  · simp only [late, ↓reduceIte]
    omega

/-- The instant at which clocks of UTC show what they show at an instant is that instant. -/
theorem WellFormed.ofLocal?_eq (wellFormed : i.WellFormed) :
    ofLocal? i.date i.timeOfDay 0 = some i := by
  have valid := wellFormed.isValid_timeOfDay
  have shown := wellFormed.secondsOfDay
  have day : i.date.dayNumber = i.seconds / 86400 := by
    rw [date, Date.dayNumber_ofDayNumber, Int.fdiv_eq_ediv_of_nonneg _ (by decide)]
  have years : ¬ (i.date.year < Date.minYear ∨ Date.maxYear < i.date.year) := by
    have first := wellFormed.first
    have last := wellFormed.last
    omega
  have seconds : i.date.dayNumber * 86400 + i.timeOfDay.hour * 3600 + i.timeOfDay.minute * 60 +
      ((if i.timeOfDay.second = 60 then 59 else i.timeOfDay.second : Nat) : Int) - 0 =
        i.seconds := by
    rw [day]
    omega
  have nanos :
      i.timeOfDay.nanos + (if i.timeOfDay.second = 60 then 1000000000 else 0) = i.nanos := by
    simp only [wellFormed.second_eq_iff]
    simp only [timeOfDay]
    split <;> omega
  have accepted : ¬ (¬ i.timeOfDay.isValid = true ∨ 86400 ≤ (0 : Int).natAbs) := by
    simp [valid]
  simp only [ofLocal?, if_neg accepted, seconds, nanos]
  exact if_neg years

/-- Clocks that are some minutes ahead show well-formed instants only. -/
theorem wellFormed_of_ofLocal? {date : Date} {time : TimeOfDay} {offset : Int}
    (minutes : offset % 60 = 0) (shown : ofLocal? date time offset = some i) : i.WellFormed := by
  unfold ofLocal? at shown
  split at shown
  · cases shown
  · rename_i accepted
    simp only [not_or, Decidable.not_not, TimeOfDay.isValid, Bool.and_eq_true,
      decide_eq_true_eq] at accepted
    obtain ⟨⟨-, nanos⟩, -⟩ := accepted
    obtain ⟨years, same⟩ := Option.ite_none_left_eq_some.mp shown
    simp only [not_or, Int.not_lt] at years
    cases same
    refine ⟨years.1, years.2, ?_, ?_⟩
    · dsimp only
      split <;> omega
    · dsimp only
      split
      · omega
      · omega

end Instant
end EventRelay
