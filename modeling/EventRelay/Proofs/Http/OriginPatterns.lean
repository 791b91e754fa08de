import EventRelay.Http.Cors
import EventRelay.Proofs.Text.LetterCase
import EventRelay.Proofs.Text.Split

set_option autoImplicit false

/-!
Which origins the patterns of settings allow. A pattern without an asterisk allows one origin in any
letter case; one with an asterisk allows what puts any text in the place of the first one, and its
letters have to be met in their own case. So letter case decides about an origin exactly if every
pattern that it follows in some case has both an asterisk and a letter.
-/
namespace EventRelay.Cors

section Pattern
variable {pattern origin start ending : String}

theorem originMatches_plain (plain : '*' ∉ pattern.toList) (origin : String) :
    originMatches pattern origin = Text.sameIgnoringCase pattern origin := by
  rw [originMatches, Text.cut?_eq_none_iff.mpr plain]

theorem originMatches_plain_iff (plain : '*' ∉ pattern.toList) :
    originMatches pattern origin = true ↔ Text.lower pattern = Text.lower origin := by
  rw [originMatches_plain plain, Text.sameIgnoringCase_iff]

theorem originMatches_around_iff (first : '*' ∉ start.toList) :
    originMatches (start ++ "*" ++ ending) origin = true ↔
      ∃ middle, origin = start ++ middle ++ ending := by
  have cut : Text.cut? '*' (start ++ "*" ++ ending) = some (start, ending) :=
    Text.cut?_eq_some_iff.mpr ⟨rfl, first⟩
  simp only [originMatches, cut, Bool.and_eq_true, decide_eq_true_eq]
  constructor
  · rintro ⟨⟨room, begins⟩, ends⟩
    obtain ⟨after, rfl⟩ := Text.beginsWith_iff.mp begins
    obtain ⟨before, split⟩ := Text.endsWith_iff.mp ends
    obtain ⟨middle, rfl⟩ := Text.exists_between split room
    exact ⟨middle, String.append_assoc.symm⟩
  · rintro ⟨middle, rfl⟩
    refine ⟨⟨?_, ?_⟩, Text.endsWith_iff.mpr ⟨start ++ middle, rfl⟩⟩
    · simp only [String.utf8ByteSize_append]
      omega
    · exact Text.beginsWith_iff.mpr ⟨middle ++ ending, String.append_assoc⟩

theorem plain_or_around (pattern : String) :
    '*' ∉ pattern.toList ∨
      ∃ start ending, '*' ∉ start.toList ∧ pattern = start ++ "*" ++ ending := by
  cases cut : Text.cut? '*' pattern with
  | none => exact Or.inl (Text.cut?_eq_none_iff.mp cut)
  | some found =>
      obtain ⟨split, first⟩ := Text.cut?_eq_some_iff.mp cut
      exact Or.inr ⟨found.1, found.2, first, split⟩

theorem originMatches_iff (pattern origin : String) :
    originMatches pattern origin = true ↔
      ('*' ∉ pattern.toList ∧ Text.lower pattern = Text.lower origin) ∨
      ∃ start middle ending, pattern = start ++ "*" ++ ending ∧ '*' ∉ start.toList ∧
        origin = start ++ middle ++ ending := by
  rcases plain_or_around pattern with plain | ⟨start, ending, first, rfl⟩
  · rw [originMatches_plain_iff plain]
    constructor
    · exact fun same => Or.inl ⟨plain, same⟩
    · rintro (⟨-, same⟩ | ⟨start, middle, ending, rfl, -⟩)
      · exact same
      · simp at plain
  · constructor
    · intro fits
      obtain ⟨middle, split⟩ := (originMatches_around_iff first).mp fits
      exact Or.inr ⟨start, middle, ending, rfl, first, split⟩
    · rintro (⟨plain, -⟩ | ⟨front, middle, back, same, early, rfl⟩)
      · simp at plain
      · rw [same]
        exact (originMatches_around_iff early).mpr ⟨middle, rfl⟩

end Pattern

/-- Origins are allowed as the patterns of the settings say, for every list of patterns. What stands
before and after the asterisk never overlaps in an origin. -/
theorem allowed_origins_follow_patterns (cors : CorsSettings) (origin : String) :
    originAllowed cors origin = true ↔
      ∃ pattern ∈ cors.origins,
        ('*' ∉ pattern.toList ∧ Text.lower pattern = Text.lower origin) ∨
        ∃ start middle ending, pattern = start ++ "*" ++ ending ∧ '*' ∉ start.toList ∧
          origin = start ++ middle ++ ending := by
  rw [originAllowed, List.any_eq_true]
  simp only [originMatches_iff]

/-- The two ends of a pattern cannot share a letter of the origin. -/
example : originMatches "ab*ba" "aba" = false := by decide +kernel

/-- Whether an origin follows a pattern when both are in lower case. -/
def matchesInSomeCase (pattern origin : String) : Bool :=
  originMatches (Text.lower pattern) (Text.lower origin)

/-- Whether the letters of a pattern have to be met in their own case. -/
def heedsCase (pattern : String) : Bool := pattern.toList.contains '*' && Text.hasLetters pattern

theorem map_around {f : Char → Char} (kept : f '*' = '*') (start ending : String) :
    (start ++ "*" ++ ending).map f = start.map f ++ "*" ++ ending.map f := by
  have mark : "*".map f = "*" := String.toList_inj.mp (by simp [kept])
  rw [Text.map_append, Text.map_append, mark]

section Case
variable {pattern origin respelled rewritten : String}

theorem plain_of_lower_eq (plain : '*' ∉ pattern.toList)
    (same : Text.lower rewritten = Text.lower pattern) : '*' ∉ rewritten.toList := by
  rwa [Text.mem_toList_iff_of_lower_eq (by decide) same]

theorem hasLetters_around (start ending : String) :
    Text.hasLetters (start ++ "*" ++ ending) =
      (Text.hasLetters start || Text.hasLetters ending) := by
  have mark : Text.hasLetters "*" = false := by decide +kernel
  rw [Text.hasLetters_append, Text.hasLetters_append, mark, Bool.or_false]

theorem heedsCase_around (start ending : String) :
    heedsCase (start ++ "*" ++ ending) = Text.hasLetters (start ++ "*" ++ ending) := by
  simp [heedsCase]

theorem matchesInSomeCase_of_originMatches (fits : originMatches pattern origin = true) :
    matchesInSomeCase pattern origin = true := by
  rcases plain_or_around pattern with plain | ⟨start, ending, first, rfl⟩
  · have lowered := plain_of_lower_eq plain (Text.lower_lower pattern)
    rw [matchesInSomeCase, originMatches_plain_iff lowered, Text.lower_lower, Text.lower_lower]
    exact (originMatches_plain_iff plain).mp fits
  · obtain ⟨middle, rfl⟩ := (originMatches_around_iff first).mp fits
    have lowered := plain_of_lower_eq first (Text.lower_lower start)
    rw [matchesInSomeCase, Text.lower, map_around rfl]
    refine (originMatches_around_iff lowered).mpr ⟨Text.lower middle, ?_⟩
    rw [Text.lower, Text.map_append, Text.map_append]
    rfl

/-- An origin follows a pattern in lower case exactly if it does so in some case of both. -/
theorem matchesInSomeCase_iff : matchesInSomeCase pattern origin = true ↔
    ∃ rewritten respelled, Text.lower rewritten = Text.lower pattern ∧
      Text.lower respelled = Text.lower origin ∧ originMatches rewritten respelled = true := by
  constructor
  · exact fun fits => ⟨_, _, Text.lower_lower pattern, Text.lower_lower origin, fits⟩
  · rintro ⟨rewritten, respelled, samePattern, sameOrigin, fits⟩
    rw [matchesInSomeCase, ← samePattern, ← sameOrigin]
    exact matchesInSomeCase_of_originMatches fits

/-- A pattern that does not heed case is followed in every case if it is in some. -/
theorem originMatches_of_not_heedsCase (heedless : heedsCase pattern = false)
    (samePattern : Text.lower rewritten = Text.lower pattern)
    (sameOrigin : Text.lower respelled = Text.lower origin)
    (fits : matchesInSomeCase pattern origin = true) :
    originMatches rewritten respelled = true := by
  rw [matchesInSomeCase, ← sameOrigin] at fits
  rcases plain_or_around pattern with plain | ⟨start, ending, first, rfl⟩
  · have lowered := plain_of_lower_eq plain (Text.lower_lower pattern)
    rw [originMatches_plain_iff lowered, Text.lower_lower, Text.lower_lower] at fits
    rw [originMatches_plain_iff (plain_of_lower_eq plain samePattern), samePattern, fits]
  · rw [heedsCase_around] at heedless
    rw [Text.lower_of_no_letters heedless, originMatches_around_iff first] at fits
    obtain ⟨middle, cut⟩ := fits
    rw [Text.eq_of_no_letters heedless samePattern, originMatches_around_iff first]
    rw [hasLetters_around, Bool.or_eq_false_iff] at heedless
    obtain ⟨noneBefore, noneAfter⟩ := heedless
    -- the ends of the origin are those of the pattern, for they have no letters
    obtain ⟨x, y, z, rfl, front, back⟩ := Text.exists_between_of_lower cut
    rw [← Text.lower_of_no_letters noneBefore] at front
    rw [← Text.lower_of_no_letters noneAfter] at back
    rw [Text.eq_of_no_letters noneBefore front, Text.eq_of_no_letters noneAfter back]
    exact ⟨y, rfl⟩

/-- A pattern in upper case that an origin in lower case follows does not heed case. -/
theorem not_heedsCase_of_upper
    (fits : originMatches (Text.upper pattern) (Text.lower origin) = true) :
    heedsCase pattern = false := by
  rcases plain_or_around pattern with plain | ⟨start, ending, first, rfl⟩
  · rw [heedsCase]
    simp [plain]
  · have capitals := plain_of_lower_eq first (Text.lower_upper start)
    rw [Text.upper, map_around rfl] at fits
    obtain ⟨middle, cut⟩ := (originMatches_around_iff capitals).mp fits
    obtain ⟨x, y, z, -, front, back⟩ := Text.exists_between_of_lower cut
    rw [heedsCase_around, hasLetters_around, Text.no_letters_of_upper_eq_lower front.symm,
      Text.no_letters_of_upper_eq_lower back.symm, Bool.or_false]

end Case

section Settings
variable {cors rewritten : CorsSettings} {origin respelled : String}

/-- Letter case does not decide about an origin: where it follows a pattern in some case, it follows
one that does not heed case. -/
def Steady (cors : CorsSettings) (origin : String) : Prop :=
  ∀ pattern ∈ cors.origins, matchesInSomeCase pattern origin = true →
    ∃ other ∈ cors.origins, matchesInSomeCase other origin = true ∧ heedsCase other = false

theorem exists_mem_of_map_lower {texts others : List String} {text : String}
    (same : texts.map Text.lower = others.map Text.lower) (member : text ∈ texts) :
    ∃ other ∈ others, Text.lower other = Text.lower text := by
  have listed : Text.lower text ∈ others.map Text.lower := by
    rw [← same]
    exact List.mem_map_of_mem member
  exact List.mem_map.mp listed

theorem Steady.originAllowed_iff (steady : Steady cors origin)
    (samePatterns : rewritten.origins.map Text.lower = cors.origins.map Text.lower)
    (sameOrigin : Text.lower respelled = Text.lower origin) :
    originAllowed rewritten respelled = true ↔
      ∃ pattern ∈ cors.origins, matchesInSomeCase pattern origin = true := by
  rw [originAllowed, List.any_eq_true]
  constructor
  · rintro ⟨pattern, member, fits⟩
    obtain ⟨other, listed, same⟩ := exists_mem_of_map_lower samePatterns member
    exact ⟨other, listed,
      matchesInSomeCase_iff.mpr ⟨pattern, respelled, same.symm, sameOrigin, fits⟩⟩
  · rintro ⟨pattern, member, fits⟩
    obtain ⟨firm, firmMember, firmFits, heedless⟩ := steady pattern member fits
    obtain ⟨other, listed, same⟩ := exists_mem_of_map_lower samePatterns.symm firmMember
    exact ⟨other, listed, originMatches_of_not_heedsCase heedless same sameOrigin firmFits⟩

/-- An origin that is not steady is let in by the patterns in lower case and shut out by the
patterns in upper case. -/
theorem steady_of_ignored
    (ignored : originAllowed { cors with origins := cors.origins.map Text.upper }
        (Text.lower origin) =
      originAllowed { cors with origins := cors.origins.map Text.lower } (Text.lower origin)) :
    Steady cors origin := by
  intro pattern member fits
  have small : originAllowed { cors with origins := cors.origins.map Text.lower }
      (Text.lower origin) = true :=
    List.any_eq_true.mpr ⟨_, List.mem_map_of_mem member, fits⟩
  rw [small, originAllowed, List.any_eq_true] at ignored
  obtain ⟨_, listed, capitals⟩ := ignored
  obtain ⟨other, otherMember, rfl⟩ := List.mem_map.mp listed
  refine ⟨other, otherMember, ?_, not_heedsCase_of_upper capitals⟩
  exact matchesInSomeCase_iff.mpr
    ⟨_, _, Text.lower_upper other, Text.lower_lower origin, capitals⟩

end Settings

/-- No change of case in the patterns of settings and in an origin changes whether the origin is
allowed exactly if, where it follows a pattern in some case, it follows one without an asterisk or
without letters. -/
theorem case_is_ignored_iff_steady (cors : CorsSettings) (origin : String) :
    (∀ (rewritten : CorsSettings) (respelled : String),
      rewritten.origins.map Text.lower = cors.origins.map Text.lower →
      Text.lower respelled = Text.lower origin →
      originAllowed rewritten respelled = originAllowed cors origin) ↔ Steady cors origin := by
  constructor
  · intro ignored
    refine steady_of_ignored ?_
    rw [ignored _ _ ?_ (Text.lower_lower origin), ignored _ _ ?_ (Text.lower_lower origin)]
    · simp [Function.comp_def, Text.lower_lower]
    · simp [Function.comp_def, Text.lower_upper]
  · intro steady rewritten respelled samePatterns sameOrigin
    rw [Bool.eq_iff_iff, steady.originAllowed_iff samePatterns sameOrigin,
      steady.originAllowed_iff rfl rfl]

/-- Settings in which the name of a site begins with a capital letter. -/
def exampleCapital : CorsSettings :=
  { CorsSettings.standard with origins := ["https://*.App.test"] }

/-- The settings shut out the site as browsers write its name, and would let it in if they had its
name in lower case. -/
theorem exampleCapital_shuts_out :
    originAllowed exampleCapital "https://api.app.test" = false ∧
    originAllowed { exampleCapital with origins := ["https://*.app.test"] }
      "https://api.app.test" = true ∧
    ["https://*.app.test"].map Text.lower = exampleCapital.origins.map Text.lower := by
  refine ⟨by decide +kernel, by decide +kernel, ?_⟩
  have same : Text.lower "https://*.app.test" = Text.lower "https://*.App.test" := by
    rw [← String.toList_inj, Text.toList_lower, Text.toList_lower]
    decide
  exact congrArg (fun text => [text]) same

end EventRelay.Cors
