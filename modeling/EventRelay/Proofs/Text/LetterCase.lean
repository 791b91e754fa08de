import EventRelay.Text.Characters
import Mathlib

set_option autoImplicit false

/-!
Letter case. Texts that differ in nothing else are the same in lower case, and they can be cut in
the same places. A text without letters differs from others in more than letter case.
-/
namespace EventRelay.Text

/-- Whether a text has a letter, so that it is another text in another case. -/
def hasLetters (text : String) : Bool := text.toList.any Char.isAlpha

theorem upper_upper (text : String) : upper (upper text) = upper text := by
  refine String.toList_inj.mp ?_
  simp

theorem lower_lower (text : String) : lower (lower text) = lower text := by
  refine String.toList_inj.mp ?_
  simp

theorem lower_upper (text : String) : lower (upper text) = lower text := by
  refine String.toList_inj.mp ?_
  simp

theorem map_append (f : Char → Char) (front back : String) :
    (front ++ back).map f = front.map f ++ back.map f := by
  refine String.toList_inj.mp ?_
  simp

section Text
variable {text front back : String} {c : Char}

theorem exists_append_of_lower (cut : lower text = front ++ back) :
    ∃ x y, text = x ++ y ∧ lower x = front ∧ lower y = back := by
  have chars : text.toList.map Char.toLower = front.toList ++ back.toList := by
    rw [← toList_lower, cut, String.toList_append]
  obtain ⟨cs, ds, split, first, second⟩ := List.map_eq_append_iff.mp chars
  refine ⟨String.ofList cs, String.ofList ds, ?_, ?_, ?_⟩
  · rw [← String.ofList_append, ← split, String.ofList_toList]
  · exact String.toList_inj.mp (by rw [toList_lower, String.toList_ofList, first])
  · exact String.toList_inj.mp (by rw [toList_lower, String.toList_ofList, second])

theorem exists_between_of_lower {middle : String} (cut : lower text = front ++ middle ++ back) :
    ∃ x y z, text = x ++ y ++ z ∧ lower x = front ∧ lower z = back := by
  obtain ⟨before, z, rfl, rest, last⟩ := exists_append_of_lower cut
  obtain ⟨x, y, rfl, first, -⟩ := exists_append_of_lower rest
  exact ⟨x, y, z, rfl, first, last⟩

theorem toLower_of_not_isAlpha (plain : c.isAlpha = false) : c.toLower = c := by
  rw [Char.isAlpha, Bool.or_eq_false_iff] at plain
  exact Char.toLower_eq_of_not_isUpper (Bool.eq_false_iff.mp plain.1)

/-- A character other than a letter stands in a text whatever the case of the letters. -/
theorem mem_toList_lower_iff (plain : c.isAlpha = false) :
    c ∈ (lower text).toList ↔ c ∈ text.toList := by
  rw [toList_lower, List.mem_map]
  constructor
  · rintro ⟨d, member, rfl⟩
    rw [Char.isAlpha_toLower_eq_isAlpha] at plain
    rwa [toLower_of_not_isAlpha plain]
  · intro member
    exact ⟨c, member, toLower_of_not_isAlpha plain⟩

/-- Texts that differ in letter case only have the same other characters. -/
theorem mem_toList_iff_of_lower_eq (plain : c.isAlpha = false) (same : lower front = lower back) :
    c ∈ front.toList ↔ c ∈ back.toList := by
  rw [← mem_toList_lower_iff plain, same, mem_toList_lower_iff plain]

theorem hasLetters_append : hasLetters (front ++ back) = (hasLetters front || hasLetters back) := by
  rw [hasLetters, String.toList_append, List.any_append]
  rfl

theorem hasLetters_lower (text : String) : hasLetters (lower text) = hasLetters text := by
  rw [hasLetters, toList_lower, List.any_map]
  simp [hasLetters, Function.comp_def]

theorem lower_of_no_letters (none : hasLetters text = false) : lower text = text := by
  refine String.toList_inj.mp ?_
  rw [toList_lower]
  have each : ∀ c ∈ text.toList, c.toLower = id c := by
    intro c member
    exact toLower_of_not_isAlpha (by simpa using List.any_eq_false.mp none c member)
  rw [List.map_congr_left each, List.map_id]

/-- A text without letters is told from every other text in lower case. -/
theorem eq_of_no_letters (none : hasLetters front = false) (same : lower back = lower front) :
    back = front := by
  have other : hasLetters back = false := by
    rw [← hasLetters_lower, same, hasLetters_lower, none]
  rw [← lower_of_no_letters other, same, lower_of_no_letters none]

theorem no_letters_of_upper_eq_lower (same : upper front = lower back) :
    hasLetters front = false := by
  rw [hasLetters, List.any_eq_false]
  intro c member letter
  have listed : c.toUpper ∈ (lower back).toList := by
    rw [← same, toList_upper]
    exact List.mem_map_of_mem member
  rw [toList_lower] at listed
  obtain ⟨d, -, lowered⟩ := List.mem_map.mp listed
  have small : c.toUpper.isUpper = false := by
    rw [← lowered, Char.isUpper_toLower_eq_false]
  rw [Char.isUpper_toUpper_eq_isAlpha, letter] at small
  cases small

end Text
end EventRelay.Text
