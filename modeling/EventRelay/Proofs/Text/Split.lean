import EventRelay.Text.Split

set_option autoImplicit false

/-!
Texts that are put together and cut again: what a text begins and ends with, what stands between the
two, and its pieces between the occurrences of a character.
-/
namespace EventRelay.Text

theorem after?_append (start rest : String) : after? start (start ++ rest) = some rest := by
  have split : (start ++ rest).toList = start.toList ++ rest.toList := String.toList_append
  rw [after?, (dropStart?_eq_some_iff _ _ _).mpr split, Option.map_some, String.ofList_toList]

theorem beginsWith_append (start rest : String) : beginsWith start (start ++ rest) = true := by
  rw [beginsWith, after?_append]
  rfl

theorem beginsWith_iff {start text : String} :
    beginsWith start text = true ↔ ∃ rest, text = start ++ rest := by
  constructor
  · intro begins
    obtain ⟨rest, found⟩ := Option.isSome_iff_exists.mp begins
    obtain ⟨cs, dropped, rfl⟩ := Option.map_eq_some_iff.mp found
    refine ⟨String.ofList cs, String.toList_inj.mp ?_⟩
    rw [String.toList_append, String.toList_ofList]
    exact (dropStart?_eq_some_iff ..).mp dropped
  · rintro ⟨rest, rfl⟩
    exact beginsWith_append start rest

theorem endsWith_iff {ending text : String} :
    endsWith ending text = true ↔ ∃ rest, text = rest ++ ending := by
  simp only [endsWith, Option.isSome_iff_exists, dropStart?_eq_some_iff]
  constructor
  · rintro ⟨cs, split⟩
    refine ⟨String.ofList cs.reverse, String.toList_inj.mp ?_⟩
    rw [String.toList_append, String.toList_ofList, ← List.reverse_reverse text.toList, split,
      List.reverse_append, List.reverse_reverse]
  · rintro ⟨rest, rfl⟩
    exact ⟨rest.toList.reverse, by rw [String.toList_append, List.reverse_append]⟩

/-- One of the two cuts stands before the other or where it stands, with what is between them. -/
theorem append_eq_append_iff {a b c d : String} :
    a ++ b = c ++ d ↔ (∃ m, c = a ++ m ∧ b = m ++ d) ∨ ∃ m, a = c ++ m ∧ d = m ++ b := by
  constructor
  · intro same
    have chars : a.toList ++ b.toList = c.toList ++ d.toList := by
      rw [← String.toList_append, ← String.toList_append, same]
    rcases List.append_eq_append_iff.mp chars with ⟨cs, front, back⟩ | ⟨cs, front, back⟩
    · refine Or.inl ⟨String.ofList cs, ?_, ?_⟩ <;> apply String.toList_inj.mp <;> simp [front, back]
    · refine Or.inr ⟨String.ofList cs, ?_, ?_⟩ <;> apply String.toList_inj.mp <;> simp [front, back]
  · rintro (⟨m, rfl, rfl⟩ | ⟨m, rfl, rfl⟩)
    · exact String.append_assoc.symm
    · exact String.append_assoc

/-- A text that begins with one text and ends with another has something between the two if it has
room for both. -/
theorem exists_between {start after before ending : String}
    (same : start ++ after = before ++ ending)
    (room : start.utf8ByteSize + ending.utf8ByteSize ≤ (start ++ after).utf8ByteSize) :
    ∃ middle, after = middle ++ ending := by
  rcases append_eq_append_iff.mp same with ⟨middle, -, split⟩ | ⟨shared, rfl, rfl⟩
  · exact ⟨middle, split⟩
  · -- what both cover counts twice, so there is room for it only if it is empty
    have none : shared.utf8ByteSize = 0 := by
      simp only [String.utf8ByteSize_append] at room
      omega
    obtain rfl := String.utf8ByteSize_eq_zero_iff.mp none
    exact ⟨"", by rw [String.empty_append, String.empty_append]⟩

section Cut
variable {sep : Char} {text : String}

theorem cut?_eq_some_iff {before after : String} : cut? sep text = some (before, after) ↔
    text = before ++ String.singleton sep ++ after ∧ sep ∉ before.toList := by
  simp only [cut?, Option.map_eq_some_iff, Prod.exists, Prod.mk.injEq, cutOf?_eq_some_iff]
  constructor
  · rintro ⟨x, y, ⟨split, absent⟩, rfl, rfl⟩
    refine ⟨String.toList_inj.mp ?_, ?_⟩
    · simp [split]
    · rwa [String.toList_ofList]
  · rintro ⟨rfl, absent⟩
    exact ⟨before.toList, after.toList, ⟨by simp, absent⟩, String.ofList_toList,
      String.ofList_toList⟩

theorem cut?_eq_none_iff : cut? sep text = none ↔ sep ∉ text.toList := by
  constructor
  · intro cut member
    obtain ⟨before, after, split, absent⟩ := List.eq_append_cons_of_mem member
    have found := (cutOf?_eq_some_iff sep _ before after).mpr ⟨split, absent⟩
    rw [cut?, found] at cut
    cases cut
  · intro absent
    rw [Option.eq_none_iff_forall_ne_some]
    rintro ⟨before, after⟩ cut
    obtain ⟨rfl, -⟩ := cut?_eq_some_iff.mp cut
    simp at absent

end Cut

theorem piecesOf_eq_splitOn (sep : Char) (cs : List Char) : piecesOf sep cs = cs.splitOn sep := by
  induction cs with
  | nil => rfl
  | cons c rest ih =>
      rw [List.splitOn, List.splitOnP_cons_eq_if_modifyHead, piecesOf, ih]
      by_cases here : c = sep
      · simp [here, List.splitOn]
      · obtain ⟨first, others, split⟩ :=
          List.exists_cons_of_ne_nil (List.splitOnP_ne_nil (· == sep) rest)
        simp [here, List.splitOn, split]

section Pieces
variable {sep : Char} {text : String} {texts : List String}

/-- Texts that are joined by a character that none of them has are the pieces of the whole. -/
theorem pieces_intercalate (filled : texts ≠ []) (whole : ∀ text ∈ texts, sep ∉ text.toList) :
    pieces sep ((String.singleton sep).intercalate texts) = texts := by
  have same : texts.map String.toList ≠ [] := by simpa using filled
  rw [pieces, piecesOf_eq_splitOn, String.toList_intercalate, String.toList_singleton,
    List.splitOn_intercalate sep (by simpa using whole) same, List.map_map]
  simp

theorem intercalate_pieces (sep : Char) (text : String) :
    (String.singleton sep).intercalate (pieces sep text) = text := by
  refine String.toList_inj.mp ?_
  rw [String.toList_intercalate, String.toList_singleton, pieces, List.map_map, piecesOf_eq_splitOn]
  have same : (text.toList.splitOn sep).map (String.toList ∘ String.ofList) =
      text.toList.splitOn sep := by
    simp
  rw [same, List.intercalate_splitOn]

theorem not_mem_of_mem_piecesOf {cs piece : List Char} (member : piece ∈ piecesOf sep cs) :
    sep ∉ piece := by
  induction cs generalizing piece with
  | nil =>
      rw [List.mem_singleton.mp member]
      exact List.not_mem_nil
  | cons c rest ih =>
      obtain ⟨first, others, split⟩ := List.exists_cons_of_ne_nil (piecesOf_ne_nil sep rest)
      rw [piecesOf] at member
      rw [split] at ih member
      split at member
      · rcases List.mem_cons.mp member with rfl | later
        · exact List.not_mem_nil
        · exact ih later
      · rename_i other
        rcases List.mem_cons.mp member with rfl | later
        · exact List.not_mem_cons_of_ne_of_not_mem (Ne.symm other) (ih List.mem_cons_self)
        · exact ih (List.mem_cons_of_mem _ later)

theorem not_mem_of_mem_pieces {whole : String} (member : text ∈ pieces sep whole) :
    sep ∉ text.toList := by
  obtain ⟨piece, listed, rfl⟩ := List.mem_map.mp member
  rw [String.toList_ofList]
  exact not_mem_of_mem_piecesOf listed

end Pieces
end EventRelay.Text
