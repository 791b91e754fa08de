import EventRelay.Http.Uri
import EventRelay.Proofs.Text.Split
import Mathlib.Data.List.TakeWhile

set_option autoImplicit false

/-!
Which paths the targets of requests have: those of characters that a path may hold, up to a length.
Every such path that begins with a slash is the target of a request as it stands.
-/
namespace EventRelay.Uri

def maxLength : Nat := 65534

/-- Whether a text may be the path of a target. -/
structure IsPath (path : String) : Prop where
  chars : path.toList.all isPathChar = true
  short : path.utf8ByteSize ≤ maxLength

def written (target : String) : String := String.ofList (target.toList.takeWhile (· ≠ '?'))

section Cut
variable {target path query : String}

theorem eq_written_of_cut? (cut : Text.cut? '?' target = some (path, query)) :
    path = written target := by
  obtain ⟨rfl, absent⟩ := Text.cut?_eq_some_iff.mp cut
  have all : ∀ c ∈ path.toList, decide (c ≠ '?') = true := by
    intro c member
    simpa using ne_of_mem_of_not_mem member absent
  rw [written, String.toList_append, String.toList_append, String.toList_singleton,
    List.append_assoc, List.takeWhile_append_of_pos all, List.singleton_append,
    List.takeWhile_cons_of_neg (by simp), List.append_nil, String.ofList_toList]

theorem written_eq_self (absent : '?' ∉ target.toList) : written target = target := by
  have all : ∀ c ∈ target.toList, decide (c ≠ '?') = true := by
    intro c member
    simpa using ne_of_mem_of_not_mem member absent
  rw [written, List.takeWhile_eq_self_iff.mpr all, String.ofList_toList]

end Cut

theorem path_eq_written_or (uri : Uri) : uri.path = written uri.target ∨ uri.path = "/" := by
  unfold path
  cases cut : Text.cut? '?' uri.target with
  | none =>
      rw [written_eq_self (Text.cut?_eq_none_iff.mp cut)]
      dsimp only
      split
      · exact Or.inr rfl
      · exact Or.inl rfl
  | some found =>
      obtain ⟨path, query⟩ := found
      rw [eq_written_of_cut? cut]
      dsimp only
      split
      · exact Or.inr rfl
      · exact Or.inl rfl

theorem isPath_slash : IsPath "/" := ⟨by decide, by decide⟩

theorem isPath_written_empty : IsPath (written "") := ⟨by decide +kernel, by decide +kernel⟩

section Parsed
variable {cs : List Char} {text target : String} {query : Option String}

theorem utf8ByteSize_le_of_inside {part whole : List Char} (inside : part <:+: whole) :
    (String.ofList part).utf8ByteSize ≤ (String.ofList whole).utf8ByteSize := by
  obtain ⟨before, after, rfl⟩ := inside
  rw [String.ofList_append, String.ofList_append, String.utf8ByteSize_append,
    String.utf8ByteSize_append]
  omega

theorem isPath_of_target? (parsed : target? cs = some (target, query))
    (short : (String.ofList cs).utf8ByteSize ≤ maxLength) : IsPath (written target) := by
  unfold target? at parsed
  dsimp only at parsed
  split at parsed
  · cases parsed
  · rename_i fits
    rw [Decidable.not_not] at fits
    have same : target = String.ofList (cs.takeWhile (· ≠ '#')) := by
      split at parsed
      · cases parsed
        rfl
      · split at parsed
        · cases parsed
          rfl
        · cases parsed
    subst same
    refine ⟨?_, ?_⟩
    · simpa [written] using fits
    · refine Nat.le_trans (utf8ByteSize_le_of_inside ?_) short
      rw [String.toList_ofList]
      exact ((List.takeWhile_prefix _).trans (List.takeWhile_prefix _)).isInfix

theorem infix_of_scheme? {scheme : String} {rest : List Char}
    (separated : scheme? cs = some (scheme, rest)) : rest <:+: cs := by
  unfold scheme? at separated
  split at separated
  · rename_i found
    cases separated
    have inside : rest <:+: cs.dropWhile Url.isSchemeChar := by
      rw [found]
      exact ⟨[':', '/', '/'], [], by simp⟩
    exact inside.trans (List.dropWhile_suffix _).isInfix
  · cases separated

theorem isPath_of_parse? {uri : Uri} (parsed : parse? text = some uri) : IsPath uri.path := by
  suffices whole : IsPath (written uri.target) by
    rcases path_eq_written_or uri with same | same
    · rwa [same]
    · rw [same]
      exact isPath_slash
  unfold parse? at parsed
  split at parsed
  · cases parsed
  · rename_i bounded
    have short : (String.ofList text.toList).utf8ByteSize ≤ maxLength := by
      rw [String.ofList_toList]
      exact Nat.not_lt.mp bounded
    split at parsed
    · cases parsed
    · cases parsed
      exact ⟨by decide +kernel, by decide +kernel⟩
    · rename_i rest same
      rw [same] at short
      obtain ⟨⟨target, query⟩, found, same⟩ := Option.map_eq_some_iff.mp parsed
      cases same
      exact isPath_of_target? found short
    · split at parsed
      · split at parsed
        · cases parsed
          exact isPath_written_empty
        · cases parsed
      · rename_i scheme rest separated
        dsimp only at parsed
        split at parsed
        · cases parsed
        · obtain ⟨⟨target, query⟩, found, same⟩ := Option.map_eq_some_iff.mp parsed
          cases same
          refine isPath_of_target? found (Nat.le_trans (utf8ByteSize_le_of_inside ?_) short)
          exact (List.dropWhile_suffix _).isInfix.trans (infix_of_scheme? separated)

end Parsed

section Written
variable {path : String}

theorem ne_of_isPathChar {c : Char} (allowed : isPathChar c = true) : c ≠ '#' ∧ c ≠ '?' := by
  constructor
  · rintro rfl
    revert allowed
    decide
  · rintro rfl
    revert allowed
    decide

theorem parse?_eq_of_isPath (rooted : ∃ rest, path.toList = '/' :: rest) (allowed : IsPath path) :
    parse? path = some ⟨none, none, path, none⟩ := by
  obtain ⟨rest, begins⟩ := rooted
  have unlike : ∀ c ∈ path.toList, c ≠ '#' ∧ c ≠ '?' := fun c member =>
    ne_of_isPathChar (List.all_eq_true.mp allowed.chars c member)
  have unmarked : path.toList.takeWhile (· ≠ '#') = path.toList :=
    List.takeWhile_eq_self_iff.mpr fun c member => decide_eq_true (unlike c member).1
  have unquestioned : path.toList.takeWhile (· ≠ '?') = path.toList :=
    List.takeWhile_eq_self_iff.mpr fun c member => decide_eq_true (unlike c member).2
  have ended : path.toList.dropWhile (· ≠ '?') = [] :=
    List.dropWhile_eq_nil_iff.mpr fun c member => decide_eq_true (unlike c member).2
  have target : target? path.toList = some (path, none) := by
    simp only [target?, unmarked, unquestioned, ended, allowed.chars, String.ofList_toList,
      not_true_eq_false, ↓reduceIte]
  rw [begins] at target
  have short : ¬ 65534 < path.utf8ByteSize := Nat.not_lt.mpr allowed.short
  rw [parse?, if_neg short, begins]
  simp [target]

theorem path_of_isPath (filled : path ≠ "") (allowed : IsPath path) :
    (⟨none, none, path, none⟩ : Uri).path = path := by
  cases cut : Text.cut? '?' path with
  | none => simp [Uri.path, cut, filled]
  | some found =>
      obtain ⟨before, after⟩ := found
      have member : '?' ∈ path.toList := by
        rw [(Text.cut?_eq_some_iff.mp cut).1]
        simp
      exact absurd rfl (ne_of_isPathChar (List.all_eq_true.mp allowed.chars _ member)).2

end Written
end EventRelay.Uri
