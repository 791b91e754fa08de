import EventRelay.Proofs.Http.Targets
import EventRelay.Proofs.Route.Compatibility
import EventRelay.Proofs.Text.Split

set_option autoImplicit false

/-!
The paths that a route matches. Each holds the static segments of the route, and none is shorter
than the one in which the other segments are left empty.
-/
namespace EventRelay.Route

def joined (texts : List String) : String := "/" ++ "/".intercalate texts

section Segments
variable {path text : String} {texts : List String} {c : Char}

theorem segments_slash_append {rest : String} (filled : rest ≠ "") :
    segments ("/" ++ rest) = Text.pieces '/' rest := by
  have longer : "/" ++ rest ≠ "/" := by
    intro same
    refine filled (String.toList_inj.mp ?_)
    have chars := congrArg String.toList same
    simpa using chars
  have unlike : "/" ++ rest ≠ "" := by simp
  rw [segments, if_neg (by simp [longer, unlike]), Text.after?_append, Option.getD_some]

/-- The segments of a path are what it was put together from, but one empty segment is as good as
none. -/
theorem segments_joined (whole : ∀ text ∈ texts, '/' ∉ text.toList) (other : texts ≠ [""]) :
    segments (joined texts) = texts := by
  by_cases none : texts = []
  · rw [none]
    decide
  · have pieces : Text.pieces '/' ("/".intercalate texts) = texts :=
      Text.pieces_intercalate none whole
    rw [joined, segments_slash_append, pieces]
    intro empty
    rw [empty] at pieces
    exact other pieces.symm

theorem joined_segments (rooted : Text.beginsWith "/" path = true) :
    joined (segments path) = path := by
  obtain ⟨rest, rfl⟩ := Text.beginsWith_iff.mp rooted
  by_cases filled : rest = ""
  · rw [filled]
    decide
  · rw [segments_slash_append filled, joined]
    exact congrArg ("/" ++ ·) (Text.intercalate_pieces '/' rest)

theorem segments_ne_empty_text (rooted : Text.beginsWith "/" path = true) :
    segments path ≠ [""] := by
  intro single
  have same := joined_segments rooted
  rw [single] at same
  rw [← same] at single
  revert single
  decide

theorem not_mem_of_mem_segments (rooted : Text.beginsWith "/" path = true)
    (member : text ∈ segments path) : '/' ∉ text.toList := by
  obtain ⟨rest, rfl⟩ := Text.beginsWith_iff.mp rooted
  by_cases filled : rest = ""
  · rw [filled] at member
    cases member
  · rw [segments_slash_append filled] at member
    exact Text.not_mem_of_mem_pieces member

end Segments

section Joined
variable {text second : String} {rest texts : List String} {c : Char}

theorem joined_singleton (text : String) : joined [text] = "/" ++ text := by
  rw [joined, String.intercalate_singleton]

theorem joined_cons_cons :
    joined (text :: second :: rest) = "/" ++ text ++ joined (second :: rest) := by
  rw [joined, joined, String.intercalate_cons_cons, String.append_assoc, String.append_assoc]

theorem mem_joined_iff :
    c ∈ (joined texts).toList ↔ c = '/' ∨ ∃ text ∈ texts, c ∈ text.toList := by
  induction texts with
  | nil => simp [joined]
  | cons text rest ih =>
      cases rest with
      | nil => simp [joined_singleton]
      | cons second rest =>
          rw [joined_cons_cons, String.toList_append, List.mem_append, ih]
          simp only [String.toList_append, List.mem_append, List.mem_cons, exists_eq_or_imp]
          constructor
          · rintro ((slash | here) | slash | there)
            · exact Or.inl (by simpa using slash)
            · exact Or.inr (Or.inl here)
            · exact Or.inl slash
            · exact Or.inr (Or.inr there)
          · rintro (slash | here | there)
            · exact Or.inr (Or.inl slash)
            · exact Or.inl (Or.inr here)
            · exact Or.inr (Or.inr there)

theorem utf8ByteSize_joined_singleton (text : String) :
    (joined [text]).utf8ByteSize = 1 + text.utf8ByteSize := by
  rw [joined_singleton, String.utf8ByteSize_append]
  rfl

theorem utf8ByteSize_joined_cons_cons : (joined (text :: second :: rest)).utf8ByteSize =
    1 + text.utf8ByteSize + (joined (second :: rest)).utf8ByteSize := by
  rw [joined_cons_cons, String.utf8ByteSize_append, String.utf8ByteSize_append]
  rfl

end Joined

section Static
variable {route : List Segment} {path : List String} {found : List (String × String)}
  {text : String}

theorem mem_of_captures (matched : captures route path = some found)
    (member : .static text ∈ route) : text ∈ path := by
  induction route generalizing path found with
  | nil => cases member
  | cons a route ih =>
      cases path with
      | nil => simp at matched
      | cons segment path =>
          cases a with
          | static own =>
              obtain ⟨rfl, tail⟩ := captures_static_eq_some_iff.mp matched
              rcases List.mem_cons.mp member with same | later
              · cases same
                exact List.mem_cons_self
              · exact List.mem_cons_of_mem _ (ih tail later)
          | param name =>
              rw [captures_param] at matched
              obtain ⟨rest, tail, -⟩ := Option.map_eq_some_iff.mp matched
              rcases List.mem_cons.mp member with same | later
              · cases same
              · exact List.mem_cons_of_mem _ (ih tail later)
          | wildcard name =>
              cases route with
              | nil => cases List.mem_singleton.mp member
              | cons b route => simp at matched

theorem eq_of_ofText_static {spelled : String} (same : Segment.ofText spelled = .static text) :
    text = spelled := by
  unfold Segment.ofText at same
  split at same
  · cases same
  · cases same
  · cases same
    rfl

theorem mem_segments_of_mem_pattern {spelled : String} (member : .static text ∈ pattern spelled) :
    text ∈ segments spelled := by
  obtain ⟨own, listed, same⟩ := List.mem_map.mp member
  rwa [eq_of_ofText_static same]

end Static

def Segment.least : Segment → String
  | .static text => text
  | _ => ""

/-- The segments of the shortest path that a route matches. A path of a slash alone has no segments,
so one that matches any segment is not left empty where it stands alone. -/
def leastSegments : List Segment → List String
  | [.param _] => ["x"]
  | [.wildcard _] => ["x"]
  | route => route.map Segment.least

def leastPath (route : List Segment) : String := joined (leastSegments route)

section Least
variable {route : List Segment} {path : String} {found : List (String × String)} {c : Char}

theorem exists_captures_map_least (last : WildcardLast route) :
    ∃ found, captures route (route.map Segment.least) = some found := by
  induction route with
  | nil => exact ⟨[], rfl⟩
  | cons a route ih =>
      cases a with
      | static text =>
          obtain ⟨found, matched⟩ := ih ((wildcardLast_static ..).mp last)
          exact ⟨found, by simpa [Segment.least] using matched⟩
      | param name =>
          obtain ⟨found, matched⟩ := ih ((wildcardLast_param ..).mp last)
          exact ⟨_, by rw [List.map_cons, captures_param, matched]; rfl⟩
      | wildcard name =>
          obtain rfl := (wildcardLast_wildcard ..).mp last
          exact ⟨_, rfl⟩

/-- A route whose wildcard is its last segment matches the segments of its shortest path. -/
theorem exists_captures_leastSegments (last : WildcardLast route) :
    ∃ found, captures route (leastSegments route) = some found := by
  unfold leastSegments
  split
  · exact ⟨_, rfl⟩
  · exact ⟨_, rfl⟩
  · exact exists_captures_map_least last

/-- The segments of the shortest path hold what static segments hold, and at most one other
letter. -/
theorem eq_of_mem_leastSegments {text : String} (member : text ∈ leastSegments route) :
    .static text ∈ route ∨ text = "" ∨ text = "x" := by
  unfold leastSegments at member
  split at member
  · exact Or.inr (Or.inr (List.mem_singleton.mp member))
  · exact Or.inr (Or.inr (List.mem_singleton.mp member))
  · obtain ⟨a, listed, rfl⟩ := List.mem_map.mp member
    cases a with
    | static text => exact Or.inl listed
    | param name => exact Or.inr (Or.inl rfl)
    | wildcard name => exact Or.inr (Or.inl rfl)

theorem leastSegments_ne (other : route ≠ [.static ""]) : leastSegments route ≠ [""] := by
  intro single
  unfold leastSegments at single
  split at single
  · exact absurd (List.singleton_inj.mp single) (by decide)
  · exact absurd (List.singleton_inj.mp single) (by decide)
  · rename_i noParam noWildcard
    match route with
    | [] => cases single
    | [.static text] =>
        cases single
        exact other rfl
    | [.param name] => exact noParam name rfl
    | [.wildcard name] => exact noWildcard name rfl

theorem captures_cons_cons {a : Segment} {text : String} {texts : List String}
    (matched : captures (a :: route) (text :: texts) = some found) :
    a.least.utf8ByteSize ≤ text.utf8ByteSize ∧
      (route = [] ∨ ∃ rest, captures route texts = some rest) := by
  cases a with
  | static own =>
      obtain ⟨rfl, tail⟩ := captures_static_eq_some_iff.mp matched
      exact ⟨Nat.le_refl _, Or.inr ⟨found, tail⟩⟩
  | param name =>
      rw [captures_param] at matched
      obtain ⟨rest, tail, -⟩ := Option.map_eq_some_iff.mp matched
      exact ⟨Nat.zero_le _, Or.inr ⟨rest, tail⟩⟩
  | wildcard name =>
      cases route with
      | nil => exact ⟨Nat.zero_le _, Or.inl rfl⟩
      | cons b route => simp at matched

theorem utf8ByteSize_joined_map_least_le {texts : List String}
    (matched : captures route texts = some found) :
    (joined (route.map Segment.least)).utf8ByteSize ≤ (joined texts).utf8ByteSize := by
  induction route generalizing texts found with
  | nil =>
      cases texts with
      | nil => exact Nat.le_refl _
      | cons => simp at matched
  | cons a route ih =>
      cases texts with
      | nil => simp at matched
      | cons text texts =>
          obtain ⟨here, tail⟩ := captures_cons_cons matched
          cases route with
          | nil =>
              rw [List.map_singleton, utf8ByteSize_joined_singleton]
              cases texts with
              | nil =>
                  rw [utf8ByteSize_joined_singleton]
                  omega
              | cons second texts =>
                  rw [utf8ByteSize_joined_cons_cons]
                  omega
          | cons b route =>
              obtain ⟨rest, goesOn⟩ := tail.resolve_left (List.cons_ne_nil _ _)
              cases texts with
              | nil => simp at goesOn
              | cons second texts =>
                  have later := ih goesOn
                  rw [List.map_cons] at later
                  rw [List.map_cons, List.map_cons, utf8ByteSize_joined_cons_cons,
                    utf8ByteSize_joined_cons_cons]
                  omega

theorem two_le_utf8ByteSize {a : Segment} (rooted : Text.beginsWith "/" path = true)
    (matched : captures (a :: route) (segments path) = some found) : 2 ≤ path.utf8ByteSize := by
  obtain ⟨rest, rfl⟩ := Text.beginsWith_iff.mp rooted
  have filled : rest.utf8ByteSize ≠ 0 := by
    intro empty
    rw [String.utf8ByteSize_eq_zero_iff.mp empty] at matched
    have none : segments ("/" ++ "") = [] := by decide
    rw [none, captures_cons_nil] at matched
    cases matched
  have slash : ("/" : String).utf8ByteSize = 1 := rfl
  rw [String.utf8ByteSize_append, slash]
  omega

theorem utf8ByteSize_leastPath_le (rooted : Text.beginsWith "/" path = true)
    (matched : captures route (segments path) = some found) :
    (leastPath route).utf8ByteSize ≤ path.utf8ByteSize := by
  unfold leastPath leastSegments
  split
  · exact two_le_utf8ByteSize rooted matched
  · exact two_le_utf8ByteSize rooted matched
  · rw [← joined_segments rooted]
    exact utf8ByteSize_joined_map_least_le matched

end Least

/-- The path of a request can be one that a route matches: static segments hold only what paths
hold, and the shortest path is short enough. -/
structure Writable (route : List Segment) : Prop where
  chars : ∀ text, .static text ∈ route → text.toList.all Uri.isPathChar = true
  short : (leastPath route).utf8ByteSize ≤ Uri.maxLength

section Writable
variable {route : List Segment} {path : String} {found : List (String × String)}

theorem Writable.isPath (writable : Writable route) : Uri.IsPath (leastPath route) where
  chars := by
    refine List.all_eq_true.mpr fun c member => ?_
    rcases mem_joined_iff.mp member with rfl | ⟨text, listed, inside⟩
    · decide
    · rcases eq_of_mem_leastSegments listed with static | rfl | rfl
      · exact List.all_eq_true.mp (writable.chars text static) c inside
      · cases inside
      · rw [List.mem_singleton.mp inside]
        decide
  short := writable.short

theorem writable_of_captures (rooted : Text.beginsWith "/" path = true) (allowed : Uri.IsPath path)
    (matched : captures route (segments path) = some found) : Writable route where
  chars text static := by
    refine List.all_eq_true.mpr fun c inside => ?_
    have member : c ∈ (joined (segments path)).toList :=
      mem_joined_iff.mpr (Or.inr ⟨text, mem_of_captures matched static, inside⟩)
    rw [joined_segments rooted] at member
    exact List.all_eq_true.mp allowed.chars c member
  short := Nat.le_trans (utf8ByteSize_leastPath_le rooted matched) allowed.short

theorem beginsWith_joined (texts : List String) : Text.beginsWith "/" (joined texts) = true :=
  Text.beginsWith_append ..

theorem exists_captures_leastPath {spelled : String} (rooted : Text.beginsWith "/" spelled = true)
    (last : WildcardLast (pattern spelled)) :
    ∃ found, captures (pattern spelled) (segments (leastPath (pattern spelled))) = some found := by
  have whole : ∀ text ∈ leastSegments (pattern spelled), '/' ∉ text.toList := by
    intro text member
    rcases eq_of_mem_leastSegments member with static | rfl | rfl
    · exact not_mem_of_mem_segments rooted (mem_segments_of_mem_pattern static)
    · decide
    · decide
  have other : pattern spelled ≠ [.static ""] := by
    intro single
    obtain ⟨text, same, static⟩ := List.map_eq_singleton_iff.mp single
    refine segments_ne_empty_text rooted ?_
    rw [same, eq_of_ofText_static static]
  rw [leastPath, segments_joined whole (leastSegments_ne other)]
  exact exists_captures_leastSegments last

end Writable

end EventRelay.Route
