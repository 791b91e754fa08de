import EventRelay.Proofs.Keyed
import EventRelay.Proofs.Route.Acceptance

set_option autoImplicit false

/-!
Routes added one after another, some taken and some refused. The tree then holds those that were
taken and no others; they are compatible with one another, so a path matches at most one of them,
and it is this one that the path leads to.
-/
namespace EventRelay.Route.Tree

variable {α : Type}

/-- The tree after routes have been added in order, taken or refused. -/
def addAll : List (String × α) → Tree α → Tree α
  | [], tree => tree
  | (route, target) :: rest, tree => addAll rest (tree.add route target).1

/-- The routes that are taken when they are added in order. -/
def taken : List (String × α) → Tree α → List (String × α)
  | [], _ => []
  | (route, target) :: rest, tree =>
    if (tree.add route target).2 = none then
      (route, target) :: taken rest (tree.add route target).1
    else taken rest (tree.add route target).1

section Add
variable (tree : Tree α) (route : String) (new : α)

theorem stored_add (q : List Segment) : stored q (tree.add route new).1 =
    if (tree.add route new).2 = none ∧ q = pattern route then some new else stored q tree :=
  stored_addPattern route new (pattern route) q tree

theorem resolve_add_of_refused (refused : (tree.add route new).2 ≠ none) (path : String) :
    (tree.add route new).1.resolve path = tree.resolve path := by
  apply Option.ext
  rintro ⟨target, params⟩
  have kept : ∀ q, stored q (tree.add route new).1 = stored q tree := by
    intro q
    rw [stored_add, if_neg fun both => refused both.1]
  simp only [resolve_eq_some_iff, kept]

end Add

section Sequences
variable (calls : List (String × α)) (tree : Tree α)

/-- The routes that are taken have their wildcards last, are compatible with all that was there
before, and with one another. -/
theorem taken_compatible :
    (∀ call ∈ taken calls tree, WildcardLast (pattern call.1) ∧ Fits (pattern call.1) tree) ∧
      (taken calls tree).Pairwise fun first second =>
        Compatible (pattern first.1) (pattern second.1) := by
  induction calls generalizing tree with
  | nil => exact ⟨fun _ none => (nomatch none), .nil⟩
  | cons call rest ih =>
      obtain ⟨route, target⟩ := call
      obtain ⟨each, pairs⟩ := ih (tree.add route target).1
      by_cases accepted : (tree.add route target).2 = none
      · have fitsAfter := fits_addPattern_iff route target accepted
        rw [taken, if_pos accepted]
        refine ⟨fun other member => ?_, List.pairwise_cons.mpr ⟨fun other later => ?_, pairs⟩⟩
        · rcases List.mem_cons.mp member with rfl | later
          · exact fits_of_addPattern route target accepted
          · obtain ⟨last, fits⟩ := each other later
            exact ⟨last, ((fitsAfter _).mp fits).2⟩
        · exact ((fitsAfter _).mp (each other later).2).1.symm
      · rw [taken, if_neg accepted]
        refine ⟨fun other member => ?_, pairs⟩
        obtain ⟨last, fits⟩ := each other member
        refine ⟨last, fun q found kept => fits q found ?_⟩
        rw [stored_add, if_neg fun both => accepted both.1, kept]

theorem exists_mem_cons_iff {route : String} {target found : α} {rest : List (String × α)}
    {q : List Segment} :
    (∃ r, (r, found) ∈ (route, target) :: rest ∧ pattern r = q) ↔
      (q = pattern route ∧ target = found) ∨ ∃ r, (r, found) ∈ rest ∧ pattern r = q := by
  constructor
  · rintro ⟨r, member, same⟩
    rcases List.mem_cons.mp member with here | later
    · cases here
      exact Or.inl ⟨same.symm, rfl⟩
    · exact Or.inr ⟨r, later, same⟩
  · rintro (⟨same, rfl⟩ | ⟨r, later, same⟩)
    · exact ⟨route, List.mem_cons_self, same.symm⟩
    · exact ⟨r, List.mem_cons_of_mem _ later, same⟩

/-- The tree holds what it held and the routes that were taken. -/
theorem stored_addAll_eq_some_iff (q : List Segment) (found : α) :
    stored q (addAll calls tree) = some found ↔
      stored q tree = some found ∨
        ∃ route, (route, found) ∈ taken calls tree ∧ pattern route = q := by
  induction calls generalizing tree with
  | nil => simp [addAll, taken]
  | cons call rest ih =>
      obtain ⟨route, target⟩ := call
      rw [addAll, ih, stored_add]
      by_cases accepted : (tree.add route target).2 = none
      · have fits : Fits (pattern route) tree := (fits_of_addPattern route target accepted).2
        rw [taken, if_pos accepted, exists_mem_cons_iff, ← or_assoc]
        refine or_congr_left ?_
        by_cases same : q = pattern route
        · -- a route that is taken was not there before
          have absent : stored q tree ≠ some found := by
            intro kept
            refine not_compatible_self (pattern route) (fits _ found ?_)
            rwa [same] at kept
          simp [accepted, same, same ▸ absent]
        · simp [same]
      · simp [taken, accepted]

theorem resolve_addAll_eq_some_iff (path : String) (target : α) (params : Params) :
    (addAll calls empty).resolve path = some (target, params) ↔
      ∃ route captured, (route, target) ∈ taken calls empty ∧
        captures (pattern route) (segments path) = some captured ∧
        params = Keyed.ofList captured := by
  simp only [resolve_eq_some_iff, stored_addAll_eq_some_iff, stored_empty, reduceCtorEq, false_or]
  constructor
  · rintro ⟨-, captured, ⟨route, member, rfl⟩, matched, same⟩
    exact ⟨route, captured, member, matched, same⟩
  · rintro ⟨route, captured, member, matched, same⟩
    exact ⟨pattern route, captured, ⟨route, member, rfl⟩, matched, same⟩

/-- Of routes that are compatible with one another a path matches at most one. -/
theorem length_filter_captures_le {routes : List (String × α)}
    (compatible : routes.Pairwise fun first second =>
      Compatible (pattern first.1) (pattern second.1)) (path : List String) :
    (routes.filter fun call => (captures (pattern call.1) path).isSome).length ≤ 1 := by
  have pairs := compatible.filter fun call => (captures (pattern call.1) path).isSome
  have matching : ∀ call ∈ routes.filter fun call => (captures (pattern call.1) path).isSome,
      (captures (pattern call.1) path).isSome = true := by
    intro call member
    exact (List.mem_filter.mp member).2
  generalize routes.filter (fun call => (captures (pattern call.1) path).isSome) = found at *
  match found with
  | [] => exact Nat.zero_le 1
  | [_] => exact Nat.le_refl 1
  | first :: second :: rest =>
      have apart := (List.pairwise_cons.mp pairs).1 second List.mem_cons_self
      obtain ⟨captured, matched⟩ :=
        Option.isSome_iff_exists.mp (matching first List.mem_cons_self)
      have other := matching second (List.mem_cons_of_mem _ List.mem_cons_self)
      rw [apart.captures_eq_none matched] at other
      cases other

end Sequences

/-- Looking up is exact and leaves no choice. Whatever routes are added to the tree without routes,
and whichever of them are refused, a path leads to a value exactly when the value was added with a
route that was taken and that the path matches; there is at most one such route; of the segments
that it captures, each name has the last; and a further route that is refused changes no lookup. -/
theorem resolution_is_exact (calls : List (String × α)) :
    (∀ path target params, (addAll calls empty).resolve path = some (target, params) ↔
      ∃ route captured, (route, target) ∈ taken calls empty ∧
        captures (pattern route) (segments path) = some captured ∧
        params = Keyed.ofList captured ∧
        ∀ name, Keyed.get? params name = captured.reverse.lookup name) ∧
    (∀ path, ((taken calls empty).filter fun call =>
      (captures (pattern call.1) (segments path)).isSome).length ≤ 1) ∧
    (∀ route target, ((addAll calls empty).add route target).2 ≠ none → ∀ path,
      ((addAll calls empty).add route target).1.resolve path =
        (addAll calls empty).resolve path) := by
  refine ⟨fun path target params => ?_, fun path => ?_, fun route target refused path => ?_⟩
  · rw [resolve_addAll_eq_some_iff]
    constructor
    · rintro ⟨route, captured, member, matched, rfl⟩
      exact ⟨route, captured, member, matched, rfl, Keyed.get?_ofList captured⟩
    · rintro ⟨route, captured, member, matched, same, -⟩
      exact ⟨route, captured, member, matched, same⟩
  · exact length_filter_captures_le (taken_compatible calls empty).2 (segments path)
  · exact resolve_add_of_refused _ route target refused path

/-- A route that is refused half-way, one that it has made no room for, and one that names a
parameter twice. -/
example : (addAll [("/a/:id/*rest/b", 1), ("/a/b", 2), ("/b/:id/c/:id", 3)] empty).resolve
    "/b/7//8" = none ∧
    (addAll [("/a/:id/*rest/b", 1), ("/a/b", 2), ("/b/:id/c/:id", 3)] empty).resolve
      "/b/7/c/" = some (3, [("id", "")]) := by
  decide +kernel

end EventRelay.Route.Tree
