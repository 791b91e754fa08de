import EventRelay.Proofs.Route.Nodes

set_option autoImplicit false

/-!
What refused routes leave in a tree: at most empty nodes, and only along what comes before a
misplaced wildcard. Routes that go alongside these are taken and found as if they were not there.
-/
namespace EventRelay.Route.Tree

variable {α : Type}

/-- Two trees that differ by nothing but empty nodes along a route. -/
structure Overgrown (r : List Segment) (tree other : Tree α) : Prop where
  stored : ∀ q, tree.stored q = other.stored q
  nodes : ∀ q, tree.HasNode q ↔ other.HasNode q ∨ q <+: r

section Overgrown
variable {r p : List Segment} {tree other : Tree α}

theorem Overgrown.clear_iff (overgrown : Overgrown r tree other) (alongside : Alongside p r) :
    Clear p tree ↔ Clear p other := by
  constructor
  · intro clear q node
    exact clear q ((overgrown.nodes q).mpr (Or.inl node))
  · intro clear q node
    rcases (overgrown.nodes q).mp node with there | part
    · exact clear q there
    · exact alongside.of_isPrefix part

/-- A route that goes alongside the empty nodes is taken by both trees or by neither. -/
theorem Overgrown.taken_iff (overgrown : Overgrown r tree other) (alongside : Alongside p r)
    (route : String) (new : α) :
    (addPattern route new p tree).2 = none ↔ (addPattern route new p other).2 = none := by
  rw [addPattern_eq_none_iff_clear, addPattern_eq_none_iff_clear, overgrown.stored p,
    overgrown.clear_iff alongside]

theorem Overgrown.addPattern (overgrown : Overgrown r tree other) (alongside : Alongside p r)
    (route : String) (new : α) :
    Overgrown r (Tree.addPattern route new p tree).1 (Tree.addPattern route new p other).1 := by
  have part : Alongside (laid p) r := (alongside.symm.of_isPrefix (laid_isPrefix p)).symm
  constructor
  · intro q
    simp only [stored_addPattern, overgrown.stored, overgrown.taken_iff alongside]
  · intro q
    rw [hasNode_addPattern, hasNode_addPattern, overgrown.nodes q, overgrown.clear_iff part]
    exact or_right_comm

theorem Overgrown.resolve_eq (overgrown : Overgrown r tree other) (path : String) :
    tree.resolve path = other.resolve path := by
  apply Option.ext
  intro found
  obtain ⟨target, params⟩ := found
  simp only [resolve_eq_some_iff, overgrown.stored]

end Overgrown

theorem overgrown_self (tree : Tree α) : Overgrown [] tree tree where
  stored _ := rfl
  nodes _ := (or_iff_left_of_imp fun part => List.prefix_nil.mp part ▸ hasNode_nil tree).symm

/-- After a route is refused, the tree has at most empty nodes along what comes before its
wildcard. -/
theorem exists_overgrown_of_refused (route : String) (new : α) {p : List Segment} {tree : Tree α}
    (refused : (addPattern route new p tree).2 ≠ none) :
    ∃ r, (r = [] ∨ (r = laid p ∧ ¬ WildcardLast p)) ∧
      Overgrown r (addPattern route new p tree).1 tree := by
  have stored : ∀ q, Tree.stored q (addPattern route new p tree).1 = Tree.stored q tree := by
    intro q
    rw [stored_addPattern, if_neg fun both => refused both.1]
  have root : ∀ {q}, q <+: [] → HasNode q tree :=
    fun part => List.prefix_nil.mp part ▸ hasNode_nil tree
  by_cases last : WildcardLast p
  · refine ⟨[], Or.inl rfl, stored, fun q => ?_⟩
    rw [hasNode_of_refused route new last refused]
    exact (or_iff_left_of_imp root).symm
  · by_cases clear : Clear (laid p) tree
    · refine ⟨laid p, Or.inr ⟨rfl, last⟩, stored, fun q => ?_⟩
      rw [hasNode_addPattern, and_iff_left clear]
    · refine ⟨[], Or.inl rfl, stored, fun q => ?_⟩
      rw [hasNode_addPattern, or_iff_left fun both => clear both.2]
      exact (or_iff_left_of_imp root).symm

end EventRelay.Route.Tree
