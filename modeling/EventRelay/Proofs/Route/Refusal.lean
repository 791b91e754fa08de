import EventRelay.Proofs.Route.Acceptance

set_option autoImplicit false

/-!
Why a tree refuses a route. Trees that hold the same routes have the same shape, node by node, so
they refuse a route for the same reason, in whatever order their routes were added.
-/
namespace EventRelay.Route.Tree

variable {α : Type}

/-- The roots of two trees are of one sort, and below them stand trees that hold the same. -/
inductive Alike : Tree α → Tree α → Prop
  | branch (value : Option α) (children others : List (String × Tree α))
      (leaf : children = [] ↔ others = [])
      (below : ∀ text route, stored route ((Keyed.get? children text).getD empty) =
        stored route ((Keyed.get? others text).getD empty)) :
      Alike (.branch value children) (.branch value others)
  | param (value : Option α) (name : String) (child other : Tree α)
      (below : ∀ route, stored route child = stored route other) :
      Alike (.param value name child) (.param value name other)
  | wildcard (value : Option α) (name : String) (rest : α) :
      Alike (.wildcard value name rest) (.wildcard value name rest)

theorem eq_nil_of_stored {value other : Option α} {children : List (String × Tree α)}
    (live : ∀ text child, Keyed.get? children text = some child → Live child)
    (same : ∀ route, stored route (.branch value children) = stored route (.branch other [])) :
    children = [] := by
  cases children with
  | nil => rfl
  | cons first rest =>
      obtain ⟨text, route, target, kept⟩ := exists_stored_static value live
      rw [same] at kept
      simp at kept

/-- Trees without dead ends that hold the same routes are alike. -/
theorem Tight.alike {tree other : Tree α} (tight : Tight tree) (otherTight : Tight other)
    (same : ∀ route, stored route tree = stored route other) : Alike tree other := by
  have value : tree.value = other.value := same []
  cases tight with
  | branch here children live =>
      cases otherTight with
      | branch there others otherLive =>
          obtain rfl : here = there := value
          refine .branch here children others ⟨?_, ?_⟩ fun text route => ?_
          · rintro rfl
            exact eq_nil_of_stored otherLive fun route => (same route).symm
          · rintro rfl
            exact eq_nil_of_stored live same
          · rw [stored_getD here, stored_getD here]
            exact same _
      | param there name child otherLive =>
          obtain ⟨route, target, kept⟩ := exists_stored_param there name otherLive
          rw [← same] at kept
          simp at kept
      | wildcard there name rest =>
          have kept := same [.wildcard name]
          simp at kept
  | param here name child live =>
      obtain ⟨route, target, kept⟩ := exists_stored_param here name live
      cases otherTight with
      | branch there others =>
          rw [same] at kept
          simp at kept
      | param there existing below =>
          obtain rfl : here = there := value
          have named : existing = name := by
            rw [same] at kept
            apply Decidable.byContradiction
            intro differ
            simp [differ] at kept
          subst named
          refine .param here existing child below fun route => ?_
          simpa using same (.param existing :: route)
      | wildcard there existing rest =>
          rw [same] at kept
          simp at kept
  | wildcard here name rest =>
      have kept := same [.wildcard name]
      cases otherTight with
      | branch there others => simp at kept
      | param there existing below => simp at kept
      | wildcard there existing otherRest =>
          obtain rfl : here = there := value
          have named : existing = name := by
            apply Decidable.byContradiction
            intro differ
            simp [differ] at kept
          subst named
          obtain rfl : rest = otherRest := by simpa using kept
          exact .wildcard here existing rest

/-- Trees that hold the same routes take a route alike, or refuse it for the same reason. -/
theorem addPattern_error_eq (route : String) (new : α) (p : List Segment) {tree other : Tree α}
    (tight : Tight tree) (otherTight : Tight other)
    (same : ∀ q, stored q tree = stored q other) :
    (addPattern route new p tree).2 = (addPattern route new p other).2 := by
  induction p generalizing tree other with
  | nil =>
      have value : tree.value = other.value := same []
      cases old : tree.value with
      | none =>
          have otherOld : other.value = none := value.symm.trans old
          simp [addPattern_nil _ _ _ old, addPattern_nil _ _ _ otherOld]
      | some found =>
          have otherOld : other.value = some found := value.symm.trans old
          simp [addPattern, old, otherOld]
  | cons a p ih =>
      cases tight.alike otherTight same with
      | branch value children others leaf below =>
          cases tight with
          | branch _ _ _ tight =>
          cases otherTight with
          | branch _ _ _ otherTight =>
          cases a with
          | static text =>
              rw [addPattern_static, addPattern_static]
              exact ih (tight_child tight text) (tight_child otherTight text) (below text)
          | param name =>
              cases children with
              | nil =>
                  obtain rfl : others = [] := leaf.mp rfl
                  rfl
              | cons first rest =>
                  cases others with
                  | nil => cases leaf.mpr rfl
                  | cons second others => simp [addPattern]
          | wildcard name =>
              cases p with
              | cons b p => simp [addPattern]
              | nil =>
                  cases children with
                  | nil =>
                      obtain rfl : others = [] := leaf.mp rfl
                      rfl
                  | cons first rest =>
                      cases others with
                      | nil => cases leaf.mpr rfl
                      | cons second others => simp [addPattern]
      | param value existing child otherChild below =>
          cases tight with
          | param _ _ _ _ tight =>
          cases otherTight with
          | param _ _ _ _ otherTight =>
          cases a with
          | static text => simp [addPattern]
          | param name =>
              by_cases named : existing = name
              · subst named
                rw [addPattern_param_same, addPattern_param_same]
                exact ih tight otherTight below
              · simp [addPattern, named]
          | wildcard name =>
              cases p with
              | cons b p => simp [addPattern]
              | nil => simp [addPattern]
      | wildcard value existing rest => rfl

end EventRelay.Route.Tree
