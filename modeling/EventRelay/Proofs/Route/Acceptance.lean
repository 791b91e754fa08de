import EventRelay.Proofs.Route.Nodes

set_option autoImplicit false

/-!
Which routes a tree takes. In a tree where every node leads to a route, a route is taken exactly
when its wildcard stands last and it is compatible with every route that is there, so neither the
order of the routes nor the shape of the tree matters.
-/
namespace EventRelay.Route.Tree

variable {α : Type}

def Live (tree : Tree α) : Prop := ∃ route target, stored route tree = some target

/-- Every node below the root leads to a route: nothing is left of one that was refused. -/
inductive Tight : Tree α → Prop
  | branch (value : Option α) (children : List (String × Tree α))
      (live : ∀ text child, Keyed.get? children text = some child → Live child)
      (tight : ∀ text child, Keyed.get? children text = some child → Tight child) :
      Tight (.branch value children)
  | param (value : Option α) (name : String) (child : Tree α) (live : Live child)
      (tight : Tight child) : Tight (.param value name child)
  | wildcard (value : Option α) (name : String) (rest : α) : Tight (.wildcard value name rest)

theorem tight_empty : Tight (empty : Tree α) := by
  apply Tight.branch <;> intro text child found <;> simp at found

theorem Tight.withValue {tree : Tree α} (tight : Tight tree) (new : α) :
    Tight (tree.withValue new) := by
  cases tight with
  | branch value children live tight => exact .branch _ _ live tight
  | param value name child live tight => exact .param _ _ _ live tight
  | wildcard value name rest => exact .wildcard _ _ _

theorem tight_child {children : List (String × Tree α)}
    (tight : ∀ text child, Keyed.get? children text = some child → Tight child) (text : String) :
    Tight ((Keyed.get? children text).getD empty) := by
  cases found : Keyed.get? children text with
  | none => exact tight_empty
  | some child => exact tight text child found

theorem Tight.insert {value : Option α} {children : List (String × Tree α)} {text : String}
    {child : Tree α} (live : ∀ text child, Keyed.get? children text = some child → Live child)
    (tight : ∀ text child, Keyed.get? children text = some child → Tight child)
    (childLive : Live child) (childTight : Tight child) :
    Tight (.branch value (Keyed.insert children text child)) := by
  have each : ∀ other found, Keyed.get? (Keyed.insert children text child) other = some found →
      Live found ∧ Tight found := by
    intro other found kept
    rw [Keyed.get?_insert] at kept
    by_cases same : text = other
    · simp only [same, ↓reduceIte, Option.some.injEq] at kept
      subst kept
      exact ⟨childLive, childTight⟩
    · simp only [same, ↓reduceIte] at kept
      exact ⟨live other found kept, tight other found kept⟩
  exact .branch _ _ (fun other found kept => (each other found kept).1)
    (fun other found kept => (each other found kept).2)

theorem exists_stored_static (value : Option α) {first : String × Tree α}
    {children : List (String × Tree α)}
    (live : ∀ text child, Keyed.get? (first :: children) text = some child → Live child) :
    ∃ text route target, stored (.static text :: route) (.branch value (first :: children)) =
      some target := by
  obtain ⟨text, child⟩ := first
  have found : Keyed.get? ((text, child) :: children) text = some child := by simp [Keyed.get?]
  obtain ⟨route, target, kept⟩ := live text child found
  exact ⟨text, route, target, by simp [found, kept]⟩

theorem exists_stored_param (value : Option α) (name : String) {child : Tree α}
    (live : Live child) :
    ∃ route target, stored (.param name :: route) (.param value name child) = some target := by
  obtain ⟨route, target, kept⟩ := live
  exact ⟨route, target, by simp [kept]⟩

/-- A route is compatible with all routes of a tree that have a value. -/
def Fits (p : List Segment) (tree : Tree α) : Prop :=
  ∀ q target, stored q tree = some target → Compatible p q

theorem fits_empty (p : List Segment) : Fits p (empty : Tree α) := by
  intro q target kept
  simp at kept

/-- Where nothing stands in the way of a route without a value, it is compatible with all that have
one. -/
theorem fits_of_clear {p : List Segment} {tree : Tree α} (free : stored p tree = none)
    (clear : Clear p tree) : Fits p tree := by
  intro q target kept
  rcases clear q (hasNode_of_stored kept) with same | compatible
  · rw [← same, free] at kept
    cases kept
  · exact compatible

/-- A route that is taken has its wildcard last and is compatible with what is there, whatever
earlier refusals have left in the tree. -/
theorem fits_of_addPattern (route : String) (new : α) {p : List Segment} {tree : Tree α}
    (accepted : (addPattern route new p tree).2 = none) : WildcardLast p ∧ Fits p tree := by
  obtain ⟨last, free, clear⟩ := (addPattern_eq_none_iff_clear ..).mp accepted
  exact ⟨last, fits_of_clear free clear⟩

/-- Below every node of a tight tree is a route with a value. -/
theorem Tight.exists_stored {q : List Segment} {tree : Tree α} (tight : Tight tree)
    (node : HasNode q tree) (below : q ≠ []) :
    ∃ r target, stored (q ++ r) tree = some target := by
  induction q generalizing tree with
  | nil => exact absurd rfl below
  | cons a q ih =>
      -- a child is a node, and so it leads to a value of its own or to one further down
      have inner : ∀ child : Tree α, Live child → Tight child → HasNode q child →
          ∃ r target, stored (q ++ r) child = some target := by
        intro child live tight node
        cases q with
        | nil => exact live
        | cons b q => exact ih tight node (List.cons_ne_nil b q)
      cases tight with
      | branch value children live tight =>
          cases a with
          | static text =>
              obtain ⟨child, found, there⟩ := (hasNode_static_branch ..).mp node
              obtain ⟨r, target, kept⟩ :=
                inner child (live text child found) (tight text child found) there
              exact ⟨r, target, by simpa [found] using kept⟩
          | param => simp at node
          | wildcard => simp at node
      | param value existing child live tight =>
          cases a with
          | static => simp at node
          | param name =>
              obtain ⟨rfl, there⟩ := (hasNode_param_param ..).mp node
              obtain ⟨r, target, kept⟩ := inner child live tight there
              exact ⟨r, target, by simpa using kept⟩
          | wildcard => simp at node
      | wildcard value existing rest =>
          cases a with
          | static => simp at node
          | param => simp at node
          | wildcard name =>
              obtain ⟨rfl, rfl⟩ := (hasNode_wildcard_wildcard ..).mp node
              exact ⟨[], rest, by simp⟩

/-- In a tight tree nothing but routes with values can stand in the way. -/
theorem Tight.fits_iff {p : List Segment} {tree : Tree α} (tight : Tight tree) :
    Fits p tree ↔ stored p tree = none ∧ Clear p tree := by
  constructor
  · intro fits
    constructor
    · rw [Option.eq_none_iff_forall_ne_some]
      intro target kept
      exact not_compatible_self p (fits p target kept)
    · intro q node
      by_cases root : q = []
      · rw [root]
        exact alongside_nil p
      · obtain ⟨r, target, kept⟩ := tight.exists_stored node root
        have whole : Alongside p (q ++ r) := Or.inr (fits _ target kept)
        exact whole.of_isPrefix (List.prefix_append q r)
  · intro both
    exact fits_of_clear both.1 both.2

/-- A route is taken exactly when its wildcard stands last and it is compatible with all routes
that have a value. -/
theorem addPattern_eq_none_iff (route : String) (new : α) (p : List Segment) {tree : Tree α}
    (tight : Tight tree) :
    (addPattern route new p tree).2 = none ↔ WildcardLast p ∧ Fits p tree := by
  rw [addPattern_eq_none_iff_clear, tight.fits_iff]

theorem fits_addPattern_iff (route : String) (new : α) {p : List Segment} {tree : Tree α}
    (taken : (addPattern route new p tree).2 = none) (q : List Segment) :
    Fits q (addPattern route new p tree).1 ↔ Compatible q p ∧ Fits q tree := by
  have kept : ∀ r, stored r (addPattern route new p tree).1 =
      if r = p then some new else stored r tree := by
    intro r
    simpa [taken] using stored_addPattern route new p r tree
  constructor
  · intro fits
    have here : Compatible q p := fits p new (by simp [kept])
    refine ⟨here, ?_⟩
    intro r target found
    by_cases same : r = p
    · rw [same]
      exact here
    · exact fits r target (by simpa [kept, same] using found)
  · rintro ⟨here, fits⟩ r target found
    by_cases same : r = p
    · rw [same]
      exact here
    · exact fits r target (by simpa [kept, same] using found)

theorem live_addPattern (route : String) (new : α) (p : List Segment) (tree : Tree α)
    (taken : (addPattern route new p tree).2 = none) : Live (addPattern route new p tree).1 :=
  ⟨p, new, by simp [stored_addPattern, taken]⟩

/-- A tree stays tight when a route is taken. -/
theorem Tight.addPattern (route : String) (new : α) (p : List Segment) {tree : Tree α}
    (tight : Tight tree) (taken : (Tree.addPattern route new p tree).2 = none) :
    Tight (Tree.addPattern route new p tree).1 := by
  induction p generalizing tree with
  | nil =>
      cases old : tree.value with
      | none =>
          rw [addPattern_nil _ _ _ old]
          exact tight.withValue new
      | some value => simp [Tree.addPattern, old] at taken
  | cons a p ih =>
      cases a with
      | static text =>
          cases tight with
          | branch value children live tight =>
              rw [addPattern_static] at taken ⊢
              exact Tight.insert live tight (live_addPattern route new p _ taken)
                (ih (tight_child tight text) taken)
          | param => simp [Tree.addPattern] at taken
          | wildcard => simp [Tree.addPattern] at taken
      | param name =>
          cases tight with
          | branch value children live tight =>
              cases children with
              | nil =>
                  rw [addPattern_param_fresh] at taken ⊢
                  exact .param _ _ _ (live_addPattern route new p _ taken) (ih tight_empty taken)
              | cons first children => simp [Tree.addPattern] at taken
          | param value existing child live tight =>
              by_cases same : existing = name
              · subst same
                rw [addPattern_param_same] at taken ⊢
                exact .param _ _ _ (live_addPattern route new p _ taken) (ih tight taken)
              · simp [Tree.addPattern, same] at taken
          | wildcard => simp [Tree.addPattern] at taken
      | wildcard name =>
          cases p with
          | cons b p => simp [Tree.addPattern] at taken
          | nil =>
              cases tight with
              | branch value children =>
                  cases children with
                  | nil => exact .wildcard _ _ _
                  | cons first children => simp [Tree.addPattern] at taken
              | param => simp [Tree.addPattern] at taken
              | wildcard => simp [Tree.addPattern] at taken

end EventRelay.Route.Tree
