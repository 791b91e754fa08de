import EventRelay.Proofs.Route.Contents

set_option autoImplicit false

/-!
The nodes of a tree, with and without values. A tree takes a route exactly when nothing at all
stands in its way, be it only a node without a value; and what a route lays down is all of it, or
what comes before a wildcard that is not its last segment. So a route that is refused leaves nodes
behind only if its wildcard is misplaced.
-/
namespace EventRelay.Route

/-- What a route lays down: all of it, or what comes before a wildcard that is not last. -/
def laid : List Segment → List Segment
  | [] => []
  | [.wildcard name] => [.wildcard name]
  | .wildcard _ :: _ :: _ => []
  | .static text :: rest => .static text :: laid rest
  | .param name :: rest => .param name :: laid rest

@[simp] theorem laid_static (text : String) (rest : List Segment) :
    laid (.static text :: rest) = .static text :: laid rest := by
  cases rest <;> rfl

@[simp] theorem laid_param (name : String) (rest : List Segment) :
    laid (.param name :: rest) = .param name :: laid rest := by
  cases rest <;> rfl

theorem laid_isPrefix (p : List Segment) : laid p <+: p := by
  induction p with
  | nil => exact List.nil_prefix
  | cons a p ih =>
      cases a with
      | static text => simpa using ih
      | param name => simpa using ih
      | wildcard name =>
          cases p with
          | nil => exact List.prefix_rfl
          | cons b p => exact List.nil_prefix

theorem laid_eq_self {p : List Segment} (last : WildcardLast p) : laid p = p := by
  induction p with
  | nil => rfl
  | cons a p ih =>
      cases a with
      | static text => rw [laid_static, ih ((wildcardLast_static text p).mp last)]
      | param name => rw [laid_param, ih ((wildcardLast_param name p).mp last)]
      | wildcard name =>
          have ends : p = [] := (wildcardLast_wildcard name p).mp last
          subst ends
          rfl

namespace Tree

variable {α : Type}

/-- The tree has a node at the end of a route, with or without a value. -/
def HasNode : List Segment → Tree α → Prop
  | [], _ => True
  | .static text :: route, .branch _ children =>
    ∃ child, Keyed.get? children text = some child ∧ HasNode route child
  | .param name :: route, .param _ existing child => existing = name ∧ HasNode route child
  | [.wildcard name], .wildcard _ existing _ => existing = name
  | _, _ => False

section HasNode
variable (value : Option α) (children : List (String × Tree α)) (child : Tree α) (rest : α)
  (text name existing : String) (route : List Segment)

@[simp] theorem hasNode_nil (tree : Tree α) : HasNode [] tree := trivial

@[simp] theorem hasNode_static_branch : HasNode (.static text :: route) (.branch value children) ↔
    ∃ child, Keyed.get? children text = some child ∧ HasNode route child := by
  cases route <;> rfl

@[simp] theorem not_hasNode_static_param :
    ¬ HasNode (.static text :: route) (.param value existing child) := by
  cases route <;> exact id

@[simp] theorem not_hasNode_static_wildcard :
    ¬ HasNode (.static text :: route) (.wildcard value existing rest) := by
  cases route <;> exact id

@[simp] theorem not_hasNode_param_branch :
    ¬ HasNode (.param name :: route) (.branch value children) := by
  cases route <;> exact id

@[simp] theorem hasNode_param_param : HasNode (.param name :: route) (.param value existing child) ↔
    existing = name ∧ HasNode route child := by
  cases route <;> rfl

@[simp] theorem not_hasNode_param_wildcard :
    ¬ HasNode (.param name :: route) (.wildcard value existing rest) := by
  cases route <;> exact id

@[simp] theorem not_hasNode_wildcard_branch :
    ¬ HasNode (.wildcard name :: route) (.branch value children) := by
  cases route <;> exact id

@[simp] theorem not_hasNode_wildcard_param :
    ¬ HasNode (.wildcard name :: route) (.param value existing child) := by
  cases route <;> exact id

@[simp] theorem hasNode_wildcard_wildcard :
    HasNode (.wildcard name :: route) (.wildcard value existing rest) ↔
      existing = name ∧ route = [] := by
  cases route <;> simp [HasNode]

end HasNode

@[simp] theorem hasNode_empty_iff (route : List Segment) :
    HasNode route (empty : Tree α) ↔ route = [] := by
  cases route with
  | nil => simp
  | cons a route => cases a <;> simp [empty]

theorem hasNode_getD (value : Option α) (children : List (String × Tree α)) (text : String)
    (route : List Segment) :
    HasNode route ((Keyed.get? children text).getD empty) ↔
      route = [] ∨ HasNode (.static text :: route) (.branch value children) := by
  rw [hasNode_static_branch]
  cases Keyed.get? children text with
  | none => simp
  | some child =>
      have root : route = [] → HasNode route child := by
        rintro rfl
        exact hasNode_nil child
      simpa using root

theorem hasNode_of_stored {route : List Segment} {tree : Tree α} {target : α}
    (kept : stored route tree = some target) : HasNode route tree := by
  induction route generalizing tree with
  | nil => exact hasNode_nil tree
  | cons a route ih =>
      cases tree with
      | branch value children =>
          rcases stored_branch_eq_some_iff.mp kept with
            ⟨none, -⟩ | ⟨text, rest, child, same, found, below⟩
          · cases none
          · obtain ⟨rfl, rfl⟩ := List.cons.inj same
            exact (hasNode_static_branch ..).mpr ⟨child, found, ih below⟩
      | param value name child =>
          rcases stored_param_eq_some_iff.mp kept with ⟨none, -⟩ | ⟨rest, same, below⟩
          · cases none
          · obtain ⟨rfl, rfl⟩ := List.cons.inj same
            exact (hasNode_param_param ..).mpr ⟨rfl, ih below⟩
      | wildcard value name rest =>
          rcases stored_wildcard_eq_some_iff.mp kept with ⟨none, -⟩ | ⟨same, -⟩
          · cases none
          · obtain ⟨rfl, rfl⟩ := List.cons.inj same
            exact (hasNode_wildcard_wildcard ..).mpr ⟨rfl, rfl⟩

/-- Nothing of a tree stands in the way of a route. -/
def Clear (p : List Segment) (tree : Tree α) : Prop := ∀ q, HasNode q tree → Alongside p q

theorem clear_nil (tree : Tree α) : Clear [] tree := fun q _ => nil_alongside q

theorem clear_empty (p : List Segment) : Clear p (empty : Tree α) := by
  intro q node
  rw [(hasNode_empty_iff q).mp node]
  exact alongside_nil p

theorem clear_leaf (p : List Segment) (value : Option α) : Clear p (.branch value []) := by
  intro q node
  cases q with
  | nil => exact alongside_nil p
  | cons b q => cases b <;> simp at node

theorem not_clear {p q : List Segment} {tree : Tree α} (node : HasNode q tree)
    (apart : ¬ Alongside p q) : ¬ Clear p tree :=
  fun clear => apart (clear q node)

theorem clear_static_branch_iff (text : String) (p : List Segment) (value : Option α)
    (children : List (String × Tree α)) :
    Clear (.static text :: p) (.branch value children) ↔
      Clear p ((Keyed.get? children text).getD empty) := by
  constructor
  · intro clear q node
    rcases (hasNode_getD value children text q).mp node with rfl | below
    · exact alongside_nil p
    · exact (alongside_cons_self ..).mp (clear _ below)
  · intro clear q node
    cases q with
    | nil => exact alongside_nil _
    | cons b q =>
        cases b with
        | param => simp at node
        | wildcard => simp at node
        | static other =>
            by_cases same : text = other
            · subst same
              rw [alongside_cons_self]
              exact clear q ((hasNode_getD value children text q).mpr (Or.inr node))
            · rw [alongside_cons_of_ne (by simpa using same)]
              exact ⟨rfl, rfl⟩

theorem clear_param_iff (name : String) (p : List Segment) (value : Option α) (child : Tree α) :
    Clear (.param name :: p) (.param value name child) ↔ Clear p child := by
  constructor
  · intro clear q node
    have whole : HasNode (.param name :: q) (.param value name child) :=
      (hasNode_param_param ..).mpr ⟨rfl, node⟩
    exact (alongside_cons_self ..).mp (clear _ whole)
  · intro clear q node
    cases q with
    | nil => exact alongside_nil _
    | cons b q =>
        cases b with
        | static => simp at node
        | wildcard => simp at node
        | param other =>
            obtain ⟨rfl, below⟩ := (hasNode_param_param ..).mp node
            exact (alongside_cons_self ..).mpr (clear q below)

theorem not_clear_branch {a : Segment} (dynamic : a.isStatic = false) (p : List Segment)
    (value : Option α) (first : String × Tree α) (children : List (String × Tree α)) :
    ¬ Clear (a :: p) (.branch value (first :: children)) := by
  have node : HasNode [.static first.1] (.branch value (first :: children)) := by
    simp [Keyed.get?]
  refine not_clear node (not_alongside_cons ?_ (Or.inl dynamic) p [])
  intro same
  rw [same] at dynamic
  cases dynamic

theorem not_clear_param {a : Segment} {name : String} (differ : a ≠ .param name)
    (p : List Segment) (value : Option α) (child : Tree α) :
    ¬ Clear (a :: p) (.param value name child) := by
  have node : HasNode [.param name] (.param value name child) := by simp
  exact not_clear node (not_alongside_cons differ (Or.inr rfl) p [])

theorem not_clear_wildcard {a : Segment} {name : String} (differ : a ≠ .wildcard name)
    (p : List Segment) (value : Option α) (rest : α) :
    ¬ Clear (a :: p) (.wildcard value name rest) := by
  have node : HasNode [.wildcard name] (.wildcard value name rest) := by simp
  exact not_clear node (not_alongside_cons differ (Or.inr rfl) p [])

/-- Whatever was left in a tree, it takes a route exactly when the wildcard of the route is last,
the route has no value yet and nothing stands in its way. -/
theorem addPattern_eq_none_iff_clear (route : String) (new : α) (p : List Segment)
    (tree : Tree α) :
    (addPattern route new p tree).2 = none ↔
      WildcardLast p ∧ stored p tree = none ∧ Clear p tree := by
  induction p generalizing tree with
  | nil =>
      cases old : tree.value with
      | none => simp [addPattern_nil _ _ _ old, old, WildcardLast, clear_nil]
      | some value => simp [addPattern, old]
  | cons a p ih =>
      cases a with
      | static text =>
          rw [wildcardLast_static]
          cases tree with
          | branch value children =>
              rw [addPattern_static, ih, clear_static_branch_iff, stored_getD value]
          | param value name child =>
              refine iff_of_false (by simp [addPattern]) fun taken => ?_
              exact not_clear_param (by simp) p value child taken.2.2
          | wildcard value name rest =>
              refine iff_of_false (by simp [addPattern]) fun taken => ?_
              exact not_clear_wildcard (by simp) p value rest taken.2.2
      | param name =>
          rw [wildcardLast_param]
          cases tree with
          | branch value children =>
              cases children with
              | nil =>
                  rw [addPattern_param_fresh, ih]
                  refine and_congr_right fun _ => iff_of_true ?_ ?_
                  · exact ⟨stored_empty p, clear_empty p⟩
                  · exact ⟨stored_param_branch value [] name p, clear_leaf _ value⟩
              | cons first children =>
                  refine iff_of_false (by simp [addPattern]) fun taken => ?_
                  exact not_clear_branch rfl p value first children taken.2.2
          | param value existing child =>
              by_cases same : existing = name
              · subst same
                rw [addPattern_param_same, ih, clear_param_iff, stored_param_param, if_pos rfl]
              · refine iff_of_false (by simp [addPattern, same]) fun taken => ?_
                exact not_clear_param (by simpa using Ne.symm same) p value child taken.2.2
          | wildcard value existing rest =>
              refine iff_of_false (by simp [addPattern]) fun taken => ?_
              exact not_clear_wildcard (by simp) p value rest taken.2.2
      | wildcard name =>
          rw [wildcardLast_wildcard]
          cases p with
          | cons b p => exact iff_of_false (by simp [addPattern]) (by simp)
          | nil =>
              cases tree with
              | branch value children =>
                  cases children with
                  | nil =>
                      refine iff_of_true (by simp [addPattern]) ⟨rfl, ?_, clear_leaf _ value⟩
                      exact stored_wildcard_branch value [] name []
                  | cons first children =>
                      refine iff_of_false (by simp [addPattern]) fun taken => ?_
                      exact not_clear_branch rfl [] value first children taken.2.2
              | param value existing child =>
                  refine iff_of_false (by simp [addPattern]) fun taken => ?_
                  exact not_clear_param (by simp) [] value child taken.2.2
              | wildcard value existing rest =>
                  refine iff_of_false (by simp [addPattern]) fun taken => ?_
                  by_cases same : name = existing
                  · have free := taken.2.1
                    simp [same] at free
                  · exact not_clear_wildcard (by simpa using same) [] value rest taken.2.2

/-- What is put below a static segment: the nodes of the child, one after another. -/
theorem hasNode_branch_insert (value : Option α) (children : List (String × Tree α)) (text : String)
    {after : Tree α} {p : List Segment}
    (below : ∀ q, HasNode q after ↔ HasNode q ((Keyed.get? children text).getD empty) ∨
      (q <+: p ∧ Clear p ((Keyed.get? children text).getD empty)))
    (q : List Segment) :
    HasNode q (.branch value (Keyed.insert children text after)) ↔
      HasNode q (.branch value children) ∨
        (q <+: .static text :: p ∧ Clear (.static text :: p) (.branch value children)) := by
  rw [clear_static_branch_iff]
  cases q with
  | nil => simp
  | cons b q =>
      cases b with
      | param => simp
      | wildcard => simp
      | static other =>
          by_cases same : text = other
          · subst same
            have inserted : HasNode (.static text :: q)
                (.branch value (Keyed.insert children text after)) ↔ HasNode q after := by
              simp
            rw [inserted, below, hasNode_getD value, List.cons_prefix_cons]
            cases q with
            | cons b q => simp
            | nil =>
                -- the child itself: it was there, or there is room for all that is put below it
                refine iff_of_true (Or.inl (Or.inl rfl)) ?_
                cases found : Keyed.get? children text with
                | some child => exact Or.inl (by simp [found])
                | none => exact Or.inr ⟨⟨rfl, List.nil_prefix⟩, clear_empty p⟩
          · simp [Keyed.get?_insert, same, Ne.symm same]

theorem hasNode_param_below (value : Option α) (name : String) {child after : Tree α}
    {p : List Segment}
    (below : ∀ q, HasNode q after ↔ HasNode q child ∨ (q <+: p ∧ Clear p child))
    (q : List Segment) :
    HasNode q (.param value name after) ↔
      HasNode q (.param value name child) ∨
        (q <+: .param name :: p ∧ Clear (.param name :: p) (.param value name child)) := by
  rw [clear_param_iff]
  cases q with
  | nil => simp
  | cons b q =>
      cases b with
      | static => simp
      | wildcard => simp
      | param other =>
          rw [hasNode_param_param, hasNode_param_param, below, List.cons_prefix_cons]
          by_cases same : name = other
          · simp [same]
          · simp [same, Ne.symm same]

theorem hasNode_param_fresh (value : Option α) (name : String) {after : Tree α} {p : List Segment}
    (below : ∀ q, HasNode q after ↔ q <+: p) (q : List Segment) :
    HasNode q (.param value name after) ↔
      HasNode q (.branch value []) ∨ q <+: .param name :: p := by
  cases q with
  | nil => simp
  | cons b q =>
      cases b with
      | static => simp
      | wildcard => simp
      | param other =>
          rw [hasNode_param_param, below, List.cons_prefix_cons]
          simp [eq_comm]

theorem hasNode_wildcard_fresh (value : Option α) (name : String) (rest : α) (q : List Segment) :
    HasNode q (.wildcard value name rest) ↔
      HasNode q (.branch value []) ∨ q <+: [.wildcard name] := by
  cases q with
  | nil => simp
  | cons b q => cases b <;> simp [eq_comm]

theorem hasNode_iff_of_not_clear {p q : List Segment} {tree : Tree α} (blocked : ¬ Clear p tree) :
    HasNode q tree ↔ HasNode q tree ∨ (q <+: p ∧ Clear p tree) :=
  (or_iff_left fun both => blocked both.2).symm

theorem hasNode_iff_of_there {p q : List Segment} {tree : Tree α}
    (there : q <+: p → HasNode q tree) :
    HasNode q tree ↔ HasNode q tree ∨ (q <+: p ∧ Clear p tree) :=
  (or_iff_left_of_imp fun both => there both.1).symm

theorem hasNode_of_prefix_nil {q : List Segment} (part : q <+: []) (tree : Tree α) :
    HasNode q tree := by
  rw [List.prefix_nil.mp part]
  exact hasNode_nil tree

@[simp] theorem hasNode_withValue (new : α) (q : List Segment) (tree : Tree α) :
    HasNode q (withValue new tree) ↔ HasNode q tree := by
  cases q with
  | nil => simp
  | cons b q => cases tree <;> cases b <;> simp [withValue]

theorem hasNode_addPattern_nil (route : String) (new : α) (q : List Segment) (tree : Tree α) :
    HasNode q (addPattern route new [] tree).1 ↔ HasNode q tree := by
  cases old : tree.value with
  | some value => simp [addPattern, old]
  | none => rw [addPattern_nil _ _ _ old, hasNode_withValue]

/-- Adding a route puts nodes all along what it lays down, unless something stands in the way of
this; then it puts none. -/
theorem hasNode_addPattern (route : String) (new : α) (p q : List Segment) (tree : Tree α) :
    HasNode q (addPattern route new p tree).1 ↔
      HasNode q tree ∨ (q <+: laid p ∧ Clear (laid p) tree) := by
  induction p generalizing q tree with
  | nil =>
      rw [hasNode_addPattern_nil]
      exact hasNode_iff_of_there fun part => hasNode_of_prefix_nil part tree
  | cons a p ih =>
      cases a with
      | static text =>
          rw [laid_static]
          cases tree with
          | branch value children =>
              rw [addPattern_static]
              exact hasNode_branch_insert value children text (fun r => ih r _) q
          | param value name child =>
              exact hasNode_iff_of_not_clear (not_clear_param (by simp) _ value child)
          | wildcard value name rest =>
              exact hasNode_iff_of_not_clear (not_clear_wildcard (by simp) _ value rest)
      | param name =>
          rw [laid_param]
          cases tree with
          | branch value children =>
              cases children with
              | nil =>
                  have below : ∀ r, HasNode r (addPattern route new p empty).1 ↔ r <+: laid p := by
                    intro r
                    rw [ih, hasNode_empty_iff, and_iff_left (clear_empty _)]
                    exact or_iff_right_of_imp fun none => none ▸ List.nil_prefix
                  rw [addPattern_param_fresh, and_iff_left (clear_leaf _ value)]
                  exact hasNode_param_fresh value name below q
              | cons first children =>
                  exact hasNode_iff_of_not_clear (not_clear_branch rfl _ value first children)
          | param value existing child =>
              by_cases same : existing = name
              · subst same
                rw [addPattern_param_same]
                exact hasNode_param_below value existing (fun r => ih r child) q
              · have kept : (addPattern route new (.param name :: p)
                    (.param value existing child)).1 = .param value existing child := by
                  simp [addPattern, same]
                rw [kept]
                exact hasNode_iff_of_not_clear
                  (not_clear_param (by simpa using Ne.symm same) _ value child)
          | wildcard value existing rest =>
              exact hasNode_iff_of_not_clear (not_clear_wildcard (by simp) _ value rest)
      | wildcard name =>
          cases p with
          | cons b p =>
              have kept : (addPattern route new (.wildcard name :: b :: p) tree).1 = tree := by
                simp [addPattern]
              rw [kept]
              exact hasNode_iff_of_there fun part => hasNode_of_prefix_nil part tree
          | nil =>
              cases tree with
              | branch value children =>
                  cases children with
                  | nil =>
                      rw [and_iff_left (clear_leaf _ value)]
                      exact hasNode_wildcard_fresh value name new q
                  | cons first children =>
                      exact hasNode_iff_of_not_clear (not_clear_branch rfl _ value first children)
              | param value existing child =>
                  exact hasNode_iff_of_not_clear (not_clear_param (by simp) _ value child)
              | wildcard value existing rest =>
                  by_cases same : name = existing
                  · subst same
                    -- the wildcard that stands there already
                    have there : q <+: [.wildcard name] → HasNode q (.wildcard value name rest) :=
                      fun part => (hasNode_wildcard_fresh value name rest q).mpr (Or.inr part)
                    exact hasNode_iff_of_there there
                  · exact hasNode_iff_of_not_clear
                      (not_clear_wildcard (by simpa using same) _ value rest)

theorem hasNode_of_isPrefix {p q : List Segment} {tree : Tree α} (node : HasNode p tree)
    (part : q <+: p) : HasNode q tree := by
  induction q generalizing p tree with
  | nil => exact hasNode_nil tree
  | cons a q ih =>
      obtain ⟨rest, rfl⟩ := part
      have below : q <+: q ++ rest := List.prefix_append q rest
      cases tree with
      | branch value children =>
          cases a with
          | static text =>
              obtain ⟨child, found, inner⟩ := (hasNode_static_branch ..).mp node
              exact (hasNode_static_branch ..).mpr ⟨child, found, ih inner below⟩
          | param => simp at node
          | wildcard => simp at node
      | param value existing child =>
          cases a with
          | static => simp at node
          | param name =>
              obtain ⟨same, inner⟩ := (hasNode_param_param ..).mp node
              exact (hasNode_param_param ..).mpr ⟨same, ih inner below⟩
          | wildcard => simp at node
      | wildcard value existing target =>
          cases a with
          | static => simp at node
          | param => simp at node
          | wildcard name =>
              obtain ⟨same, ends⟩ := (hasNode_wildcard_wildcard ..).mp node
              exact (hasNode_wildcard_wildcard ..).mpr ⟨same, (List.append_eq_nil_iff.mp ends).1⟩

/-- A route that is refused although its wildcard is last leaves no node behind. -/
theorem hasNode_of_refused (route : String) (new : α) {p : List Segment} {tree : Tree α}
    (last : WildcardLast p) (refused : (addPattern route new p tree).2 ≠ none)
    (q : List Segment) : HasNode q (addPattern route new p tree).1 ↔ HasNode q tree := by
  rw [hasNode_addPattern, laid_eq_self last]
  refine or_iff_left_of_imp fun both => ?_
  obtain ⟨part, clear⟩ := both
  -- where nothing stands in the way, the route has a value already
  have valued : stored p tree ≠ none := by
    intro free
    exact refused ((addPattern_eq_none_iff_clear ..).mpr ⟨last, free, clear⟩)
  obtain ⟨target, kept⟩ := Option.ne_none_iff_exists'.mp valued
  exact hasNode_of_isPrefix (hasNode_of_stored kept) part

end Tree
end EventRelay.Route
