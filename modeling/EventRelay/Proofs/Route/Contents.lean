import EventRelay.Proofs.Route.Compatibility

set_option autoImplicit false

/-!
What a tree of routes holds: the value kept for each route. Adding a route changes that of no other
route, whether it is taken or refused, and following a path finds the value of the one route that
the path matches.
-/
namespace EventRelay.Route.Tree

variable {α : Type}

/-- The value that a tree keeps for a route. -/
def stored : List Segment → Tree α → Option α
  | [], tree => tree.value
  | .static text :: route, .branch _ children => (Keyed.get? children text).bind (stored route)
  | .param name :: route, .param _ existing child =>
    if existing = name then stored route child else none
  | [.wildcard name], .wildcard _ existing rest => if existing = name then some rest else none
  | _, _ => none

section Stored
variable (value : Option α) (children : List (String × Tree α)) (child : Tree α) (rest : α)
  (text name existing : String) (route : List Segment)

@[simp] theorem stored_nil (tree : Tree α) : stored [] tree = tree.value := rfl

@[simp] theorem stored_static_branch : stored (.static text :: route) (.branch value children) =
    (Keyed.get? children text).bind (stored route) := by
  cases route <;> rfl

@[simp] theorem stored_static_param :
    stored (.static text :: route) (.param value existing child) = none := by
  cases route <;> rfl

@[simp] theorem stored_static_wildcard :
    stored (.static text :: route) (.wildcard value existing rest) = none := by
  cases route <;> rfl

@[simp] theorem stored_param_branch :
    stored (.param name :: route) (.branch value children) = none := by
  cases route <;> rfl

@[simp] theorem stored_param_param : stored (.param name :: route) (.param value existing child) =
    if existing = name then stored route child else none := by
  cases route <;> rfl

@[simp] theorem stored_param_wildcard :
    stored (.param name :: route) (.wildcard value existing rest) = none := by
  cases route <;> rfl

@[simp] theorem stored_wildcard_branch :
    stored (.wildcard name :: route) (.branch value children) = none := by
  cases route <;> rfl

@[simp] theorem stored_wildcard_param :
    stored (.wildcard name :: route) (.param value existing child) = none := by
  cases route <;> rfl

@[simp] theorem stored_wildcard_wildcard :
    stored [.wildcard name] (.wildcard value existing rest) =
      if existing = name then some rest else none := rfl

@[simp] theorem stored_wildcard_cons (b : Segment) (tree : Tree α) :
    stored (.wildcard name :: b :: route) tree = none := by
  cases tree <;> rfl

end Stored

@[simp] theorem stored_empty (route : List Segment) : stored route (empty : Tree α) = none := by
  cases route with
  | nil => rfl
  | cons first route => cases first <;> simp [empty]

section Found
variable {value : Option α} {target : α} {q : List Segment}

/-- The routes of a branch end at it or go on with one of its static segments. -/
theorem stored_branch_eq_some_iff {children : List (String × Tree α)} :
    stored q (.branch value children) = some target ↔
      (q = [] ∧ value = some target) ∨
        ∃ text rest child, q = .static text :: rest ∧ Keyed.get? children text = some child ∧
          stored rest child = some target := by
  cases q with
  | nil => simp [Tree.value]
  | cons b q =>
      cases b with
      | param => simp
      | wildcard => simp
      | static first =>
          simp only [stored_static_branch, Option.bind_eq_some_iff, List.cons.injEq,
            Segment.static.injEq, reduceCtorEq, false_and, false_or]
          constructor
          · rintro ⟨child, known, kept⟩
            exact ⟨first, q, child, ⟨rfl, rfl⟩, known, kept⟩
          · rintro ⟨text, rest, child, ⟨rfl, rfl⟩, known, kept⟩
            exact ⟨child, known, kept⟩

theorem stored_param_eq_some_iff {name : String} {child : Tree α} :
    stored q (.param value name child) = some target ↔
      (q = [] ∧ value = some target) ∨
        ∃ rest, q = .param name :: rest ∧ stored rest child = some target := by
  cases q with
  | nil => simp [Tree.value]
  | cons b q =>
      cases b with
      | static => simp
      | wildcard => simp
      | param other =>
          by_cases same : name = other
          · subst same
            simp
          · simp [same, Ne.symm same]

theorem stored_wildcard_eq_some_iff {name : String} {rest : α} :
    stored q (.wildcard value name rest) = some target ↔
      (q = [] ∧ value = some target) ∨ (q = [.wildcard name] ∧ rest = target) := by
  cases q with
  | nil => simp [Tree.value]
  | cons b q =>
      cases b with
      | static => simp
      | param => simp
      | wildcard other =>
          cases q with
          | nil =>
              by_cases same : name = other
              · subst same
                simp
              · simp [same, Ne.symm same]
          | cons => simp

end Found

theorem stored_getD (value : Option α) (children : List (String × Tree α)) (text : String)
    (route : List Segment) : stored route ((Keyed.get? children text).getD empty) =
      stored (.static text :: route) (.branch value children) := by
  rw [stored_static_branch]
  cases Keyed.get? children text <;> simp

theorem stored_withValue (new : α) (q : List Segment) (tree : Tree α) :
    stored q (tree.withValue new) = if q = [] then some new else stored q tree := by
  cases q with
  | nil => cases tree <;> rfl
  | cons b q => cases tree <;> cases b <;> cases q <;> simp [withValue]

theorem addPattern_nil (route : String) (new : α) (tree : Tree α) (free : tree.value = none) :
    addPattern route new [] tree = (tree.withValue new, none) := by
  simp [addPattern, free]

theorem addPattern_static (route text : String) (new : α) (rest : List Segment) (value : Option α)
    (children : List (String × Tree α)) :
    addPattern route new (.static text :: rest) (.branch value children) =
      (.branch value (Keyed.insert children text
          (addPattern route new rest ((Keyed.get? children text).getD empty)).1),
        (addPattern route new rest ((Keyed.get? children text).getD empty)).2) := rfl

theorem addPattern_param_fresh (route name : String) (new : α) (rest : List Segment)
    (value : Option α) :
    addPattern route new (.param name :: rest) (.branch value []) =
      (.param value name (addPattern route new rest empty).1,
        (addPattern route new rest empty).2) := rfl

theorem addPattern_param_same (route name : String) (new : α) (rest : List Segment)
    (value : Option α) (child : Tree α) :
    addPattern route new (.param name :: rest) (.param value name child) =
      (.param value name (addPattern route new rest child).1,
        (addPattern route new rest child).2) := by
  simp [addPattern]

section Below
variable {new : α} {taken : Prop} [Decidable taken] {p : List Segment}

/-- What is added to the child of a static segment is added to the branch behind that segment. -/
theorem stored_branch_insert (value : Option α) (children : List (String × Tree α))
    (text : String) {after : Tree α}
    (below : ∀ q, stored q after =
      if taken ∧ q = p then some new else stored q ((Keyed.get? children text).getD empty))
    (q : List Segment) :
    stored q (.branch value (Keyed.insert children text after)) =
      if taken ∧ q = .static text :: p then some new else stored q (.branch value children) := by
  cases q with
  | nil => simp [Tree.value]
  | cons b q =>
      cases b with
      | param => simp
      | wildcard => simp
      | static other =>
          rw [stored_static_branch, stored_static_branch, Keyed.get?_insert]
          by_cases same : text = other
          · subst same
            cases old : Keyed.get? children text <;> simp [below, old]
          · simp [same, Ne.symm same]

theorem stored_param_below (value : Option α) (name : String) {child after : Tree α}
    (below : ∀ q, stored q after = if taken ∧ q = p then some new else stored q child)
    (q : List Segment) :
    stored q (.param value name after) =
      if taken ∧ q = .param name :: p then some new else stored q (.param value name child) := by
  cases q with
  | nil => simp [Tree.value]
  | cons b q =>
      cases b with
      | static => simp
      | wildcard => simp
      | param other =>
          by_cases same : name = other
          · subst same
            simp [below]
          · simp [same, Ne.symm same]

theorem stored_param_empty (value : Option α) (name : String) (q : List Segment) :
    stored q (.param value name empty) = stored q (.branch value []) := by
  cases q with
  | nil => rfl
  | cons b q => cases b <;> simp

theorem stored_wildcard_fresh (value : Option α) (name : String) (new : α) (q : List Segment) :
    stored q (.wildcard value name new) =
      if q = [.wildcard name] then some new else stored q (.branch value []) := by
  cases q with
  | nil => simp [Tree.value]
  | cons b q =>
      cases b with
      | static => simp
      | param => simp
      | wildcard other =>
          cases q with
          | nil => by_cases same : name = other <;> simp [same, eq_comm]
          | cons => simp

end Below

/-- A route that is taken keeps its value from then on; of every other route, and of every route
when this one is refused, the value stays. -/
theorem stored_addPattern (route : String) (new : α) (p q : List Segment) (tree : Tree α) :
    stored q (addPattern route new p tree).1 =
      if (addPattern route new p tree).2 = none ∧ q = p then some new else stored q tree := by
  induction p generalizing q tree with
  | nil =>
      cases old : tree.value with
      | some value => simp [addPattern, old]
      | none => simp [addPattern_nil _ _ _ old, stored_withValue]
  | cons a p ih =>
      cases a with
      | static text =>
          cases tree with
          | branch value children =>
              rw [addPattern_static]
              exact stored_branch_insert value children text (fun rest => ih rest _) q
          | param value name child => simp [addPattern]
          | wildcard value name rest => simp [addPattern]
      | param name =>
          cases tree with
          | branch value children =>
              cases children with
              | nil =>
                  rw [addPattern_param_fresh, ← stored_param_empty value name]
                  exact stored_param_below value name (fun rest => ih rest _) q
              | cons first children => simp [addPattern]
          | param value existing child =>
              by_cases known : existing = name
              · subst known
                rw [addPattern_param_same]
                exact stored_param_below value existing (fun rest => ih rest child) q
              · simp [addPattern, known]
          | wildcard value existing rest => simp [addPattern]
      | wildcard name =>
          cases p with
          | cons b p => simp [addPattern]
          | nil =>
              cases tree with
              | branch value children =>
                  cases children with
                  | nil => simpa [addPattern] using stored_wildcard_fresh value name new q
                  | cons first children => simp [addPattern]
              | param value existing child => simp [addPattern]
              | wildcard value existing rest => simp [addPattern]

/-- Following a path finds the value of a route that the path matches, with what the route
captures. -/
theorem follow_eq_some_iff (path : List String) (tree : Tree α) (params found : Params)
    (target : α) :
    follow path tree params = some (target, found) ↔
      ∃ route captured, stored route tree = some target ∧ captures route path = some captured ∧
        found = captured.foldl (fun all entry => Keyed.insert all entry.1 entry.2) params := by
  induction path generalizing tree params with
  | nil =>
      simp only [follow, Option.map_eq_some_iff, Prod.mk.injEq]
      constructor
      · rintro ⟨value, kept, rfl, rfl⟩
        exact ⟨[], [], kept, rfl, rfl⟩
      · rintro ⟨route, captured, kept, matched, rfl⟩
        cases route with
        | cons => simp at matched
        | nil =>
            simp only [captures_nil, ↓reduceIte, Option.some.injEq] at matched
            subst matched
            exact ⟨target, kept, rfl, rfl⟩
  | cons segment path ih =>
      cases tree with
      | branch value children =>
          simp only [follow, Option.bind_eq_some_iff, ih]
          constructor
          · rintro ⟨child, known, route, captured, kept, matched, rfl⟩
            exact ⟨.static segment :: route, captured, by simp [known, kept],
              by simp [matched], rfl⟩
          · rintro ⟨route, captured, kept, matched, rfl⟩
            rcases stored_branch_eq_some_iff.mp kept with
              ⟨rfl, -⟩ | ⟨text, rest, child, rfl, known, below⟩
            · simp at matched
            · obtain ⟨rfl, tail⟩ := captures_static_eq_some_iff.mp matched
              exact ⟨child, known, rest, captured, below, tail, rfl⟩
      | param value name child =>
          simp only [follow, ih]
          constructor
          · rintro ⟨route, captured, kept, matched, rfl⟩
            exact ⟨.param name :: route, (name, segment) :: captured, by simp [kept],
              by simp [matched], rfl⟩
          · rintro ⟨route, captured, kept, matched, rfl⟩
            rcases stored_param_eq_some_iff.mp kept with ⟨rfl, -⟩ | ⟨rest, rfl, below⟩
            · simp at matched
            · rw [captures_param] at matched
              obtain ⟨more, tail, rfl⟩ := Option.map_eq_some_iff.mp matched
              exact ⟨rest, more, below, tail, rfl⟩
      | wildcard value name rest =>
          simp only [follow, Option.some.injEq, Prod.mk.injEq]
          constructor
          · rintro ⟨rfl, rfl⟩
            exact ⟨[.wildcard name], _, by simp, captures_wildcard name segment path, rfl⟩
          · rintro ⟨route, captured, kept, matched, rfl⟩
            rcases stored_wildcard_eq_some_iff.mp kept with ⟨rfl, -⟩ | ⟨rfl, same⟩
            · simp at matched
            · simp only [captures_wildcard, Option.some.injEq] at matched
              subst matched
              exact ⟨same, rfl⟩

/-- A path resolves to the value of a route that it matches. -/
theorem resolve_eq_some_iff (tree : Tree α) (path : String) (target : α) (params : Params) :
    tree.resolve path = some (target, params) ↔
      ∃ route captured, stored route tree = some target ∧
        captures route (segments path) = some captured ∧ params = Keyed.ofList captured :=
  follow_eq_some_iff (segments path) tree [] params target

@[simp] theorem resolve_empty (path : String) : (empty : Tree α).resolve path = none := by
  rw [Option.eq_none_iff_forall_ne_some]
  rintro ⟨target, params⟩ found
  rw [resolve_eq_some_iff] at found
  obtain ⟨route, captured, kept, _⟩ := found
  simp at kept

end EventRelay.Route.Tree
