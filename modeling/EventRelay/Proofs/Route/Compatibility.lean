import EventRelay.Route.Tree

set_option autoImplicit false

/-!
Which routes can stand in one table, said of their segments alone, and what a route captures of a
path that it matches. No path matches two compatible routes, whatever their wildcards.
-/
namespace EventRelay.Route

/-- Whether a segment matches only itself. -/
def Segment.isStatic : Segment → Bool
  | .static _ => true
  | _ => false

theorem exists_static_of_isStatic {a : Segment} (static : a.isStatic = true) :
    ∃ text, a = .static text := by
  cases a with
  | static text => exact ⟨text, rfl⟩
  | param => cases static
  | wildcard => cases static

/-- A wildcard stands nowhere but at the end. -/
def WildcardLast : List Segment → Prop
  | [] => True
  | [_] => True
  | first :: second :: rest => (∀ name, first ≠ .wildcard name) ∧ WildcardLast (second :: rest)

@[simp] theorem wildcardLast_static (text : String) (route : List Segment) :
    WildcardLast (.static text :: route) ↔ WildcardLast route := by
  cases route <;> simp [WildcardLast]

@[simp] theorem wildcardLast_param (name : String) (route : List Segment) :
    WildcardLast (.param name :: route) ↔ WildcardLast route := by
  cases route <;> simp [WildcardLast]

@[simp] theorem wildcardLast_wildcard (name : String) (route : List Segment) :
    WildcardLast (.wildcard name :: route) ↔ route = [] := by
  cases route <;> simp [WildcardLast]

instance decidableWildcardLast : (route : List Segment) → Decidable (WildcardLast route)
  | [] => .isTrue trivial
  | .static text :: route =>
    have := decidableWildcardLast route
    decidable_of_iff (WildcardLast route) (wildcardLast_static text route).symm
  | .param name :: route =>
    have := decidableWildcardLast route
    decidable_of_iff (WildcardLast route) (wildcardLast_param name route).symm
  | .wildcard name :: route =>
    decidable_of_iff (route = []) (wildcardLast_wildcard name route).symm

/-- Two routes can stand beside each other: they differ, and where both have a segment and these
differ for the first time, both segments are static. A route may go on where another ends. -/
def Compatible : List Segment → List Segment → Prop
  | [], [] => False
  | [], _ :: _ => True
  | _ :: _, [] => True
  | a :: p, b :: q => if a = b then Compatible p q else a.isStatic = true ∧ b.isStatic = true

instance decidableCompatible : (p q : List Segment) → Decidable (Compatible p q)
  | [], [] => inferInstanceAs (Decidable False)
  | [], _ :: _ => inferInstanceAs (Decidable True)
  | _ :: _, [] => inferInstanceAs (Decidable True)
  | a :: p, b :: q =>
    have := decidableCompatible p q
    inferInstanceAs
      (Decidable (if a = b then Compatible p q else a.isStatic = true ∧ b.isStatic = true))

@[simp] theorem not_compatible_nil : ¬ Compatible [] [] := id

@[simp] theorem compatible_nil_cons (a : Segment) (p : List Segment) : Compatible [] (a :: p) :=
  trivial

@[simp] theorem compatible_cons_nil (a : Segment) (p : List Segment) : Compatible (a :: p) [] :=
  trivial

@[simp] theorem compatible_cons_self (a : Segment) (p q : List Segment) :
    Compatible (a :: p) (a :: q) ↔ Compatible p q := by
  simp [Compatible]

theorem compatible_cons_of_ne {a b : Segment} (differ : a ≠ b) (p q : List Segment) :
    Compatible (a :: p) (b :: q) ↔ a.isStatic = true ∧ b.isStatic = true := by
  simp [Compatible, differ]

theorem Compatible.symm {p q : List Segment} (compatible : Compatible p q) : Compatible q p := by
  induction p generalizing q with
  | nil =>
      cases q with
      | nil => exact compatible
      | cons b q => trivial
  | cons a p ih =>
      cases q with
      | nil => trivial
      | cons b q =>
          by_cases same : a = b
          · subst same
            rw [compatible_cons_self] at compatible ⊢
            exact ih compatible
          · rw [compatible_cons_of_ne same] at compatible
            rw [compatible_cons_of_ne (Ne.symm same)]
            exact ⟨compatible.2, compatible.1⟩

theorem not_compatible_self (p : List Segment) : ¬ Compatible p p := by
  induction p with
  | nil => exact id
  | cons a p ih => simpa using ih

/-- Compatible routes in terms of the place where they go apart, if they do. -/
theorem compatible_iff (p q : List Segment) :
    Compatible p q ↔ p ≠ q ∧ ∀ common a b p' q', p = common ++ a :: p' → q = common ++ b :: q' →
      a ≠ b → a.isStatic = true ∧ b.isStatic = true := by
  induction p generalizing q with
  | nil => cases q <;> simp
  | cons a p ih =>
      cases q with
      | nil => simp
      | cons b q =>
          by_cases same : a = b
          · subst same
            rw [compatible_cons_self, ih]
            refine and_congr (by simp) ⟨fun static common => ?_, fun static common => ?_⟩
            · intro c d p' q' first second differ
              cases common with
              | nil =>
                  simp only [List.nil_append, List.cons.injEq] at first second
                  exact absurd (first.1.symm.trans second.1) differ
              | cons e common =>
                  simp only [List.cons_append, List.cons.injEq] at first second
                  exact static common c d p' q' first.2 second.2 differ
            · intro c d p' q' first second differ
              exact static (a :: common) c d p' q' (by rw [first, List.cons_append])
                (by rw [second, List.cons_append]) differ
          · rw [compatible_cons_of_ne same]
            constructor
            · rintro static
              refine ⟨by simp [same], fun common c d p' q' first second differ => ?_⟩
              cases common with
              | nil =>
                  simp only [List.nil_append, List.cons.injEq] at first second
                  rw [← first.1, ← second.1]
                  exact static
              | cons e common =>
                  -- the two routes begin with different segments
                  simp only [List.cons_append, List.cons.injEq] at first second
                  exact absurd (first.1.trans second.1.symm) same
            · rintro ⟨-, static⟩
              exact static [] a b p q rfl rfl same

/-- Two routes that are compatible or the same: neither stands in the other's way. -/
def Alongside (p q : List Segment) : Prop := p = q ∨ Compatible p q

theorem Alongside.symm {p q : List Segment} (alongside : Alongside p q) : Alongside q p :=
  alongside.elim (fun same => Or.inl same.symm) fun compatible => Or.inr compatible.symm

@[simp] theorem alongside_nil (p : List Segment) : Alongside p [] := by
  cases p with
  | nil => exact Or.inl rfl
  | cons a p => exact Or.inr (compatible_cons_nil a p)

@[simp] theorem nil_alongside (p : List Segment) : Alongside [] p := (alongside_nil p).symm

@[simp] theorem alongside_cons_self (a : Segment) (p q : List Segment) :
    Alongside (a :: p) (a :: q) ↔ Alongside p q := by
  simp [Alongside]

theorem alongside_cons_of_ne {a b : Segment} (differ : a ≠ b) (p q : List Segment) :
    Alongside (a :: p) (b :: q) ↔ a.isStatic = true ∧ b.isStatic = true := by
  simp [Alongside, differ, compatible_cons_of_ne differ]

/-- A route does not stand in the way where only a part of it is there. -/
theorem Alongside.of_isPrefix {p q r : List Segment} (alongside : Alongside p q) (part : r <+: q) :
    Alongside p r := by
  induction r generalizing p q with
  | nil => exact alongside_nil p
  | cons a r ih =>
      obtain ⟨rest, rfl⟩ := part
      cases p with
      | nil => exact nil_alongside _
      | cons b p =>
          rw [List.cons_append] at alongside
          by_cases same : b = a
          · subst same
            rw [alongside_cons_self] at alongside ⊢
            exact ih alongside (List.prefix_append r rest)
          · rw [alongside_cons_of_ne same] at alongside ⊢
            exact alongside

theorem not_alongside_cons {a b : Segment} (differ : a ≠ b)
    (dynamic : a.isStatic = false ∨ b.isStatic = false) (p q : List Segment) :
    ¬ Alongside (a :: p) (b :: q) := by
  rw [alongside_cons_of_ne differ]
  intro static
  rcases dynamic with first | second
  · exact absurd static.1 (by simp [first])
  · exact absurd static.2 (by simp [second])

/-- What the names of a route capture of the segments of a path, in the order of the route: a
parameter one segment, a wildcard all that is left, at least one. -/
def captures : List Segment → List String → Option (List (String × String))
  | [], [] => some []
  | .static text :: route, segment :: path => if text = segment then captures route path else none
  | .param name :: route, segment :: path => (captures route path).map ((name, segment) :: ·)
  | [.wildcard name], segment :: path => some [(name, "/".intercalate (segment :: path))]
  | _, _ => none

@[simp] theorem captures_nil (path : List String) :
    captures [] path = if path = [] then some [] else none := by
  cases path <;> simp [captures]

@[simp] theorem captures_cons_nil (a : Segment) (route : List Segment) :
    captures (a :: route) [] = none := by
  cases a <;> cases route <;> rfl

@[simp] theorem captures_static (text segment : String) (route : List Segment)
    (path : List String) :
    captures (.static text :: route) (segment :: path) =
      if text = segment then captures route path else none := by
  cases route <;> rfl

@[simp] theorem captures_param (name segment : String) (route : List Segment)
    (path : List String) :
    captures (.param name :: route) (segment :: path) =
      (captures route path).map ((name, segment) :: ·) := by
  cases route <;> rfl

@[simp] theorem captures_wildcard (name segment : String) (path : List String) :
    captures [.wildcard name] (segment :: path) =
      some [(name, "/".intercalate (segment :: path))] := rfl

@[simp] theorem captures_wildcard_cons (name : String) (b : Segment) (route : List Segment)
    (path : List String) : captures (.wildcard name :: b :: route) path = none := by
  cases path <;> rfl

theorem captures_static_eq_some_iff {text segment : String} {route : List Segment}
    {path : List String} {found : List (String × String)} :
    captures (.static text :: route) (segment :: path) = some found ↔
      text = segment ∧ captures route path = some found := by
  by_cases here : text = segment <;> simp [here]

theorem captures_static_of_ne {text other : String} (differ : text ≠ other) {p q : List Segment}
    {path : List String} {found : List (String × String)}
    (matched : captures (.static text :: p) path = some found) :
    captures (.static other :: q) path = none := by
  cases path with
  | nil => simp at matched
  | cons segment path =>
      obtain ⟨rfl, -⟩ := captures_static_eq_some_iff.mp matched
      simp [Ne.symm differ]

/-- No path matches two compatible routes. -/
theorem Compatible.captures_eq_none {p q : List Segment} (compatible : Compatible p q)
    {path : List String} {found : List (String × String)} (matched : captures p path = some found) :
    captures q path = none := by
  induction p generalizing q path found with
  | nil =>
      cases q with
      | nil => exact absurd compatible not_compatible_nil
      | cons b q =>
          have ends : path = [] := by
            cases path with
            | nil => rfl
            | cons => simp at matched
          subst ends
          exact captures_cons_nil b q
  | cons a p ih =>
      cases q with
      | nil =>
          cases path with
          | nil => simp at matched
          | cons => simp
      | cons b q =>
          by_cases same : a = b
          · subst same
            rw [compatible_cons_self] at compatible
            cases path with
            | nil => simp at matched
            | cons segment path =>
                cases a with
                | static text =>
                    obtain ⟨rfl, tail⟩ := captures_static_eq_some_iff.mp matched
                    simpa using ih compatible tail
                | param name =>
                    rw [captures_param] at matched ⊢
                    obtain ⟨rest, tail, _⟩ := Option.map_eq_some_iff.mp matched
                    rw [ih compatible tail]
                    rfl
                | wildcard name =>
                    -- a wildcard that matches ends its route, so the other one goes on after it
                    cases p with
                    | cons c p => simp at matched
                    | nil =>
                        cases q with
                        | nil => exact absurd compatible not_compatible_nil
                        | cons d q => exact captures_wildcard_cons name d q _
          · rw [compatible_cons_of_ne same] at compatible
            obtain ⟨text, rfl⟩ := exists_static_of_isStatic compatible.1
            obtain ⟨other, rfl⟩ := exists_static_of_isStatic compatible.2
            have differ : text ≠ other := by
              intro equal
              exact same (by rw [equal])
            exact captures_static_of_ne differ matched

end EventRelay.Route
