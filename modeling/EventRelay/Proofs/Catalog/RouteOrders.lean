import EventRelay.Proofs.Catalog.Lookups
import EventRelay.Proofs.Route.Resolution

set_option autoImplicit false

/-!
Routes that join a tree one after another. Whether a further one is taken is decided by comparing it
with each of those that are there, so it does not matter in which order they came.
-/
namespace EventRelay

namespace Route.Tree

variable {α : Type}

section Accepted
variable {calls : List (String × α)} {tree : Tree α}

theorem taken_sublist (calls : List (String × α)) (tree : Tree α) :
    (taken calls tree).Sublist calls := by
  induction calls generalizing tree with
  | nil => exact .slnil
  | cons call rest ih =>
      rw [taken]
      split
      · exact (ih _).cons_cons call
      · exact (ih _).cons call

theorem taken_cons_eq_iff (call : String × α) (rest : List (String × α)) (tree : Tree α) :
    taken (call :: rest) tree = call :: rest ↔
      (tree.add call.1 call.2).2 = none ∧ taken rest (tree.add call.1 call.2).1 = rest := by
  rw [taken]
  split
  case isTrue accepted => simp [accepted]
  case isFalse refused =>
    refine iff_of_false (fun same => ?_) (fun both => refused both.1)
    have fewer := (taken_sublist rest (tree.add call.1 call.2).1).length_le
    rw [same, List.length_cons] at fewer
    exact Nat.not_succ_le_self _ fewer

/-- Routes are all taken exactly when each has its wildcard last and is compatible with those that
are there and with the others. -/
theorem taken_eq_iff (tight : tree.Tight) :
    taken calls tree = calls ↔
      (∀ call ∈ calls, WildcardLast (pattern call.1) ∧ Fits (pattern call.1) tree) ∧
      calls.Pairwise fun first second => Compatible (pattern first.1) (pattern second.1) := by
  refine ⟨fun accepted => accepted ▸ taken_compatible calls tree, ?_⟩
  induction calls generalizing tree with
  | nil => exact fun _ => rfl
  | cons call rest ih =>
      rintro ⟨each, pairs⟩
      obtain ⟨here, apart⟩ := List.pairwise_cons.mp pairs
      obtain ⟨first, others⟩ := List.forall_mem_cons.mp each
      have accepted : (tree.add call.1 call.2).2 = none :=
        (addPattern_eq_none_iff call.1 call.2 (pattern call.1) tight).mpr first
      have fitsAfter := fits_addPattern_iff call.1 call.2 accepted
      refine (taken_cons_eq_iff call rest tree).mpr ⟨accepted, ?_⟩
      refine ih (tight.addPattern call.1 call.2 (pattern call.1) accepted) ⟨?_, apart⟩
      intro other member
      exact ⟨(others other member).1,
        (fitsAfter _).mpr ⟨(here other member).symm, (others other member).2⟩⟩

theorem taken_empty_eq_iff :
    taken calls empty = calls ↔
      (∀ call ∈ calls, WildcardLast (pattern call.1)) ∧
      calls.Pairwise fun first second => Compatible (pattern first.1) (pattern second.1) := by
  simp only [taken_eq_iff tight_empty, fits_empty, and_true]

/-- Routes that are all taken leave nothing behind but themselves. -/
theorem Tight.addAll (tight : tree.Tight) (accepted : taken calls tree = calls) :
    (Tree.addAll calls tree).Tight := by
  induction calls generalizing tree with
  | nil => exact tight
  | cons call rest ih =>
      obtain ⟨first, others⟩ := (taken_cons_eq_iff call rest tree).mp accepted
      exact ih (tight.addPattern call.1 call.2 (pattern call.1) first) others

theorem fits_addAll_iff (accepted : taken calls tree = calls) (p : List Segment) :
    Fits p (addAll calls tree) ↔
      Fits p tree ∧ ∀ call ∈ calls, Compatible p (pattern call.1) := by
  simp only [Fits, stored_addAll_eq_some_iff, accepted]
  constructor
  · intro fits
    refine ⟨fun q target kept => fits q target (Or.inl kept), fun call member => ?_⟩
    exact fits (pattern call.1) call.2 (Or.inr ⟨call.1, member, rfl⟩)
  · rintro ⟨before, each⟩ q target (kept | ⟨route, member, rfl⟩)
    · exact before q target kept
    · exact each (route, target) member

theorem add_addAll_eq_none_iff (accepted : taken calls empty = calls) (route : String)
    (target : α) :
    ((addAll calls empty).add route target).2 = none ↔
      WildcardLast (pattern route) ∧
        ∀ other ∈ calls, Compatible (pattern route) (pattern other.1) := by
  have decided : ((addAll calls empty).add route target).2 = none ↔
      WildcardLast (pattern route) ∧ Fits (pattern route) (addAll calls empty) :=
    addPattern_eq_none_iff route target (pattern route) (tight_empty.addAll accepted)
  rw [decided, fits_addAll_iff accepted]
  simp only [fits_empty, true_and]

theorem taken_perm {order : List (String × α)} (same : order.Perm calls)
    (accepted : taken calls empty = calls) : taken order empty = order := by
  rw [taken_empty_eq_iff] at accepted ⊢
  refine ⟨fun call member => accepted.1 call (same.mem_iff.mp member), ?_⟩
  exact (same.pairwise_iff fun compatible => compatible.symm).mpr accepted.2

theorem resolve_addAll_perm {order : List (String × α)} (same : order.Perm calls)
    (accepted : taken calls empty = calls) (path : String) :
    (addAll order empty).resolve path = (addAll calls empty).resolve path := by
  apply Option.ext
  rintro ⟨target, params⟩
  simp only [resolve_addAll_eq_some_iff, accepted, taken_perm same accepted, same.mem_iff]

end Accepted
end Route.Tree

section Orders
open Route.Tree (addAll taken)

variable {α : Type}

/-- A tree that routes have joined takes a further one exactly when this has its wildcard last and
is compatible with each of them. So in any other order the routes join as well, and every path leads
to the same; and the conflict of a new subscription does not depend on the order of the existing
ones. Should these conflict with one another, as those of a catalog never do, there is one in any
order. -/
theorem acceptance_is_compatibility {routes : List (String × α)}
    (accepted : taken routes Route.Tree.empty = routes) :
    (∀ route target, ((addAll routes Route.Tree.empty).add route target).2 = none ↔
      Route.WildcardLast (Route.pattern route) ∧
        ∀ other ∈ routes, Route.Compatible (Route.pattern route) (Route.pattern other.1)) ∧
    (∀ order, order.Perm routes → taken order Route.Tree.empty = order ∧
      ∀ path, (addAll order Route.Tree.empty).resolve path =
        (addAll routes Route.Tree.empty).resolve path) ∧
    (∀ existing order candidate, order.Perm existing →
      (Subscription.pathConflict? order candidate = none ↔
        Subscription.pathConflict? existing candidate = none) ∧
      (Subscription.addRoutes (existing.filter (·.sharesRoutes candidate)) Route.Tree.empty = none →
        Subscription.pathConflict? order candidate =
          Subscription.pathConflict? existing candidate)) ∧
    (∀ c, Catalog.Reachable c → ∀ order candidate, order.Perm c.allSubscriptions →
      Subscription.pathConflict? order candidate =
        Subscription.pathConflict? c.allSubscriptions candidate) := by
  refine ⟨Route.Tree.add_addAll_eq_none_iff accepted, fun order same => ?_,
    fun existing order candidate same => ?_, fun c reachable order candidate listed => ?_⟩
  · exact ⟨Route.Tree.taken_perm same accepted, Route.Tree.resolve_addAll_perm same accepted⟩
  · refine ⟨Subscription.pathConflict?_perm same candidate, fun joined => ?_⟩
    refine Subscription.pathConflict?_congr ?_ joined fun t _ => same.mem_iff
    rw [Subscription.addRoutes_eq_none_iff _ Route.Tree.tight_empty] at joined ⊢
    have shared := same.filter (·.sharesRoutes candidate)
    refine ⟨fun s member => joined.1 s (shared.mem_iff.mp member), ?_⟩
    exact (shared.pairwise_iff fun compatible => compatible.symm).mpr joined.2
  · exact Catalog.pathConflict?_eq reachable reachable listed (List.Perm.refl _) fun t _ => Iff.rfl

/-- Routes with segments of every sort, some of them empty, some routes going on where others
end. -/
def exampleRoutes : List (String × Nat) :=
  [("/users/:id", 1), ("/", 2), ("/static/*file", 3), ("/users/:id/posts", 4), ("/static", 5),
    ("/a/", 6), ("/a//b", 7)]

theorem exampleRoutes_join_in_any_order :
    taken exampleRoutes Route.Tree.empty = exampleRoutes ∧
    ((addAll exampleRoutes Route.Tree.empty).add "/users/:id/posts/*rest" 8).2 = none ∧
    ((addAll exampleRoutes Route.Tree.empty).add "/a//:id" 8).2 ≠ none ∧
    (∀ path, (addAll exampleRoutes.reverse Route.Tree.empty).resolve path =
      (addAll exampleRoutes Route.Tree.empty).resolve path) ∧
    ∀ candidate,
      Subscription.pathConflict? Catalog.exampleCatalog.allSubscriptions.reverse candidate =
      Subscription.pathConflict? Catalog.exampleCatalog.allSubscriptions candidate := by
  have joined : taken exampleRoutes Route.Tree.empty = exampleRoutes := by decide +kernel
  obtain ⟨decided, orders, -, conflicts⟩ := acceptance_is_compatibility joined
  refine ⟨joined, (decided _ _).mpr (by decide +kernel), ?_, ?_, fun candidate => ?_⟩
  · rw [ne_eq, decided]
    decide +kernel
  · exact (orders _ (List.reverse_perm exampleRoutes)).2
  · exact conflicts _ Catalog.reachable_exampleCatalog _ candidate (List.reverse_perm _)

end Orders
end EventRelay
