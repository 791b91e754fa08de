import EventRelay.Proofs.Route.Refusal
import EventRelay.Proofs.RoutingTable.Routes

set_option autoImplicit false

/-!
When the route of a new sync subscription conflicts with existing ones. The check compiles the
routes in some order; its verdict, and the conflict it tells, depend on which routes there are, not
on the order.
-/
namespace EventRelay.Subscription

open Route (WildcardLast Compatible)

/-- Routes join a tree one after another exactly when each has its wildcard last and is compatible
with those that are there and with those before it. -/
theorem addRoutes_eq_none_iff (subscriptions : List Subscription) {tree : Route.Tree Unit}
    (tight : tree.Tight) :
    addRoutes subscriptions tree = none ↔
      (∀ s ∈ subscriptions, WildcardLast s.route ∧ tree.Fits s.route) ∧
      subscriptions.Pairwise fun s t => Compatible s.route t.route := by
  induction subscriptions generalizing tree with
  | nil => simp [addRoutes]
  | cons s rest ih =>
      have accepted := Route.Tree.addPattern_eq_none_iff s.path () s.route tight
      rw [List.forall_mem_cons, List.pairwise_cons, ← accepted]
      cases outcome : tree.add s.path () with
      | mk after error =>
          have added : Route.Tree.addPattern s.path () s.route tree = (after, error) := outcome
          cases error with
          | some e =>
              refine iff_of_false (by simp [addRoutes, outcome]) ?_
              rintro ⟨⟨taken, -⟩, -⟩
              simp [added] at taken
          | none =>
              have taken : (Route.Tree.addPattern s.path () s.route tree).2 = none := by rw [added]
              have afterTight := tight.addPattern s.path () s.route taken
              have afterFits := Route.Tree.fits_addPattern_iff s.path () taken
              rw [added] at afterTight afterFits
              have goesOn : addRoutes (s :: rest) tree = addRoutes rest after := by
                simp [addRoutes, outcome]
              rw [goesOn, ih afterTight]
              simp only [afterFits]
              constructor
              · rintro ⟨each, pairs⟩
                refine ⟨⟨taken, fun t member => ?_⟩, fun t member => ?_, pairs⟩
                · exact ⟨(each t member).1, (each t member).2.2⟩
                · exact (each t member).2.1.symm
              · rintro ⟨⟨-, each⟩, before, pairs⟩
                refine ⟨fun t member => ?_, pairs⟩
                exact ⟨(each t member).1, (before t member).symm, (each t member).2⟩

/-- A candidate has no conflict exactly when it and those it shares a tree with have their
wildcards last and are compatible with one another. -/
theorem pathConflict?_eq_none_iff (existing : List Subscription) (candidate : Subscription) :
    pathConflict? existing candidate = none ↔
      (∀ t ∈ existing, t.sharesRoutes candidate → WildcardLast t.route) ∧
      (existing.filter (·.sharesRoutes candidate)).Pairwise
        (fun s t => Compatible s.route t.route) ∧
      WildcardLast candidate.route ∧
      ∀ t ∈ existing, t.sharesRoutes candidate → Compatible t.route candidate.route := by
  rw [pathConflict?, addRoutes_eq_none_iff _ Route.Tree.tight_empty, List.pairwise_append]
  simp only [Route.Tree.fits_empty, and_true, List.pairwise_singleton, true_and, List.mem_append,
    List.mem_filter, List.mem_singleton, or_imp, forall_and, forall_eq, and_imp]
  constructor
  · rintro ⟨⟨each, own⟩, pairs, compatible⟩
    exact ⟨each, pairs, own, compatible⟩
  · rintro ⟨each, pairs, own, compatible⟩
    exact ⟨⟨each, own⟩, pairs, compatible⟩

theorem pathConflict?_perm {order existing : List Subscription} (same : order.Perm existing)
    (candidate : Subscription) :
    pathConflict? order candidate = none ↔ pathConflict? existing candidate = none := by
  have pairs := (same.filter (·.sharesRoutes candidate)).pairwise_iff
    (fun {s t : Subscription} (compatible : Compatible s.route t.route) => compatible.symm)
  simp only [pathConflict?_eq_none_iff, same.mem_iff, pairs]

/-- Routes that all join a tree leave one that holds them as well, and the rest go on from there. -/
theorem exists_of_addRoutes_eq_none {subscriptions : List Subscription} {tree : Route.Tree Unit}
    (tight : tree.Tight) (taken : addRoutes subscriptions tree = none) :
    ∃ after : Route.Tree Unit, after.Tight ∧
      (∀ route, after.stored route = some () ↔
        tree.stored route = some () ∨ ∃ s ∈ subscriptions, s.route = route) ∧
      ∀ rest, addRoutes (subscriptions ++ rest) tree = addRoutes rest after := by
  induction subscriptions generalizing tree with
  | nil => exact ⟨tree, tight, fun route => by simp, fun rest => rfl⟩
  | cons s others ih =>
      cases outcome : tree.add s.path () with
      | mk next error =>
          cases error with
          | some e => simp [addRoutes, outcome] at taken
          | none =>
              have added : Route.Tree.addPattern s.path () s.route tree = (next, none) := outcome
              have fits : (Route.Tree.addPattern s.path () s.route tree).2 = none := by rw [added]
              have nextTight := tight.addPattern s.path () s.route fits
              have nextStored := fun route =>
                Route.Tree.stored_addPattern s.path () s.route route tree
              simp only [added] at nextTight nextStored
              simp only [addRoutes, outcome] at taken
              obtain ⟨after, afterTight, afterStored, goesOn⟩ := ih nextTight taken
              refine ⟨after, afterTight, fun route => ?_, fun rest => ?_⟩
              · rw [afterStored, nextStored]
                by_cases here : route = s.route
                · simp [here]
                · simp [here, Ne.symm here]
              · simpa [addRoutes, outcome] using goesOn rest

theorem addRoutes_singleton (s : Subscription) (tree : Route.Tree Unit) :
    addRoutes [s] tree = (Route.Tree.addPattern s.path () s.route tree).2 := by
  have added : tree.add s.path () = Route.Tree.addPattern s.path () s.route tree := rfl
  rw [addRoutes, added]
  cases Route.Tree.addPattern s.path () s.route tree with
  | mk after error => cases error <;> rfl

/-- The conflict that a candidate has depends on which routes it would share a tree with, provided
that these have none among themselves. -/
theorem pathConflict?_congr {existing others : List Subscription} {candidate : Subscription}
    (joined : addRoutes (existing.filter (·.sharesRoutes candidate)) .empty = none)
    (otherJoined : addRoutes (others.filter (·.sharesRoutes candidate)) .empty = none)
    (same : ∀ t : Subscription, t.sharesRoutes candidate = true → (t ∈ existing ↔ t ∈ others)) :
    pathConflict? existing candidate = pathConflict? others candidate := by
  obtain ⟨tree, tight, stored, goesOn⟩ :=
    exists_of_addRoutes_eq_none Route.Tree.tight_empty joined
  obtain ⟨other, otherTight, otherStored, otherGoesOn⟩ :=
    exists_of_addRoutes_eq_none Route.Tree.tight_empty otherJoined
  have alike : ∀ route, tree.stored route = other.stored route := by
    intro route
    apply Option.ext
    rintro ⟨⟩
    rw [stored, otherStored]
    refine or_congr_right (exists_congr fun t => and_congr_left fun _ => ?_)
    rw [List.mem_filter, List.mem_filter]
    exact and_congr_left fun shares => same t shares
  rw [pathConflict?, pathConflict?, goesOn, otherGoesOn, addRoutes_singleton, addRoutes_singleton]
  exact Route.Tree.addPattern_error_eq candidate.path () candidate.route tight otherTight alike

end EventRelay.Subscription
