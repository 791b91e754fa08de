import EventRelay.Proofs.Catalog.Routing

set_option autoImplicit false

/-!
What the routing tables of catalogs answer, and which conflicts a new route has. An answer depends
on the subscriptions that the question is about and on no other, and on no order; two catalogs that
have the same of those give it alike.
-/
namespace EventRelay.Catalog

open RoutingTable (Answers)

/-- A table is built from the subscriptions of a catalog, listed in some order. -/
def Compiles (c : Catalog) (table : RoutingTable) : Prop :=
  ∃ order : List Subscription, order.Perm c.allSubscriptions ∧ RoutingTable.build order = table

theorem compiles_routes (c : Catalog) : c.Compiles c.routes :=
  ⟨c.allSubscriptions, List.Perm.refl _, rfl⟩

section Tables
variable {c d : Catalog} {table other : RoutingTable}

theorem subscribers_eq (compiled : c.Compiles table) (otherCompiled : d.Compiles other)
    {space path : String} {type : EventType}
    (same : ∀ s : Subscription, s.kind = .async → s.space = space → s.path = path →
      s.eventType = type → (s ∈ c.allSubscriptions ↔ s ∈ d.allSubscriptions)) :
    table.subscribers space path type = other.subscribers space path type := by
  obtain ⟨order, listed, rfl⟩ := compiled
  obtain ⟨others, otherListed, rfl⟩ := otherCompiled
  have ascending := RoutingTable.ascending_subscribers_build order space path type
  have otherAscending := RoutingTable.ascending_subscribers_build others space path type
  -- The list of subscribers is in order and without repeats, so its members decide it.
  refine ascending.ext otherAscending fun id => ?_
  rw [mem_subscribers_iff listed, mem_subscribers_iff otherListed]
  refine exists_congr fun s => ?_
  constructor
  · rintro ⟨member, kind, here, there, named, called⟩
    exact ⟨(same s kind here there named).mp member, kind, here, there, named, called⟩
  · rintro ⟨member, kind, here, there, named, called⟩
    exact ⟨(same s kind here there named).mpr member, kind, here, there, named, called⟩

theorem Reachable.compiled_syncTarget_eq_some_iff (reachable : Reachable c)
    (compiled : c.Compiles table) {space method path : String} {type : EventType}
    {params : Route.Params} (found : SyncTarget) :
    table.syncTarget space method path type = some (found, params) ↔
      ∃ s ∈ c.allSubscriptions, Answers s space method path type params ∧
        found = ⟨s.functionId, s.cors⟩ := by
  obtain ⟨order, listed, rfl⟩ := compiled
  exact reachable.syncTarget_eq_some_iff listed space method path type found params

theorem syncTarget_eq (reachable : Reachable c) (otherReachable : Reachable d)
    (compiled : c.Compiles table) (otherCompiled : d.Compiles other) {space method path : String}
    {type : EventType}
    (same : ∀ s params, Answers s space method path type params →
      (s ∈ c.allSubscriptions ↔ s ∈ d.allSubscriptions)) :
    table.syncTarget space method path type = other.syncTarget space method path type := by
  apply Option.ext
  rintro ⟨found, params⟩
  rw [reachable.compiled_syncTarget_eq_some_iff compiled,
    otherReachable.compiled_syncTarget_eq_some_iff otherCompiled]
  refine exists_congr fun s => ?_
  constructor
  · rintro ⟨member, answers, led⟩
    exact ⟨(same s params answers).mp member, answers, led⟩
  · rintro ⟨member, answers, led⟩
    exact ⟨(same s params answers).mpr member, answers, led⟩

theorem exists_of_subscribers_ne (compiled : c.Compiles table) (otherCompiled : d.Compiles other)
    {space path : String} {type : EventType}
    (differ : other.subscribers space path type ≠ table.subscribers space path type) :
    ∃ s : Subscription, ¬ (s ∈ c.allSubscriptions ↔ s ∈ d.allSubscriptions) ∧
      s.kind = .async ∧ s.space = space ∧ s.path = path ∧ s.eventType = type := by
  apply Classical.byContradiction
  intro none
  refine differ (subscribers_eq compiled otherCompiled ?_).symm
  intro s kind here there named
  apply Decidable.byContradiction
  intro lacking
  exact none ⟨s, lacking, kind, here, there, named⟩

theorem exists_of_syncTarget_ne (reachable : Reachable c) (otherReachable : Reachable d)
    (compiled : c.Compiles table) (otherCompiled : d.Compiles other) {space method path : String}
    {type : EventType}
    (differ : other.syncTarget space method path type ≠ table.syncTarget space method path type) :
    ∃ s params, ¬ (s ∈ c.allSubscriptions ↔ s ∈ d.allSubscriptions) ∧
      Answers s space method path type params := by
  apply Classical.byContradiction
  intro none
  refine differ (syncTarget_eq reachable otherReachable compiled otherCompiled ?_).symm
  intro s params answers
  apply Decidable.byContradiction
  intro lacking
  exact none ⟨s, params, lacking, answers⟩

end Tables

section Conflicts
variable {c d : Catalog} {order others : List Subscription} {candidate : Subscription}

theorem Reachable.addRoutes_eq_none (reachable : Reachable c)
    (listed : order.Perm c.allSubscriptions) (candidate : Subscription) :
    Subscription.addRoutes (order.filter (·.sharesRoutes candidate)) Route.Tree.empty = none := by
  have joinable := reachable.routesJoin.joinable reachable.sound.subscriptions listed
  rw [Subscription.addRoutes_eq_none_iff _ Route.Tree.tight_empty]
  constructor
  · intro s member
    obtain ⟨stored, shares⟩ := List.mem_filter.mp member
    obtain ⟨kind, -⟩ := (Subscription.sharesRoutes_iff s candidate).mp shares
    exact ⟨joinable.wildcardLast s stored kind, Route.Tree.fits_empty s.route⟩
  · refine (joinable.apart.filter _).imp_of_mem fun {s t} member other apart => ?_
    obtain ⟨-, shares⟩ := List.mem_filter.mp member
    obtain ⟨-, otherShares⟩ := List.mem_filter.mp other
    obtain ⟨kind, space, method, type⟩ := (Subscription.sharesRoutes_iff s candidate).mp shares
    obtain ⟨otherKind, otherSpace, otherMethod, otherType⟩ :=
      (Subscription.sharesRoutes_iff t candidate).mp otherShares
    apply apart kind otherKind
    rw [RoutingTable.syncKey, RoutingTable.syncKey, space, otherSpace, method, otherMethod, type,
      otherType]

/-- The conflict of a candidate depends on the subscriptions that it would share a tree with. -/
theorem pathConflict?_eq (reachable : Reachable c) (otherReachable : Reachable d)
    (listed : order.Perm c.allSubscriptions) (otherListed : others.Perm d.allSubscriptions)
    (same : ∀ t : Subscription, t.sharesRoutes candidate = true →
      (t ∈ c.allSubscriptions ↔ t ∈ d.allSubscriptions)) :
    Subscription.pathConflict? order candidate = Subscription.pathConflict? others candidate := by
  refine Subscription.pathConflict?_congr (reachable.addRoutes_eq_none listed candidate)
    (otherReachable.addRoutes_eq_none otherListed candidate) fun t shares => ?_
  rw [listed.mem_iff, otherListed.mem_iff]
  exact same t shares

end Conflicts
end EventRelay.Catalog
