import EventRelay.Proofs.Route.Acceptance
import EventRelay.RoutingTable

set_option autoImplicit false

/-!
The sync routes of a table built from subscriptions whose routes can all stand together. Nothing is
left out, in whatever order they are added, and a path leads to the subscription whose route it
matches.
-/
namespace EventRelay

open Route (WildcardLast Compatible captures segments)

def Subscription.route (s : Subscription) : List Route.Segment := Route.pattern s.path

namespace RoutingTable

/-- Whether the table has no place for a sync subscription, which is then left out. -/
def refuses (table : RoutingTable) (s : Subscription) : Bool :=
  match s.kind with
  | .async => false
  | .sync => ((table.tree (syncKey s)).add s.path (target s)).2.isSome

/-- The subscriptions that are left out when they are added to a table in order. -/
def leftOut (table : RoutingTable) : List Subscription → List Subscription
  | [] => []
  | s :: rest =>
    if table.refuses s then s :: leftOut (table.insert s) rest else leftOut (table.insert s) rest

/-- The subscriptions that a table leaves out when it is built. -/
def skipped (subscriptions : List Subscription) : List Subscription := leftOut empty subscriptions

/-- Two subscriptions that can stand in one table. Only the routes of one tree can collide. -/
def Apart (s t : Subscription) : Prop :=
  s.kind = .sync → t.kind = .sync → syncKey s = syncKey t → Compatible s.route t.route

theorem Apart.symm {s t : Subscription} (apart : Apart s t) : Apart t s :=
  fun kind other same => (apart other kind same.symm).symm

/-- Subscriptions that can all stand in one table. -/
structure Joinable (subscriptions : List Subscription) : Prop where
  wildcardLast : ∀ s ∈ subscriptions, s.kind = .sync → WildcardLast s.route
  apart : subscriptions.Pairwise Apart

theorem Joinable.perm {subscriptions order : List Subscription} (joinable : Joinable subscriptions)
    (same : order.Perm subscriptions) : Joinable order where
  wildcardLast s member := joinable.wildcardLast s (same.mem_iff.mp member)
  apart := (same.pairwise_iff fun apart => apart.symm).mpr joinable.apart

/-- The values of a table are those of the sync subscriptions. -/
def Stores (table : RoutingTable) (subscriptions : List Subscription) : Prop :=
  ∀ key route found, (table.tree key).stored route = some found ↔
    ∃ s ∈ subscriptions, s.kind = .sync ∧ syncKey s = key ∧ s.route = route ∧ target s = found

/-- The trees of a table hold the routes of the sync subscriptions and nothing else. -/
structure Holds (table : RoutingTable) (subscriptions : List Subscription) : Prop where
  tight : ∀ key, (table.tree key).Tight
  stores : Stores table subscriptions

theorem tree_empty (key : SyncKey) : empty.tree key = Route.Tree.empty := rfl

theorem holds_empty : Holds empty [] where
  tight key := Route.Tree.tight_empty
  stores key route found := by simp [tree_empty]

theorem tree_insert_async (table : RoutingTable) {s : Subscription} (kind : s.kind = .async)
    (key : SyncKey) : (table.insert s).tree key = table.tree key := by
  simp [insert, kind, tree]

theorem tree_insert_sync (table : RoutingTable) {s : Subscription} (kind : s.kind = .sync)
    (key : SyncKey) : (table.insert s).tree key =
      if syncKey s = key then ((table.tree key).add s.path (target s)).1 else table.tree key := by
  by_cases same : syncKey s = key
  · subst same
    simp [insert, kind, tree]
  · simp [insert, kind, tree, Keyed.get?_insert, same]

theorem refuses_eq_false_iff (table : RoutingTable) {s : Subscription} (kind : s.kind = .sync) :
    table.refuses s = false ↔
      (Route.Tree.addPattern s.path (target s) s.route (table.tree (syncKey s))).2 = none := by
  rw [refuses, kind]
  exact Option.isSome_eq_false_iff.trans Option.isNone_iff_eq_none

section Stores
variable {table : RoutingTable} {subscriptions : List Subscription} {s : Subscription}

theorem Stores.insert_async (stores : Stores table subscriptions) (kind : s.kind = .async) :
    Stores (table.insert s) (subscriptions ++ [s]) := by
  intro key route found
  rw [tree_insert_async table kind, stores]
  simp [or_and_right, exists_or, kind]

theorem Stores.route_ne (stores : Stores table subscriptions) (kind : s.kind = .sync)
    (taken : table.refuses s = false) {t : Subscription} (member : t ∈ subscriptions)
    (other : t.kind = .sync) (same : syncKey t = syncKey s) : t.route ≠ s.route := by
  intro equal
  have accepted := (refuses_eq_false_iff table kind).mp taken
  have fits := (Route.Tree.fits_of_addPattern s.path (target s) accepted).2
  have held := (stores (syncKey s) s.route (target t)).mpr ⟨t, member, other, same, equal, rfl⟩
  exact Route.not_compatible_self s.route (fits s.route (target t) held)

theorem Stores.insert_sync (stores : Stores table subscriptions) (kind : s.kind = .sync)
    (taken : table.refuses s = false) : Stores (table.insert s) (subscriptions ++ [s]) := by
  have accepted := (refuses_eq_false_iff table kind).mp taken
  intro key route found
  simp only [tree_insert_sync table kind, List.mem_append, List.mem_singleton,
    or_and_right, exists_or, exists_eq_left, kind, true_and]
  by_cases same : syncKey s = key
  · subst same
    have added := Route.Tree.stored_addPattern s.path (target s) s.route route
      (table.tree (syncKey s))
    rw [if_pos rfl]
    change Route.Tree.stored route
      (Route.Tree.addPattern s.path (target s) s.route (table.tree (syncKey s))).1 = _ ↔ _
    rw [added]
    by_cases here : route = s.route
    · subst here
      simp only [accepted, and_self, ↓reduceIte, Option.some.injEq, true_and]
      refine ⟨Or.inr, ?_⟩
      rintro (⟨t, member, other, key, equal, -⟩ | equal)
      · exact absurd equal (stores.route_ne kind taken member other key)
      · exact equal
    · simp only [here, Ne.symm here, and_false, ↓reduceIte, false_and, or_false]
      exact stores (syncKey s) route found
  · simp only [same, ↓reduceIte, false_and, or_false]
    exact stores key route found

end Stores

/-- A table has a place for a subscription exactly when its route has its wildcard last and is
compatible with those it holds. -/
theorem Holds.refuses_eq_false_iff {table : RoutingTable} {subscriptions : List Subscription}
    (holds : Holds table subscriptions) {s : Subscription} (kind : s.kind = .sync) :
    table.refuses s = false ↔ WildcardLast s.route ∧ ∀ t ∈ subscriptions, Apart t s := by
  have accepted := Route.Tree.addPattern_eq_none_iff s.path (target s) s.route
    (holds.tight (syncKey s))
  refine (RoutingTable.refuses_eq_false_iff table kind).trans (accepted.trans ?_)
  refine and_congr_right fun _ => ⟨?_, ?_⟩
  · intro compatible t member other _ same
    exact (compatible t.route (target t)
      ((holds.stores _ _ _).mpr ⟨t, member, other, same, rfl, rfl⟩)).symm
  · intro apart q found kept
    obtain ⟨t, member, other, same, rfl, rfl⟩ := (holds.stores _ _ _).mp kept
    exact (apart t member other kind same).symm

theorem Holds.insert_async {table : RoutingTable} {subscriptions : List Subscription}
    (holds : Holds table subscriptions) {s : Subscription} (kind : s.kind = .async) :
    Holds (table.insert s) (subscriptions ++ [s]) where
  tight key := by
    rw [tree_insert_async table kind]
    exact holds.tight key
  stores := Stores.insert_async holds.stores kind

theorem Holds.insert_sync {table : RoutingTable} {subscriptions : List Subscription}
    (holds : Holds table subscriptions) {s : Subscription} (kind : s.kind = .sync)
    (taken : table.refuses s = false) : Holds (table.insert s) (subscriptions ++ [s]) where
  tight key := by
    rw [tree_insert_sync table kind]
    split
    · rename_i same
      subst same
      exact (holds.tight _).addPattern _ _ _
        ((RoutingTable.refuses_eq_false_iff table kind).mp taken)
    · exact holds.tight key
  stores := Stores.insert_sync holds.stores kind taken

theorem Holds.insert {table : RoutingTable} {subscriptions : List Subscription}
    (holds : Holds table subscriptions) {s : Subscription} (taken : table.refuses s = false) :
    Holds (table.insert s) (subscriptions ++ [s]) := by
  cases kind : s.kind with
  | async => exact holds.insert_async kind
  | sync => exact holds.insert_sync kind taken

theorem Holds.foldl {table : RoutingTable} {before : List Subscription}
    (holds : Holds table before) {rest : List Subscription} (joinable : Joinable (before ++ rest)) :
    leftOut table rest = [] ∧ Holds (rest.foldl RoutingTable.insert table) (before ++ rest) := by
  induction rest generalizing table before with
  | nil => exact ⟨rfl, by simpa using holds⟩
  | cons s rest ih =>
      have taken : table.refuses s = false := by
        cases kind : s.kind with
        | async => simp [refuses, kind]
        | sync =>
            refine (holds.refuses_eq_false_iff kind).mpr ⟨?_, ?_⟩
            · exact joinable.wildcardLast s (by simp) kind
            · intro t member
              exact (List.pairwise_append.mp joinable.apart).2.2 t member s (by simp)
      have next := ih (holds.insert taken) (by simpa using joinable)
      simpa [leftOut, taken] using next

/-- Subscriptions that can stand together are all in the table built from them. -/
theorem Joinable.build {subscriptions : List Subscription} (joinable : Joinable subscriptions) :
    skipped subscriptions = [] ∧ Holds (RoutingTable.build subscriptions) subscriptions :=
  holds_empty.foldl (show Joinable ([] ++ subscriptions) from joinable)

/-- A sync subscription answers a method on a path, and its route captures the parameters. -/
def Answers (s : Subscription) (space method path : String) (type : EventType)
    (params : Route.Params) : Prop :=
  s.kind = .sync ∧ syncKey s = ⟨space, Text.upper method, type⟩ ∧
    ∃ captured, captures s.route (segments path) = some captured ∧ params = Keyed.ofList captured

theorem syncTarget_eq_resolve (table : RoutingTable) (space method path : String)
    (type : EventType) : table.syncTarget space method path type =
      (table.tree ⟨space, Text.upper method, type⟩).resolve path := by
  unfold syncTarget tree
  cases Keyed.get? table.sync ⟨space, Text.upper method, type⟩ with
  | none => simp
  | some tree => rfl

/-- A table leads to the target of a subscription that answers. -/
theorem Holds.syncTarget_eq_some_iff {table : RoutingTable} {subscriptions : List Subscription}
    (holds : Holds table subscriptions) (space method path : String) (type : EventType)
    (found : SyncTarget) (params : Route.Params) :
    table.syncTarget space method path type = some (found, params) ↔
      ∃ s ∈ subscriptions, Answers s space method path type params ∧ target s = found := by
  rw [syncTarget_eq_resolve, Route.Tree.resolve_eq_some_iff]
  constructor
  · rintro ⟨route, captured, kept, matched, rfl⟩
    obtain ⟨s, member, kind, key, rfl, same⟩ := (holds.stores _ _ _).mp kept
    exact ⟨s, member, ⟨kind, key, captured, matched, rfl⟩, same⟩
  · rintro ⟨s, member, ⟨kind, key, captured, matched, rfl⟩, same⟩
    exact ⟨s.route, captured, (holds.stores _ _ _).mpr ⟨s, member, kind, key, rfl, same⟩, matched,
      rfl⟩

theorem Apart.not_answers {s t : Subscription} (apart : Apart s t) {space method path : String}
    {type : EventType} {params others : Route.Params}
    (answers : Answers s space method path type params) :
    ¬ Answers t space method path type others := by
  rintro ⟨kind, key, captured, matched, -⟩
  obtain ⟨first, firstKey, firstCaptured, firstMatched, -⟩ := answers
  have compatible := apart first kind (firstKey.trans key.symm)
  rw [compatible.captures_eq_none firstMatched] at matched
  cases matched

end RoutingTable
end EventRelay
