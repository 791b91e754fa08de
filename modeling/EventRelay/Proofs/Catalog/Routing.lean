import EventRelay.Proofs.Catalog.Integrity
import EventRelay.Proofs.RoutingTable.Conflicts
import EventRelay.Proofs.RoutingTable.Subscribers

set_option autoImplicit false

/-!
The routing tables of catalogs that come about. A sync subscription joins only when its route can
stand beside those of its tree, and no change makes routes collide; so a table built from the
subscriptions in any order has them all.
-/
namespace EventRelay

open Route (WildcardLast Compatible)
open RoutingTable (Apart Joinable Answers)

namespace Subscription

theorem sharesRoutes_iff (s t : Subscription) :
    s.sharesRoutes t = true ↔
      s.kind = .sync ∧ s.space = t.space ∧ s.method = t.method ∧ s.eventType = t.eventType := by
  simp [sharesRoutes, and_assoc]

theorem Normal.method_eq {s t : Subscription} (normal : s.Normal) (other : t.Normal)
    (same : RoutingTable.syncKey s = RoutingTable.syncKey t) : s.method = t.method := by
  obtain ⟨method, -, named⟩ := normal.method
  obtain ⟨otherMethod, -, otherNamed⟩ := other.method
  have equal := congrArg RoutingTable.SyncKey.method same
  simp only [RoutingTable.syncKey, named, otherNamed, Option.getD_some] at equal
  rw [named, otherNamed, equal]

theorem Normal.sharesRoutes {s t : Subscription} (normal : s.Normal) (other : t.Normal)
    (kind : s.kind = .sync) (same : RoutingTable.syncKey s = RoutingTable.syncKey t) :
    s.sharesRoutes t = true :=
  (sharesRoutes_iff s t).mpr ⟨kind, congrArg RoutingTable.SyncKey.space same,
    normal.method_eq other same, congrArg RoutingTable.SyncKey.eventType same⟩

theorem apart_of_pathConflict? {existing : List Subscription} {s t : Subscription}
    (free : s.kind = .sync → pathConflict? existing s = none) (member : t ∈ existing)
    (normal : s.Normal) (other : t.Normal) : Apart t s := by
  intro otherKind kind same
  obtain ⟨-, -, -, compatible⟩ := (pathConflict?_eq_none_iff existing s).mp (free kind)
  exact compatible t member (other.sharesRoutes normal otherKind same)

end Subscription

namespace Catalog

/-- The routes of the sync subscriptions can stand together. -/
structure RoutesJoin (c : Catalog) : Prop where
  wildcardLast : ∀ key s, (key, s) ∈ c.subscriptions → s.kind = .sync → WildcardLast s.route
  apart : ∀ first s, (first, s) ∈ c.subscriptions → ∀ second t, (second, t) ∈ c.subscriptions →
    first ≠ second → Apart s t

theorem routesJoin_empty : RoutesJoin .empty where
  wildcardLast key s member := by cases member
  apart first s member := by cases member

/-- In whatever order the subscriptions are listed, they can all stand in one table. -/
theorem RoutesJoin.joinable {c : Catalog} (routes : c.RoutesJoin)
    (ascending : Keyed.Ascending c.subscriptions) {order : List Subscription}
    (same : order.Perm c.allSubscriptions) : Joinable order := by
  refine Joinable.perm ⟨?_, ?_⟩ same
  · intro s member
    obtain ⟨⟨key, t⟩, listed, rfl⟩ := List.mem_map.mp member
    exact routes.wildcardLast key t listed
  · refine List.pairwise_map.mpr (ascending.imp_of_mem ?_)
    intro first second member other less
    refine routes.apart first.1 first.2 member second.1 second.2 other ?_
    intro equal
    rw [equal, Std.compare_self] at less
    cases less

section Changes
variable {c : Catalog}

theorem RoutesJoin.putSubscription (routes : c.RoutesJoin)
    (ascending : Keyed.Ascending c.subscriptions) {key : Scoped SubscriptionId} {s : Subscription}
    (last : s.kind = .sync → WildcardLast s.route)
    (apart : ∀ other t, other ≠ key → (other, t) ∈ c.subscriptions → Apart t s) :
    RoutesJoin { c with subscriptions := Keyed.insert c.subscriptions key s } where
  wildcardLast other t member := by
    rcases ascending.mem_insert_iff.mp member with ⟨rfl, rfl⟩ | ⟨-, kept⟩
    · exact last
    · exact routes.wildcardLast other t kept
  apart first t member second u other distinct := by
    rcases ascending.mem_insert_iff.mp member with ⟨rfl, rfl⟩ | ⟨firstOther, firstKept⟩
    · rcases ascending.mem_insert_iff.mp other with ⟨rfl, rfl⟩ | ⟨secondOther, secondKept⟩
      · exact absurd rfl distinct
      · exact (apart second u secondOther secondKept).symm
    · rcases ascending.mem_insert_iff.mp other with ⟨rfl, rfl⟩ | ⟨secondOther, secondKept⟩
      · exact apart first t firstOther firstKept
      · exact routes.apart first t firstKept second u secondKept distinct

theorem RoutesJoin.removeSubscription (routes : c.RoutesJoin) (key : Scoped SubscriptionId) :
    RoutesJoin { c with subscriptions := Keyed.erase c.subscriptions key } where
  wildcardLast other t member := routes.wildcardLast other t (Keyed.mem_erase_iff.mp member).2
  apart first t member second u other :=
    routes.apart first t (Keyed.mem_erase_iff.mp member).2 second u (Keyed.mem_erase_iff.mp other).2

/-- An update changes neither the route of a subscription nor the tree it is in. -/
theorem apart_of_unchanged {old new t : Subscription} (space : new.space = old.space)
    (unchanged : changedField? old new = none) (apart : Apart t old) : Apart t new := by
  obtain ⟨kind, type, path, method, -⟩ :=
    (Subscription.changedField?_eq_none_iff old new).mp unchanged
  have key : RoutingTable.syncKey new = RoutingTable.syncKey old := by
    rw [RoutingTable.syncKey, RoutingTable.syncKey, space, method, type]
  have route : new.route = old.route := by
    rw [Subscription.route, Subscription.route, path]
  intro otherKind newKind same
  rw [route]
  exact apart otherKind (kind ▸ newKind) (same.trans key)

end Changes

theorem routesJoin_kept : Kept fun c => c.Sound ∧ c.RoutesJoin := by
  rintro c after ⟨sound, routes⟩ change
  refine ⟨sound_kept c after sound change, ?_⟩
  cases change with
  | addEventType => exact ⟨routes.wildcardLast, routes.apart⟩
  | removeEventType => exact ⟨routes.wildcardLast, routes.apart⟩
  | putFunction => exact ⟨routes.wildcardLast, routes.apart⟩
  | removeFunction => exact ⟨routes.wildcardLast, routes.apart⟩
  | addSubscription s space normal absent free type function =>
      refine routes.putSubscription sound.subscriptions ?_ ?_
      · intro kind
        exact ((Subscription.pathConflict?_eq_none_iff _ s).mp (free kind)).2.2.1
      · intro other t _ kept
        have supports := sound.subscription other t kept
        exact Subscription.apart_of_pathConflict? free (mem_allSubscriptions kept) normal
          supports.normal
  | replaceSubscription id old new found normal unchanged function =>
      -- the new subscription has the route of the old one and takes its place
      obtain ⟨name, same⟩ := sound.update_keeps_id found normal unchanged
      have listed := Keyed.mem_of_get? found
      have supports := sound.subscription _ old listed
      obtain ⟨kind, -, path, -⟩ := (Subscription.changedField?_eq_none_iff old new).mp unchanged
      rw [same, name]
      refine routes.putSubscription sound.subscriptions ?_ ?_
      · intro sync
        rw [Subscription.route, path]
        exact routes.wildcardLast _ old listed (kind ▸ sync)
      · intro other t distinct kept
        exact apart_of_unchanged (congrArg Scoped.space supports.key) unchanged
          (routes.apart other t kept _ old listed distinct)
  | removeSubscription => exact routes.removeSubscription _

/-- The routes of every catalog that comes about can stand together. -/
theorem Reachable.routesJoin {c : Catalog} (reachable : Reachable c) : c.RoutesJoin :=
  (reachable.holds routesJoin_kept ⟨sound_empty, routesJoin_empty⟩).2

section Tables
variable {c : Catalog} {order : List Subscription}

/-- The subscribers are read off the subscriptions, whatever the order. -/
theorem mem_subscribers_iff (same : order.Perm c.allSubscriptions) (space path : String)
    (type : EventType) (id : FunctionId) :
    id ∈ (RoutingTable.build order).subscribers space path type ↔ ∃ s ∈ c.allSubscriptions,
      s.kind = .async ∧ s.space = space ∧ s.path = path ∧ s.eventType = type ∧
        s.functionId = id := by
  rw [RoutingTable.mem_subscribers_build]
  simp only [RoutingTable.asyncKey, RoutingTable.AsyncKey.mk.injEq, same.mem_iff, and_assoc]

theorem Reachable.holds_build (reachable : Reachable c) (same : order.Perm c.allSubscriptions) :
    RoutingTable.skipped order = [] ∧
      RoutingTable.Holds (RoutingTable.build order) order :=
  (reachable.routesJoin.joinable reachable.sound.subscriptions same).build

/-- A request leads to the target of a subscription that answers, whatever the order. -/
theorem Reachable.syncTarget_eq_some_iff (reachable : Reachable c)
    (same : order.Perm c.allSubscriptions) (space method path : String) (type : EventType)
    (found : SyncTarget) (params : Route.Params) :
    (RoutingTable.build order).syncTarget space method path type = some (found, params) ↔
      ∃ s ∈ c.allSubscriptions, Answers s space method path type params ∧
        found = ⟨s.functionId, s.cors⟩ := by
  rw [(reachable.holds_build same).2.syncTarget_eq_some_iff]
  simp only [same.mem_iff, RoutingTable.target, eq_comm]

theorem Reachable.eq_of_answers (reachable : Reachable c) {first second : Scoped SubscriptionId}
    {s t : Subscription} {space method path : String} {type : EventType}
    {params others : Route.Params} (member : (first, s) ∈ c.subscriptions)
    (answers : Answers s space method path type params) (other : (second, t) ∈ c.subscriptions)
    (otherAnswers : Answers t space method path type others) :
    first = second ∧ s = t ∧ params = others := by
  have name : first = second := by
    apply Decidable.byContradiction
    intro distinct
    have apart := reachable.routesJoin.apart first s member second t other distinct
    exact apart.not_answers answers otherAnswers
  subst name
  have ascending := reachable.sound.subscriptions
  have same : s = t := by
    have found := ascending.get?_of_mem member
    rw [ascending.get?_of_mem other] at found
    exact (Option.some.inj found).symm
  subst same
  obtain ⟨-, -, captured, matched, rfl⟩ := answers
  obtain ⟨-, -, otherCaptured, otherMatched, rfl⟩ := otherAnswers
  rw [matched] at otherMatched
  cases otherMatched
  exact ⟨rfl, rfl, rfl⟩

end Tables

/-- The routing table of a catalog that comes about mirrors its subscriptions, whatever the order in
which it is compiled and conflicts are looked for. -/
theorem routes_mirror_subscriptions {c : Catalog} (reachable : Reachable c)
    {order : List Subscription} (same : order.Perm c.allSubscriptions) :
    RoutingTable.skipped order = [] ∧
    (∀ candidate, Subscription.pathConflict? order candidate = none ↔
      Subscription.pathConflict? c.allSubscriptions candidate = none) ∧
    (∀ space path type,
      RoutingTable.Ascending ((RoutingTable.build order).subscribers space path type) ∧
      ∀ id, id ∈ (RoutingTable.build order).subscribers space path type ↔
        ∃ s ∈ c.allSubscriptions, s.kind = .async ∧ s.space = space ∧ s.path = path ∧
          s.eventType = type ∧ s.functionId = id) ∧
    (∀ space method path type found params,
      (RoutingTable.build order).syncTarget space method path type = some (found, params) ↔
        ∃ s ∈ c.allSubscriptions, Answers s space method path type params ∧
          found = ⟨s.functionId, s.cors⟩) ∧
    (∀ space method path type, ∀ first s params, (first, s) ∈ c.subscriptions →
      Answers s space method path type params → ∀ second t others,
      (second, t) ∈ c.subscriptions → Answers t space method path type others →
        first = second ∧ s = t ∧ params = others) := by
  refine ⟨(reachable.holds_build same).1, ?_, ?_, ?_, ?_⟩
  · intro candidate
    exact Subscription.pathConflict?_perm same candidate
  · intro space path type
    exact ⟨RoutingTable.ascending_subscribers_build order space path type,
      mem_subscribers_iff same space path type⟩
  · intro space method path type found params
    exact reachable.syncTarget_eq_some_iff same space method path type found params
  · intro space method path type first s params member answers second t others other otherAnswers
    exact reachable.eq_of_answers member answers other otherAnswers

def exampleAsync : Subscription :=
  { Subscription.ofAsync "default" "user.created" "crm" with method := some "POST" }.identified

def exampleSync : Subscription :=
  (Subscription.ofSync "default" "http.request" "crm" "GET" "/users/:id").identified

/-- A catalog with a function, an event type, and a subscription of either kind. -/
def exampleCatalog : Catalog where
  eventTypes := [(⟨"default", ⟨"user.created"⟩⟩, ⟨"default", ⟨"user.created"⟩⟩)]
  functions := [(⟨"default", ⟨"crm"⟩⟩, ⟨"default", ⟨"crm"⟩, .weighted [⟨⟨"crm-v2"⟩, 1⟩]⟩)]
  subscriptions := [(⟨"default", exampleAsync.computeId⟩, exampleAsync),
    (⟨"default", exampleSync.computeId⟩, exampleSync)]

theorem reachable_exampleCatalog : Reachable exampleCatalog := by
  have run := reachable_foldl .empty
    [.registerFunction ⟨"default", ⟨"crm"⟩, .weighted [⟨⟨"crm-v2"⟩, 1⟩]⟩,
      .createEventType ⟨"default", ⟨"user.created"⟩⟩,
      .createSubscription (.ofSync "default" "http.request" "crm" "get" "users/:id"),
      .createSubscription (.ofAsync "default" "user.created" "crm")]
  have same : List.foldl apply .empty
    [.registerFunction ⟨"default", ⟨"crm"⟩, .weighted [⟨⟨"crm-v2"⟩, 1⟩]⟩,
      .createEventType ⟨"default", ⟨"user.created"⟩⟩,
      .createSubscription (.ofSync "default" "http.request" "crm" "get" "users/:id"),
      .createSubscription (.ofAsync "default" "user.created" "crm")] = exampleCatalog := by
    decide +kernel
  rwa [same] at run

theorem exampleCatalog_routes_mirror :
    RoutingTable.skipped exampleCatalog.allSubscriptions.reverse = [] ∧
    ⟨"crm"⟩ ∈ (RoutingTable.build exampleCatalog.allSubscriptions.reverse).subscribers "default" "/"
      ⟨"user.created"⟩ ∧
    (RoutingTable.build exampleCatalog.allSubscriptions.reverse).syncTarget "default" "gEt"
      "/users/42" .httpRequest = some (⟨⟨"crm"⟩, none⟩, [("id", "42")]) := by
  obtain ⟨complete, -, listed, led, -⟩ := routes_mirror_subscriptions reachable_exampleCatalog
    (List.reverse_perm exampleCatalog.allSubscriptions)
  refine ⟨complete, ?_, ?_⟩
  · apply ((listed "default" "/" ⟨"user.created"⟩).2 ⟨"crm"⟩).mpr
    exact ⟨exampleAsync, by simp [exampleCatalog, allSubscriptions], rfl, rfl, rfl, rfl, rfl⟩
  · apply (led "default" "gEt" "/users/42" .httpRequest ⟨⟨"crm"⟩, none⟩ [("id", "42")]).mpr
    refine ⟨exampleSync, by simp [exampleCatalog, allSubscriptions], ?_, rfl⟩
    exact ⟨rfl, by decide +kernel, [("id", "42")], by decide +kernel, by decide +kernel⟩

/-- References lead somewhere: those of subscriptions, and those that routes give out. -/
theorem references_lead_somewhere {c : Catalog} (reachable : Reachable c) :
    (∀ key s, (key, s) ∈ c.subscriptions →
      key = ⟨s.space, s.computeId⟩ ∧ s.normalized = .ok s ∧
      (∃ entry, c.getFunction s.space s.functionId = .ok entry) ∧
      (s.eventType = .httpRequest ∨ s.eventType.isSystem = true ∨
        ∃ entry, c.getEventType s.space s.eventType = .ok entry)) ∧
    (∀ key entry, (key, entry) ∈ c.functions →
      key = ⟨entry.space, entry.id⟩ ∧ isSpaceName entry.space = true ∧
        entry.id.isValid = true ∧ entry.provider.validate = .ok ()) ∧
    (∀ order, order.Perm c.allSubscriptions →
      (∀ space path type, ∀ id ∈ (RoutingTable.build order).subscribers space path type,
        ∃ entry, c.getFunction space id = .ok entry) ∧
      (∀ space method path type found params,
        (RoutingTable.build order).syncTarget space method path type = some (found, params) →
          ∃ entry, c.getFunction space found.functionId = .ok entry)) := by
  have sound := reachable.sound
  have known :
      ∀ s ∈ c.allSubscriptions, ∃ entry, c.getFunction s.space s.functionId = .ok entry := by
    intro s member
    obtain ⟨⟨key, t⟩, listed, rfl⟩ := List.mem_map.mp member
    obtain ⟨entry, found⟩ := (sound.subscription key t listed).function
    exact ⟨entry, (getFunction_eq_ok_iff ..).mpr found⟩
  refine ⟨?_, ?_, ?_⟩
  · intro key s member
    have supports := sound.subscription key s member
    refine ⟨supports.key, supports.normal.normalized, known s (mem_allSubscriptions member), ?_⟩
    rcases supports.type with builtIn | ⟨entry, found⟩
    · rcases Bool.or_eq_true_iff.mp builtIn with plain | system
      · exact Or.inl (beq_iff_eq.mp plain)
      · exact Or.inr (Or.inl system)
    · exact Or.inr (Or.inr ⟨entry, (getEventType_eq_ok_iff ..).mpr found⟩)
  · intro key entry member
    exact sound.function key entry member
  · intro order same
    refine ⟨?_, ?_⟩
    · intro space path type id member
      obtain ⟨s, listed, -, rfl, -, -, rfl⟩ :=
        (mem_subscribers_iff same space path type id).mp member
      exact known s listed
    · intro space method path type found params led
      obtain ⟨s, listed, ⟨-, key, -⟩, rfl⟩ :=
        (reachable.syncTarget_eq_some_iff same space method path type found params).mp led
      have here : s.space = space := congrArg RoutingTable.SyncKey.space key
      rw [← here]
      exact known s listed

theorem exampleCatalog_references_lead_somewhere :
    (∃ entry, exampleCatalog.getEventType "default" ⟨"user.created"⟩ = .ok entry) ∧
    exampleCatalog.routes.subscribers "default" "/" ⟨"user.created"⟩ = [⟨"crm"⟩] ∧
    ∃ entry, exampleCatalog.getFunction "default" ⟨"crm"⟩ = .ok entry := by
  obtain ⟨stored, -, led⟩ := references_lead_somewhere reachable_exampleCatalog
  have async := stored ⟨"default", exampleAsync.computeId⟩ exampleAsync (by simp [exampleCatalog])
  have subscribed : exampleCatalog.routes.subscribers "default" "/" ⟨"user.created"⟩ =
      [⟨"crm"⟩] := by
    decide +kernel
  refine ⟨?_, subscribed, ?_⟩
  · rcases async.2.2.2 with plain | system | registered
    · exact absurd plain (by decide +kernel)
    · exact absurd system (by decide +kernel)
    · exact registered
  · obtain ⟨subscribers, -⟩ := led exampleCatalog.allSubscriptions (List.Perm.refl _)
    apply subscribers "default" "/" ⟨"user.created"⟩ ⟨"crm"⟩
    rw [← routes, subscribed]
    exact List.mem_singleton.mpr rfl

end Catalog
end EventRelay
