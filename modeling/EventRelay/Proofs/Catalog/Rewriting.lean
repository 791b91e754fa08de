import EventRelay.Proofs.Catalog.SeedSteps
import EventRelay.Proofs.Catalog.Unsubscribing

set_option autoImplicit false

/-!
Entries that are written again. What a catalog that comes about holds still passes every check, so
putting an entry in its own place changes nothing, and an entry that is taken out can be put back.
-/
namespace EventRelay.Catalog

variable {c : Catalog} {s : Subscription} {entry : FunctionEntry}

theorem Sound.get?_function (sound : c.Sound) {key : Scoped FunctionId}
    (stored : (key, entry) ∈ c.functions) :
    Keyed.get? c.functions ⟨entry.space, entry.id⟩ = some entry := by
  have named := (sound.function key entry stored).1
  exact named ▸ sound.functions.get?_of_mem stored

theorem Sound.get?_subscription (sound : c.Sound) {key : Scoped SubscriptionId}
    (stored : (key, s) ∈ c.subscriptions) :
    Keyed.get? c.subscriptions ⟨s.space, s.id⟩ = some s := by
  have named := (sound.subscription key s stored).key_eq
  exact named ▸ sound.subscriptions.get?_of_mem stored

theorem Sound.updateFunction_self (sound : c.Sound) {key : Scoped FunctionId}
    (stored : (key, entry) ∈ c.functions) :
    c.updateFunction entry.space entry.id entry.provider = .ok (entry, c) := by
  have found := sound.get?_function stored
  have wellFormed := (sound.function key entry stored).2
  have same : c.putFunction entry = c := by
    rw [Catalog.putFunction, sound.functions.insert_of_get? found]
  exact (updateFunction_eq_ok_iff ..).mpr ⟨wellFormed, ⟨entry, found⟩, rfl, same⟩

theorem Sound.updateSubscription_self (sound : c.Sound) {key : Scoped SubscriptionId}
    (stored : (key, s) ∈ c.subscriptions) :
    c.updateSubscription s.space s.id s = .ok (s, c) := by
  have supports := sound.subscription key s stored
  have found := sound.get?_subscription stored
  have unchanged : changedField? s s = none :=
    (Subscription.changedField?_eq_none_iff s s).mpr ⟨rfl, rfl, rfl, rfl, fun _ => rfl⟩
  refine (updateSubscription_eq_ok_iff ..).mpr ⟨s, s, supports.normal.normalized, found, unchanged,
    supports.function, rfl, ?_⟩
  rw [sound.subscriptions.insert_of_get? found]

theorem Reachable.pathConflict?_without (reachable : c.Reachable) (stored : s ∈ c.allSubscriptions)
    (sync : s.kind = .sync) {without : Catalog} (absent : Without without c s) :
    Subscription.pathConflict? without.allSubscriptions s = none := by
  have routes := reachable.routesJoin
  obtain ⟨key, listed, -⟩ := reachable.supports stored
  rw [absent.reachable.pathConflict?_eq_none_iff]
  refine ⟨routes.wildcardLast key s listed sync, fun t member shares => ?_⟩
  obtain ⟨kept, unlike⟩ := (absent.mem_iff t).mp member
  obtain ⟨other, there, -⟩ := reachable.supports kept
  have apart : other ≠ key := by
    rintro rfl
    have found := reachable.sound.subscriptions.get?_of_mem there
    rw [reachable.sound.subscriptions.get?_of_mem listed] at found
    exact unlike (Option.some.inj found).symm
  obtain ⟨kind, space, method, type⟩ := (Subscription.sharesRoutes_iff t s).mp shares
  have tree : RoutingTable.syncKey t = RoutingTable.syncKey s := by
    rw [RoutingTable.syncKey, RoutingTable.syncKey, space, method, type]
  exact routes.apart other t there key s listed apart kind sync tree

/-- A subscription that is deleted can be created again, and the catalog is what it was. -/
theorem Reachable.createSubscription_without (reachable : c.Reachable)
    (stored : s ∈ c.allSubscriptions) :
    ∃ without, c.deleteSubscription s.space s.id = .ok ((), without) ∧
      without.createSubscription s = .ok (s, c) := by
  have sound := reachable.sound
  obtain ⟨key, listed, supports⟩ := reachable.supports stored
  have found := sound.get?_subscription listed
  obtain ⟨without, deleted, absent⟩ := reachable.exists_without stored
  have free := fun sync => reachable.pathConflict?_without stored sync absent
  obtain ⟨-, rfl⟩ := (deleteSubscription_eq_ok_iff ..).mp deleted
  refine ⟨_, deleted, (createSubscription_eq_ok_iff ..).mpr ?_⟩
  refine ⟨reachable.isSpaceName_of_stored stored, supports.normal.normalized, ?_, free,
    supports.type, supports.function, ?_⟩
  · rw [Keyed.get?_erase, if_pos rfl]
  · rw [sound.subscriptions.insert_erase found]

end EventRelay.Catalog
