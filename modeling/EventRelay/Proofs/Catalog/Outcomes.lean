import EventRelay.Catalog.Seed
import EventRelay.Proofs.Except
import EventRelay.Proofs.Keyed
import EventRelay.Proofs.NameOrder

set_option autoImplicit false

/-!
When each operation of the catalog succeeds, and what it then gives.
-/
namespace EventRelay

theorem validateSpace_eq_ok_iff (space : String) (u : Unit) :
    validateSpace space = .ok u ↔ isSpaceName space = true := by
  unfold validateSpace
  split <;> simp_all

/-- A function with a valid space, a valid name and a valid provider. -/
def FunctionEntry.WellFormed (entry : FunctionEntry) : Prop :=
  isSpaceName entry.space = true ∧ entry.id.isValid = true ∧ entry.provider.validate = .ok ()

namespace Catalog

variable (c after : Catalog)

/-- The event type of a subscription is built in or registered in its space. -/
def KnowsType (s : Subscription) : Prop :=
  s.eventType.isBuiltIn = true ∨
    ∃ entry, Keyed.get? c.eventTypes ⟨s.space, s.eventType⟩ = some entry

/-- The function of a subscription is registered in its space. -/
def KnowsFunction (s : Subscription) : Prop :=
  ∃ entry, Keyed.get? c.functions ⟨s.space, s.functionId⟩ = some entry

theorem getEventType_eq_ok_iff (space : String) (type : EventType) (entry : EventTypeEntry) :
    c.getEventType space type = .ok entry ↔ Keyed.get? c.eventTypes ⟨space, type⟩ = some entry := by
  unfold getEventType
  cases Keyed.get? c.eventTypes ⟨space, type⟩ <;> simp

theorem getFunction_eq_ok_iff (space : String) (id : FunctionId) (entry : FunctionEntry) :
    c.getFunction space id = .ok entry ↔ Keyed.get? c.functions ⟨space, id⟩ = some entry := by
  unfold getFunction
  cases Keyed.get? c.functions ⟨space, id⟩ <;> simp

theorem getSubscription_eq_ok_iff (space : String) (id : SubscriptionId) (s : Subscription) :
    c.getSubscription space id = .ok s ↔ Keyed.get? c.subscriptions ⟨space, id⟩ = some s := by
  unfold getSubscription
  cases Keyed.get? c.subscriptions ⟨space, id⟩ <;> simp

theorem createEventType_eq_ok_iff (entry result : EventTypeEntry) :
    c.createEventType entry = .ok (result, after) ↔
      isSpaceName entry.space = true ∧ entry.type.name.isEmpty = false ∧
        entry.type.isSystem = false ∧
        Keyed.get? c.eventTypes ⟨entry.space, entry.type⟩ = none ∧ entry = result ∧
        { c with eventTypes := Keyed.insert c.eventTypes ⟨entry.space, entry.type⟩ entry } =
          after := by
  unfold createEventType
  simp only [bind_eq_ok_iff, bind, validateSpace_eq_ok_iff, check_eq_ok_iff, pure_eq_ok_iff,
    exists_const, Bool.not_eq_true, Keyed.contains_eq_false_iff, Prod.mk.injEq]

theorem deleteEventType_eq_ok_iff (space : String) (type : EventType) (u : Unit) :
    c.deleteEventType space type = .ok (u, after) ↔
      (∃ entry, Keyed.get? c.eventTypes ⟨space, type⟩ = some entry) ∧
        (∀ s ∈ c.allSubscriptions, ¬ (s.space = space ∧ s.eventType = type)) ∧
        { c with eventTypes := Keyed.erase c.eventTypes ⟨space, type⟩ } = after := by
  unfold deleteEventType
  simp only [bind_eq_ok_iff, bind, getEventType_eq_ok_iff, check_eq_ok_iff, pure_eq_ok_iff,
    exists_and_right, List.any_eq_true, Bool.and_eq_true, beq_iff_eq, not_exists, not_and,
    Prod.mk.injEq]
  simp

theorem validateFunction_eq_ok_iff (entry : FunctionEntry) (u : Unit) :
    validateFunction entry = .ok u ↔ entry.WellFormed := by
  unfold validateFunction
  simp only [bind_eq_ok_iff, bind, validateSpace_eq_ok_iff, check_eq_ok_iff, exists_const,
    Decidable.not_not, FunctionEntry.WellFormed]
  cases entry.provider.validate <;> simp [throw, throwThe, MonadExceptOf.throw, pure, Except.pure]

theorem registerFunction_eq_ok_iff (entry result : FunctionEntry) :
    c.registerFunction entry = .ok (result, after) ↔
      entry.WellFormed ∧ Keyed.get? c.functions ⟨entry.space, entry.id⟩ = none ∧
        entry = result ∧ c.putFunction entry = after := by
  unfold registerFunction
  simp only [bind_eq_ok_iff, bind, validateFunction_eq_ok_iff, check_eq_ok_iff, pure_eq_ok_iff,
    exists_const, Bool.not_eq_true, Keyed.contains_eq_false_iff, Prod.mk.injEq]

theorem updateFunction_eq_ok_iff (space : String) (id : FunctionId) (provider : Provider)
    (result : FunctionEntry) :
    c.updateFunction space id provider = .ok (result, after) ↔
      FunctionEntry.WellFormed ⟨space, id, provider⟩ ∧
        (∃ old, Keyed.get? c.functions ⟨space, id⟩ = some old) ∧
        ⟨space, id, provider⟩ = result ∧ c.putFunction ⟨space, id, provider⟩ = after := by
  unfold updateFunction
  simp only [bind_eq_ok_iff, bind, validateFunction_eq_ok_iff, check_eq_ok_iff, pure_eq_ok_iff,
    exists_const, Decidable.not_not, Prod.mk.injEq]
  rw [Keyed.contains_eq_true_iff]

theorem deleteFunction_eq_ok_iff (space : String) (id : FunctionId) (u : Unit) :
    c.deleteFunction space id = .ok (u, after) ↔
      (∃ entry, Keyed.get? c.functions ⟨space, id⟩ = some entry) ∧
        (∀ s ∈ c.allSubscriptions, ¬ (s.space = space ∧ s.functionId = id)) ∧
        { c with functions := Keyed.erase c.functions ⟨space, id⟩ } = after := by
  unfold deleteFunction
  simp only [bind_eq_ok_iff, bind, getFunction_eq_ok_iff, check_eq_ok_iff, pure_eq_ok_iff,
    exists_and_right, List.any_eq_true, Bool.and_eq_true, beq_iff_eq, not_exists, not_and,
    Prod.mk.injEq]
  simp

theorem normalizeSubscription_eq_ok_iff (s t : Subscription) :
    normalizeSubscription s = .ok t ↔ s.normalized = .ok t := by
  unfold normalizeSubscription
  cases s.normalized <;> simp

theorem checkPath_eq_ok_iff (s : Subscription) (u : Unit) :
    c.checkPath s = .ok u ↔
      (s.kind = .sync → Subscription.pathConflict? c.allSubscriptions s = none) := by
  unfold checkPath
  cases s.kind with
  | async => simp
  | sync => cases Subscription.pathConflict? c.allSubscriptions s <;> simp

theorem checkEventType_eq_ok_iff (s : Subscription) (u : Unit) :
    c.checkEventType s = .ok u ↔ c.KnowsType s := by
  unfold checkEventType KnowsType
  cases s.eventType.isBuiltIn with
  | true => simp
  | false =>
      unfold getEventType
      cases Keyed.get? c.eventTypes ⟨s.space, s.eventType⟩ <;> simp [Except.map]

theorem createSubscription_eq_ok_iff (s result : Subscription) :
    c.createSubscription s = .ok (result, after) ↔
      isSpaceName s.space = true ∧ s.normalized = .ok result ∧
        Keyed.get? c.subscriptions ⟨result.space, result.id⟩ = none ∧
        (result.kind = .sync → Subscription.pathConflict? c.allSubscriptions result = none) ∧
        c.KnowsType result ∧ c.KnowsFunction result ∧
        { c with
          subscriptions := Keyed.insert c.subscriptions ⟨result.space, result.id⟩ result } =
            after := by
  unfold createSubscription
  simp only [bind_eq_ok_iff, bind, validateSpace_eq_ok_iff, normalizeSubscription_eq_ok_iff,
    checkPath_eq_ok_iff, checkEventType_eq_ok_iff, getFunction_eq_ok_iff, check_eq_ok_iff,
    pure_eq_ok_iff, exists_const, Bool.not_eq_true, Keyed.contains_eq_false_iff, Prod.mk.injEq,
    exists_and_right, KnowsFunction]
  constructor
  · rintro ⟨space, _, normalized, absent, path, type, function, rfl, same⟩
    exact ⟨space, normalized, absent, path, type, function, same⟩
  · rintro ⟨space, normalized, absent, path, type, function, same⟩
    exact ⟨space, _, normalized, absent, path, type, function, rfl, same⟩

theorem updateSubscription_eq_ok_iff (space : String) (id : SubscriptionId)
    (s result : Subscription) :
    c.updateSubscription space id s = .ok (result, after) ↔
      ∃ new old, ({ s with space } : Subscription).normalized = .ok new ∧
        Keyed.get? c.subscriptions ⟨space, id⟩ = some old ∧ changedField? old new = none ∧
        (∃ entry, Keyed.get? c.functions ⟨space, new.functionId⟩ = some entry) ∧
        { new with id := old.id } = result ∧
        { c with
          subscriptions := Keyed.insert c.subscriptions ⟨space, old.id⟩ result } = after := by
  unfold updateSubscription
  simp only [bind_eq_ok_iff, bind, normalizeSubscription_eq_ok_iff, getSubscription_eq_ok_iff]
  refine exists_congr fun new => ?_
  constructor
  · rintro ⟨normalized, old, found, outcome⟩
    cases changed : changedField? old new with
    | some field => simp [changed, throw, throwThe, MonadExceptOf.throw] at outcome
    | none =>
        simp only [changed, bind_eq_ok_iff, getFunction_eq_ok_iff, pure_eq_ok_iff,
          Prod.mk.injEq, exists_and_right] at outcome
        obtain ⟨known, rfl, same⟩ := outcome
        exact ⟨old, normalized, found, changed, known, rfl, same⟩
  · rintro ⟨old, normalized, found, unchanged, known, rfl, same⟩
    refine ⟨normalized, old, found, ?_⟩
    simp only [unchanged, bind_eq_ok_iff, getFunction_eq_ok_iff, pure_eq_ok_iff, Prod.mk.injEq,
      exists_and_right]
    exact ⟨known, trivial, same⟩

theorem deleteSubscription_eq_ok_iff (space : String) (id : SubscriptionId) (u : Unit) :
    c.deleteSubscription space id = .ok (u, after) ↔
      (∃ s, Keyed.get? c.subscriptions ⟨space, id⟩ = some s) ∧
        { c with subscriptions := Keyed.erase c.subscriptions ⟨space, id⟩ } = after := by
  unfold deleteSubscription
  simp only [bind_eq_ok_iff, bind, getSubscription_eq_ok_iff, pure_eq_ok_iff, exists_and_right,
    Prod.mk.injEq]
  simp

end Catalog
end EventRelay
