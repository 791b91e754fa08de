import EventRelay.Proofs.Catalog.Reachable

set_option autoImplicit false

/-!
What holds of every catalog that comes about: entries stand under their own names, functions are
well formed, and subscriptions are in normal form and refer to nothing that is missing.
-/
namespace EventRelay

namespace Subscription

/-- Nothing but the function of a sync subscription and the CORS settings may change. -/
theorem changedField?_eq_none_iff (old new : Subscription) :
    Catalog.changedField? old new = none ↔
      new.kind = old.kind ∧ new.eventType = old.eventType ∧ new.path = old.path ∧
        new.method = old.method ∧ (old.kind = .async → new.functionId = old.functionId) := by
  unfold Catalog.changedField?
  by_cases kind : new.kind = old.kind <;> by_cases type : new.eventType = old.eventType <;>
    by_cases path : new.path = old.path <;> by_cases method : new.method = old.method <;>
      simp [kind, type, path, method]

theorem computeId_eq_of_unchanged {old new : Subscription}
    (unchanged : Catalog.changedField? old new = none) : new.computeId = old.computeId := by
  obtain ⟨kind, type, path, method, function⟩ := (changedField?_eq_none_iff old new).mp unchanged
  have fields : new.routingFields = old.routingFields := by
    unfold routingFields
    rw [kind, type, path, method]
    cases async : old.kind with
    | async => simp [function async]
    | sync => rfl
  rw [computeId, computeId, fields]

end Subscription

namespace Catalog

/-- A subscription that stands under its own name and refers to nothing that is missing. -/
structure Supports (c : Catalog) (key : Scoped SubscriptionId) (s : Subscription) : Prop where
  key : key = ⟨s.space, s.computeId⟩
  normal : s.Normal
  type : c.KnowsType s
  function : c.KnowsFunction s

/-- Entries are in order and under their own names, and references lead somewhere. -/
structure Sound (c : Catalog) : Prop where
  eventTypes : Keyed.Ascending c.eventTypes
  functions : Keyed.Ascending c.functions
  subscriptions : Keyed.Ascending c.subscriptions
  eventType : ∀ key entry, (key, entry) ∈ c.eventTypes → key = ⟨entry.space, entry.type⟩
  function : ∀ key entry, (key, entry) ∈ c.functions →
    key = ⟨entry.space, entry.id⟩ ∧ entry.WellFormed
  subscription : ∀ key s, (key, s) ∈ c.subscriptions → c.Supports key s

theorem sound_empty : Sound .empty where
  eventTypes := Keyed.ascending_nil
  functions := Keyed.ascending_nil
  subscriptions := Keyed.ascending_nil
  eventType key entry member := by cases member
  function key entry member := by cases member
  subscription key s member := by cases member

section Knowing
variable {c : Catalog} {s : Subscription}

theorem mem_allSubscriptions {key : Scoped SubscriptionId} (member : (key, s) ∈ c.subscriptions) :
    s ∈ c.allSubscriptions :=
  List.mem_map.mpr ⟨(key, s), member, rfl⟩

theorem KnowsType.insert (known : c.KnowsType s) (key : Scoped EventType)
    (entry : EventTypeEntry) :
    KnowsType { c with eventTypes := Keyed.insert c.eventTypes key entry } s := by
  refine known.imp_right ?_
  rintro ⟨old, found⟩
  by_cases same : key = ⟨s.space, s.eventType⟩
  · exact ⟨entry, by simp [same]⟩
  · exact ⟨old, by simpa [Keyed.get?_insert, same] using found⟩

theorem KnowsType.erase (known : c.KnowsType s) {space : String} {type : EventType}
    (apart : ¬ (s.space = space ∧ s.eventType = type)) :
    KnowsType { c with eventTypes := Keyed.erase c.eventTypes ⟨space, type⟩ } s := by
  refine known.imp_right ?_
  rintro ⟨old, found⟩
  have other : (⟨space, type⟩ : Scoped EventType) ≠ ⟨s.space, s.eventType⟩ := by
    intro same
    cases same
    exact apart ⟨rfl, rfl⟩
  exact ⟨old, by simpa [Keyed.get?_erase, other] using found⟩

theorem KnowsFunction.insert (known : c.KnowsFunction s) (key : Scoped FunctionId)
    (entry : FunctionEntry) :
    KnowsFunction { c with functions := Keyed.insert c.functions key entry } s := by
  obtain ⟨old, found⟩ := known
  by_cases same : key = ⟨s.space, s.functionId⟩
  · exact ⟨entry, by simp [same]⟩
  · exact ⟨old, by simpa [Keyed.get?_insert, same] using found⟩

theorem KnowsFunction.erase (known : c.KnowsFunction s) {space : String} {id : FunctionId}
    (apart : ¬ (s.space = space ∧ s.functionId = id)) :
    KnowsFunction { c with functions := Keyed.erase c.functions ⟨space, id⟩ } s := by
  obtain ⟨old, found⟩ := known
  have other : (⟨space, id⟩ : Scoped FunctionId) ≠ ⟨s.space, s.functionId⟩ := by
    intro same
    cases same
    exact apart ⟨rfl, rfl⟩
  exact ⟨old, by simpa [Keyed.get?_erase, other] using found⟩

end Knowing

section Changes
variable {c : Catalog}

/-- What an update finds and what it puts in its place have one id, and one name in the catalog. -/
theorem Sound.update_keeps_id (sound : c.Sound) {key : Scoped SubscriptionId}
    {old new : Subscription} (found : Keyed.get? c.subscriptions key = some old)
    (normal : new.Normal) (unchanged : changedField? old new = none) :
    old.id = key.name ∧ { new with id := old.id } = new := by
  have supports := sound.subscription key old (Keyed.mem_of_get? found)
  have own : old.id = old.computeId := supports.normal.id
  refine ⟨?_, ?_⟩
  · rw [own, supports.key]
  · rw [own, ← Subscription.computeId_eq_of_unchanged unchanged, ← normal.id]

theorem Sound.addEventType (sound : c.Sound) (entry : EventTypeEntry) :
    Sound { c with eventTypes := Keyed.insert c.eventTypes ⟨entry.space, entry.type⟩ entry } where
  eventTypes := sound.eventTypes.insert _ _
  functions := sound.functions
  subscriptions := sound.subscriptions
  eventType key other member := by
    rcases Keyed.mem_of_mem_insert member with new | old
    · cases new
      rfl
    · exact sound.eventType key other old
  function := sound.function
  subscription key s member := by
    have supports := sound.subscription key s member
    exact ⟨supports.key, supports.normal, supports.type.insert _ _, supports.function⟩

theorem Sound.removeEventType (sound : c.Sound) {space : String} {type : EventType}
    (unused : ∀ s ∈ c.allSubscriptions, ¬ (s.space = space ∧ s.eventType = type)) :
    Sound { c with eventTypes := Keyed.erase c.eventTypes ⟨space, type⟩ } where
  eventTypes := sound.eventTypes.erase _
  functions := sound.functions
  subscriptions := sound.subscriptions
  eventType key entry member := sound.eventType key entry (Keyed.mem_erase_iff.mp member).2
  function := sound.function
  subscription key s member := by
    have supports := sound.subscription key s member
    have known := supports.type.erase (unused s (mem_allSubscriptions member))
    exact ⟨supports.key, supports.normal, known, supports.function⟩

theorem Sound.putFunction (sound : c.Sound) {entry : FunctionEntry}
    (wellFormed : entry.WellFormed) : Sound (c.putFunction entry) where
  eventTypes := sound.eventTypes
  functions := sound.functions.insert _ _
  subscriptions := sound.subscriptions
  eventType := sound.eventType
  function key other member := by
    rcases Keyed.mem_of_mem_insert member with new | old
    · cases new
      exact ⟨rfl, wellFormed⟩
    · exact sound.function key other old
  subscription key s member := by
    have supports := sound.subscription key s member
    exact ⟨supports.key, supports.normal, supports.type, supports.function.insert _ _⟩

theorem Sound.removeFunction (sound : c.Sound) {space : String} {id : FunctionId}
    (unused : ∀ s ∈ c.allSubscriptions, ¬ (s.space = space ∧ s.functionId = id)) :
    Sound { c with functions := Keyed.erase c.functions ⟨space, id⟩ } where
  eventTypes := sound.eventTypes
  functions := sound.functions.erase _
  subscriptions := sound.subscriptions
  eventType := sound.eventType
  function key entry member := sound.function key entry (Keyed.mem_erase_iff.mp member).2
  subscription key s member := by
    have supports := sound.subscription key s member
    have known := supports.function.erase (unused s (mem_allSubscriptions member))
    exact ⟨supports.key, supports.normal, supports.type, known⟩

theorem Sound.putSubscription (sound : c.Sound) {key : Scoped SubscriptionId} {s : Subscription}
    (supports : c.Supports key s) :
    Sound { c with subscriptions := Keyed.insert c.subscriptions key s } where
  eventTypes := sound.eventTypes
  functions := sound.functions
  subscriptions := sound.subscriptions.insert _ _
  eventType := sound.eventType
  function := sound.function
  subscription other t member := by
    have kept : c.Supports other t := by
      rcases Keyed.mem_of_mem_insert member with new | old
      · cases new
        exact supports
      · exact sound.subscription other t old
    exact ⟨kept.key, kept.normal, kept.type, kept.function⟩

theorem Sound.removeSubscription (sound : c.Sound) (key : Scoped SubscriptionId) :
    Sound { c with subscriptions := Keyed.erase c.subscriptions key } where
  eventTypes := sound.eventTypes
  functions := sound.functions
  subscriptions := sound.subscriptions.erase _
  eventType := sound.eventType
  function := sound.function
  subscription other t member := by
    have kept := sound.subscription other t (Keyed.mem_erase_iff.mp member).2
    exact ⟨kept.key, kept.normal, kept.type, kept.function⟩

theorem Sound.supports_update (sound : c.Sound) {id : SubscriptionId} {old new : Subscription}
    (found : Keyed.get? c.subscriptions ⟨new.space, id⟩ = some old) (normal : new.Normal)
    (unchanged : changedField? old new = none) (function : c.KnowsFunction new) :
    c.Supports ⟨new.space, id⟩ new := by
  have supports := sound.subscription _ old (Keyed.mem_of_get? found)
  obtain ⟨kind, type, -⟩ := (Subscription.changedField?_eq_none_iff old new).mp unchanged
  have space : new.space = old.space := congrArg Scoped.space supports.key
  have name : id = old.computeId := congrArg Scoped.name supports.key
  refine ⟨?_, normal, ?_, function⟩
  · rw [name, Subscription.computeId_eq_of_unchanged unchanged]
  · have known := supports.type
    unfold KnowsType at known ⊢
    rwa [space, type]

end Changes

theorem sound_kept : Kept Sound := by
  intro c after sound change
  cases change with
  | addEventType entry => exact sound.addEventType entry
  | removeEventType space type unused => exact sound.removeEventType unused
  | putFunction entry wellFormed => exact sound.putFunction wellFormed
  | removeFunction space id unused => exact sound.removeFunction unused
  | addSubscription s space normal absent free type function =>
      refine sound.putSubscription ⟨?_, normal, type, function⟩
      rw [normal.id]
  | replaceSubscription id old new found normal unchanged function =>
      obtain ⟨name, same⟩ := sound.update_keeps_id found normal unchanged
      rw [same, name]
      exact sound.putSubscription (sound.supports_update found normal unchanged function)
  | removeSubscription space id => exact sound.removeSubscription _

/-- Every catalog that comes about is sound. -/
theorem Reachable.sound {c : Catalog} (reachable : Reachable c) : c.Sound :=
  reachable.holds sound_kept sound_empty

end Catalog
end EventRelay
