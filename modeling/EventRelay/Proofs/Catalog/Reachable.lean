import EventRelay.Proofs.Catalog.Outcomes
import EventRelay.Proofs.Subscription.Normalization

set_option autoImplicit false

/-!
The catalogs that come about: those that operations make of the empty one, in any number and order,
refused or not. Seven changes are all that operations do, so a property that each change keeps holds
of every catalog that comes about.
-/
namespace EventRelay.Catalog

/-- What can be asked of a catalog. -/
inductive Operation where
  | createEventType (entry : EventTypeEntry)
  | deleteEventType (space : String) (type : EventType)
  | registerFunction (entry : FunctionEntry)
  | updateFunction (space : String) (id : FunctionId) (provider : Provider)
  | deleteFunction (space : String) (id : FunctionId)
  | createSubscription (s : Subscription)
  | updateSubscription (space : String) (id : SubscriptionId) (s : Subscription)
  | deleteSubscription (space : String) (id : SubscriptionId)
  | applySeed (seed : Seed) (defaultSpace : String)

/-- The catalog after an outcome; when it is a refusal, the catalog is what it was. -/
def afterOutcome {α : Type} (c : Catalog) : Except CatalogError (α × Catalog) → Catalog
  | .ok (_, after) => after
  | .error _ => c

def apply (c : Catalog) : Operation → Catalog
  | .createEventType entry => c.afterOutcome (c.createEventType entry)
  | .deleteEventType space type => c.afterOutcome (c.deleteEventType space type)
  | .registerFunction entry => c.afterOutcome (c.registerFunction entry)
  | .updateFunction space id provider => c.afterOutcome (c.updateFunction space id provider)
  | .deleteFunction space id => c.afterOutcome (c.deleteFunction space id)
  | .createSubscription s => c.afterOutcome (c.createSubscription s)
  | .updateSubscription space id s => c.afterOutcome (c.updateSubscription space id s)
  | .deleteSubscription space id => c.afterOutcome (c.deleteSubscription space id)
  | .applySeed seed defaultSpace => (c.applySeed seed defaultSpace).1

/-- Catalogs that operations make of the empty one. -/
inductive Reachable : Catalog → Prop
  | empty : Reachable .empty
  | next {c : Catalog} (reachable : Reachable c) (operation : Operation) :
      Reachable (c.apply operation)

/-- A run of operations leads from what comes about to what comes about. -/
theorem reachable_foldl {c : Catalog} (reachable : Reachable c) (operations : List Operation) :
    Reachable (operations.foldl apply c) := by
  induction operations generalizing c with
  | nil => exact reachable
  | cons operation rest ih => exact ih (reachable.next operation)

/-- What an operation that succeeds does to a catalog, with what it has checked before. -/
inductive Change (c : Catalog) : Catalog → Prop
  | addEventType (entry : EventTypeEntry) (space : isSpaceName entry.space = true)
      (named : entry.type.name.isEmpty = false) (custom : entry.type.isSystem = false)
      (absent : Keyed.get? c.eventTypes ⟨entry.space, entry.type⟩ = none) :
      Change c { c with
        eventTypes := Keyed.insert c.eventTypes ⟨entry.space, entry.type⟩ entry }
  | removeEventType (space : String) (type : EventType)
      (unused : ∀ s ∈ c.allSubscriptions, ¬ (s.space = space ∧ s.eventType = type)) :
      Change c { c with eventTypes := Keyed.erase c.eventTypes ⟨space, type⟩ }
  | putFunction (entry : FunctionEntry) (wellFormed : entry.WellFormed) :
      Change c (c.putFunction entry)
  | removeFunction (space : String) (id : FunctionId)
      (unused : ∀ s ∈ c.allSubscriptions, ¬ (s.space = space ∧ s.functionId = id)) :
      Change c { c with functions := Keyed.erase c.functions ⟨space, id⟩ }
  | addSubscription (s : Subscription) (space : isSpaceName s.space = true) (normal : s.Normal)
      (absent : Keyed.get? c.subscriptions ⟨s.space, s.id⟩ = none)
      (free : s.kind = .sync → Subscription.pathConflict? c.allSubscriptions s = none)
      (type : c.KnowsType s) (function : c.KnowsFunction s) :
      Change c { c with subscriptions := Keyed.insert c.subscriptions ⟨s.space, s.id⟩ s }
  | replaceSubscription (id : SubscriptionId) (old new : Subscription)
      (found : Keyed.get? c.subscriptions ⟨new.space, id⟩ = some old) (normal : new.Normal)
      (unchanged : changedField? old new = none) (function : c.KnowsFunction new) :
      Change c { c with
        subscriptions := Keyed.insert c.subscriptions ⟨new.space, old.id⟩
          { new with id := old.id } }
  | removeSubscription (space : String) (id : SubscriptionId) :
      Change c { c with subscriptions := Keyed.erase c.subscriptions ⟨space, id⟩ }

section Changes
variable {c after : Catalog}

theorem change_of_createEventType {entry result : EventTypeEntry}
    (ok : c.createEventType entry = .ok (result, after)) : Change c after := by
  obtain ⟨space, named, custom, absent, -, rfl⟩ := (createEventType_eq_ok_iff ..).mp ok
  exact .addEventType entry space named custom absent

theorem change_of_deleteEventType {space : String} {type : EventType} {u : Unit}
    (ok : c.deleteEventType space type = .ok (u, after)) : Change c after := by
  obtain ⟨-, unused, rfl⟩ := (deleteEventType_eq_ok_iff ..).mp ok
  exact .removeEventType space type unused

theorem change_of_registerFunction {entry result : FunctionEntry}
    (ok : c.registerFunction entry = .ok (result, after)) : Change c after := by
  obtain ⟨wellFormed, -, -, rfl⟩ := (registerFunction_eq_ok_iff ..).mp ok
  exact .putFunction entry wellFormed

theorem change_of_updateFunction {space : String} {id : FunctionId} {provider : Provider}
    {result : FunctionEntry} (ok : c.updateFunction space id provider = .ok (result, after)) :
    Change c after := by
  obtain ⟨wellFormed, -, -, rfl⟩ := (updateFunction_eq_ok_iff ..).mp ok
  exact .putFunction _ wellFormed

theorem change_of_deleteFunction {space : String} {id : FunctionId} {u : Unit}
    (ok : c.deleteFunction space id = .ok (u, after)) : Change c after := by
  obtain ⟨-, unused, rfl⟩ := (deleteFunction_eq_ok_iff ..).mp ok
  exact .removeFunction space id unused

theorem change_of_createSubscription {s result : Subscription}
    (ok : c.createSubscription s = .ok (result, after)) : Change c after := by
  obtain ⟨space, normalized, absent, free, type, function, rfl⟩ :=
    (createSubscription_eq_ok_iff ..).mp ok
  obtain ⟨rfl, normal⟩ := Subscription.normalized_eq_ok normalized
  exact .addSubscription _ space normal absent free type function

theorem change_of_updateSubscription {space : String} {id : SubscriptionId}
    {s result : Subscription} (ok : c.updateSubscription space id s = .ok (result, after)) :
    Change c after := by
  obtain ⟨new, old, normalized, found, unchanged, function, rfl, rfl⟩ :=
    (updateSubscription_eq_ok_iff ..).mp ok
  obtain ⟨rfl, normal⟩ := Subscription.normalized_eq_ok normalized
  exact .replaceSubscription id old _ found normal unchanged function

theorem change_of_deleteSubscription {space : String} {id : SubscriptionId} {u : Unit}
    (ok : c.deleteSubscription space id = .ok (u, after)) : Change c after := by
  obtain ⟨-, rfl⟩ := (deleteSubscription_eq_ok_iff ..).mp ok
  exact .removeSubscription space id

end Changes

/-- A property of catalogs that every change keeps. -/
def Kept (P : Catalog → Prop) : Prop := ∀ c after, P c → Change c after → P after

section Kept
variable {P : Catalog → Prop} {c : Catalog}

theorem Kept.afterOutcome (kept : Kept P) (holds : P c) {α : Type}
    {outcome : Except CatalogError (α × Catalog)}
    (change : ∀ result after, outcome = .ok (result, after) → Change c after) :
    P (c.afterOutcome outcome) := by
  cases outcome with
  | error e => exact holds
  | ok success => exact kept c _ holds (change success.1 success.2 rfl)

theorem absorb_fst {α : Type} (c : Catalog) (known : CatalogError → Bool)
    (outcome : Except CatalogError (α × Catalog)) :
    (c.absorb known outcome).1 = c.afterOutcome outcome := by
  cases outcome <;> rfl

theorem Kept.seedEventType (kept : Kept P) (holds : P c) (entry : EventTypeEntry) :
    P (c.seedEventType entry).1 := by
  rw [Catalog.seedEventType, absorb_fst]
  exact kept.afterOutcome holds fun _ _ ok => change_of_createEventType ok

theorem Kept.seedFunction (kept : Kept P) (holds : P c) (entry : FunctionEntry) :
    P (c.seedFunction entry).1 := by
  unfold Catalog.seedFunction
  split
  · rw [absorb_fst]
    exact kept.afterOutcome holds fun _ _ ok => change_of_updateFunction ok
  · rw [absorb_fst]
    exact kept.afterOutcome holds fun _ _ ok => change_of_registerFunction ok

theorem Kept.seedSubscription (kept : Kept P) (holds : P c) (s : Subscription) :
    P (c.seedSubscription s).1 := by
  rw [Catalog.seedSubscription, absorb_fst]
  exact kept.afterOutcome holds fun _ _ ok => change_of_createSubscription ok

variable (P) in
theorem seedAll_keeps {α : Type} (step : Catalog → α → Catalog × List CatalogError)
    (keeps : ∀ c entry, P c → P (step c entry).1) (entries : List α) (holds : P c) :
    P (seedAll step entries c).1 := by
  induction entries generalizing c with
  | nil => exact holds
  | cons entry rest ih => exact ih (keeps c entry holds)

theorem Kept.applySeed (kept : Kept P) (holds : P c) (seed : Seed) (defaultSpace : String) :
    P (c.applySeed seed defaultSpace).1 := by
  have first := seedAll_keeps P Catalog.seedEventType
    (fun _ entry before => kept.seedEventType before entry)
    (seed.eventTypes.map fun e => { e with space := spaceOr defaultSpace e.space }) holds
  have second := seedAll_keeps P Catalog.seedFunction
    (fun _ entry before => kept.seedFunction before entry)
    (seed.functions.map fun f => { f with space := spaceOr defaultSpace f.space }) first
  exact seedAll_keeps P Catalog.seedSubscription
    (fun _ entry before => kept.seedSubscription before entry)
    (seed.subscriptions.map fun s => { s with space := spaceOr defaultSpace s.space }) second

theorem Kept.apply (kept : Kept P) (holds : P c) (operation : Operation) :
    P (c.apply operation) := by
  cases operation with
  | createEventType => exact kept.afterOutcome holds fun _ _ ok => change_of_createEventType ok
  | deleteEventType => exact kept.afterOutcome holds fun _ _ ok => change_of_deleteEventType ok
  | registerFunction => exact kept.afterOutcome holds fun _ _ ok => change_of_registerFunction ok
  | updateFunction => exact kept.afterOutcome holds fun _ _ ok => change_of_updateFunction ok
  | deleteFunction => exact kept.afterOutcome holds fun _ _ ok => change_of_deleteFunction ok
  | createSubscription =>
      exact kept.afterOutcome holds fun _ _ ok => change_of_createSubscription ok
  | updateSubscription =>
      exact kept.afterOutcome holds fun _ _ ok => change_of_updateSubscription ok
  | deleteSubscription =>
      exact kept.afterOutcome holds fun _ _ ok => change_of_deleteSubscription ok
  | applySeed seed defaultSpace => exact kept.applySeed holds seed defaultSpace

/-- What holds of the empty catalog and every change keeps holds of all that come about. -/
theorem Reachable.holds (kept : Kept P) (start : P .empty) (reachable : Reachable c) : P c := by
  induction reachable with
  | empty => exact start
  | next _ operation ih => exact kept.apply ih operation

end Kept
end EventRelay.Catalog
