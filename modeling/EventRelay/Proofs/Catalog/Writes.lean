import EventRelay.Proofs.Catalog.Lookups

set_option autoImplicit false

/-!
The writes of a catalog: entries of three sorts are made, replaced and removed. A write that
succeeds changes what stands at the one address it is about. A lookup of the routing table changes
only when it is about a subscription that stood or stands there.
-/
namespace EventRelay.Catalog

open RoutingTable (Answers)

inductive Entry where
  | eventType (entry : EventTypeEntry)
  | function (entry : FunctionEntry)
  | subscription (s : Subscription)

/-- What an entry of any sort is called in its space. -/
inductive EntryName where
  | eventType (type : EventType)
  | function (id : FunctionId)
  | subscription (id : SubscriptionId)
deriving DecidableEq

def entryAt? (c : Catalog) (address : Scoped EntryName) : Option Entry :=
  match address.name with
  | .eventType type => (Keyed.get? c.eventTypes ⟨address.space, type⟩).map .eventType
  | .function id => (Keyed.get? c.functions ⟨address.space, id⟩).map .function
  | .subscription id => (Keyed.get? c.subscriptions ⟨address.space, id⟩).map .subscription

/-- An operation on a single entry. -/
inductive Write where
  | createEventType (entry : EventTypeEntry)
  | deleteEventType (space : String) (type : EventType)
  | registerFunction (entry : FunctionEntry)
  | updateFunction (space : String) (id : FunctionId) (provider : Provider)
  | deleteFunction (space : String) (id : FunctionId)
  | createSubscription (s : Subscription)
  | updateSubscription (space : String) (id : SubscriptionId) (s : Subscription)
  | deleteSubscription (space : String) (id : SubscriptionId)

namespace Write

def operation : Write → Operation
  | createEventType entry => .createEventType entry
  | deleteEventType space type => .deleteEventType space type
  | registerFunction entry => .registerFunction entry
  | updateFunction space id provider => .updateFunction space id provider
  | deleteFunction space id => .deleteFunction space id
  | createSubscription s => .createSubscription s
  | updateSubscription space id s => .updateSubscription space id s
  | deleteSubscription space id => .deleteSubscription space id

def address : Write → Scoped EntryName
  | createEventType entry => ⟨entry.space, .eventType entry.type⟩
  | deleteEventType space type => ⟨space, .eventType type⟩
  | registerFunction entry => ⟨entry.space, .function entry.id⟩
  | updateFunction space id _ => ⟨space, .function id⟩
  | deleteFunction space id => ⟨space, .function id⟩
  | createSubscription s => ⟨s.space, .subscription s.filled.id⟩
  | updateSubscription space id _ => ⟨space, .subscription id⟩
  | deleteSubscription space id => ⟨space, .subscription id⟩

/-- The entry that a write puts there; one that removes puts none. -/
def entry? : Write → Option Entry
  | createEventType entry => some (.eventType entry)
  | registerFunction entry => some (.function entry)
  | updateFunction space id provider => some (.function ⟨space, id, provider⟩)
  | createSubscription s => some (.subscription s.filled)
  | updateSubscription space _ s => some (.subscription ({ s with space } : Subscription).filled)
  | deleteEventType _ _ | deleteFunction _ _ | deleteSubscription _ _ => none

def adds : Write → Bool
  | createEventType _ | registerFunction _ | createSubscription _ => true
  | _ => false

end Write

/-- An outcome with its result as an entry of any sort. -/
def labelled {α : Type} (label : α → Option Entry) (outcome : Except CatalogError (α × Catalog)) :
    Except CatalogError (Option Entry × Catalog) :=
  outcome.map fun success => (label success.1, success.2)

/-- Carries out a write: the entry that it put there, and the catalog after it. -/
def write (c : Catalog) : Write → Except CatalogError (Option Entry × Catalog)
  | .createEventType entry => labelled (some ∘ .eventType) (c.createEventType entry)
  | .deleteEventType space type => labelled (fun _ => none) (c.deleteEventType space type)
  | .registerFunction entry => labelled (some ∘ .function) (c.registerFunction entry)
  | .updateFunction space id provider =>
    labelled (some ∘ .function) (c.updateFunction space id provider)
  | .deleteFunction space id => labelled (fun _ => none) (c.deleteFunction space id)
  | .createSubscription s => labelled (some ∘ .subscription) (c.createSubscription s)
  | .updateSubscription space id s =>
    labelled (some ∘ .subscription) (c.updateSubscription space id s)
  | .deleteSubscription space id => labelled (fun _ => none) (c.deleteSubscription space id)

section Outcomes
variable {c after : Catalog}

theorem labelled_eq_ok_iff {α : Type} (label : α → Option Entry)
    (outcome : Except CatalogError (α × Catalog)) (result : Option Entry) :
    labelled label outcome = .ok (result, after) ↔
      ∃ value, outcome = .ok (value, after) ∧ label value = result := by
  cases outcome with
  | error e => simp [labelled, Except.map]
  | ok success =>
      obtain ⟨value, next⟩ := success
      simp only [labelled, Except.map, Except.ok.injEq, Prod.mk.injEq]
      constructor
      · rintro ⟨same, rfl⟩
        exact ⟨value, ⟨rfl, rfl⟩, same⟩
      · rintro ⟨_, ⟨rfl, rfl⟩, same⟩
        exact ⟨same, rfl⟩

theorem afterOutcome_labelled {α : Type} (label : α → Option Entry)
    (outcome : Except CatalogError (α × Catalog)) :
    c.afterOutcome (labelled label outcome) = c.afterOutcome outcome := by
  cases outcome <;> rfl

theorem apply_operation (w : Write) : c.apply w.operation = c.afterOutcome (c.write w) := by
  cases w <;> simp only [write, afterOutcome_labelled] <;> rfl

theorem Reachable.write (reachable : Reachable c) {w : Write} {result : Option Entry}
    (ok : c.write w = .ok (result, after)) : Reachable after := by
  have next := reachable.next w.operation
  rw [apply_operation, ok] at next
  exact next

end Outcomes

section Entries
variable {c : Catalog}

theorem entryAt?_of_eventTypes {entries : List (Scoped EventType × EventTypeEntry)}
    {key : Scoped EventType} {value : Option EventTypeEntry}
    (changed : ∀ other, Keyed.get? entries other =
      if key = other then value else Keyed.get? c.eventTypes other) (address : Scoped EntryName) :
    entryAt? { c with eventTypes := entries } address =
      if (⟨key.space, .eventType key.name⟩ : Scoped EntryName) = address then value.map .eventType
      else c.entryAt? address := by
  obtain ⟨space, name⟩ := address
  obtain ⟨keySpace, type⟩ := key
  cases name with
  | eventType other =>
      by_cases same : keySpace = space ∧ type = other
      · simp [entryAt?, changed, same]
      · simp [entryAt?, changed, same]
  | function id => simp [entryAt?]
  | subscription id => simp [entryAt?]

theorem entryAt?_of_functions {entries : List (Scoped FunctionId × FunctionEntry)}
    {key : Scoped FunctionId} {value : Option FunctionEntry}
    (changed : ∀ other, Keyed.get? entries other =
      if key = other then value else Keyed.get? c.functions other) (address : Scoped EntryName) :
    entryAt? { c with functions := entries } address =
      if (⟨key.space, .function key.name⟩ : Scoped EntryName) = address then value.map .function
      else c.entryAt? address := by
  obtain ⟨space, name⟩ := address
  obtain ⟨keySpace, id⟩ := key
  cases name with
  | eventType type => simp [entryAt?]
  | function other =>
      by_cases same : keySpace = space ∧ id = other
      · simp [entryAt?, changed, same]
      · simp [entryAt?, changed, same]
  | subscription id => simp [entryAt?]

theorem entryAt?_of_subscriptions {entries : List (Scoped SubscriptionId × Subscription)}
    {key : Scoped SubscriptionId} {value : Option Subscription}
    (changed : ∀ other, Keyed.get? entries other =
      if key = other then value else Keyed.get? c.subscriptions other)
    (address : Scoped EntryName) :
    entryAt? { c with subscriptions := entries } address =
      if (⟨key.space, .subscription key.name⟩ : Scoped EntryName) = address then
        value.map .subscription
      else c.entryAt? address := by
  obtain ⟨space, name⟩ := address
  obtain ⟨keySpace, id⟩ := key
  cases name with
  | eventType type => simp [entryAt?]
  | function id => simp [entryAt?]
  | subscription other =>
      by_cases same : keySpace = space ∧ id = other
      · simp [entryAt?, changed, same]
      · simp [entryAt?, changed, same]

theorem Sound.mem_allSubscriptions_iff (sound : c.Sound) (s : Subscription) :
    s ∈ c.allSubscriptions ↔
      c.entryAt? ⟨s.space, .subscription s.computeId⟩ = some (.subscription s) := by
  simp only [entryAt?, Option.map_eq_some_iff, Entry.subscription.injEq, exists_eq_right]
  constructor
  · intro member
    obtain ⟨⟨key, t⟩, listed, rfl⟩ := List.mem_map.mp member
    rw [← (sound.subscription key t listed).key]
    exact sound.subscriptions.get?_of_mem listed
  · intro found
    exact mem_allSubscriptions (Keyed.mem_of_get? found)

end Entries

section Writing
variable {c after : Catalog}

theorem entryAt?_write (sound : c.Sound) {w : Write} {result : Option Entry}
    (ok : c.write w = .ok (result, after)) :
    result = w.entry? ∧ (c.entryAt? w.address).isNone = w.adds ∧
      ∀ address, after.entryAt? address =
        if w.address = address then w.entry? else c.entryAt? address := by
  cases w with
  | createEventType entry =>
      simp only [write, labelled_eq_ok_iff] at ok
      obtain ⟨_, made, rfl⟩ := ok
      obtain ⟨-, -, -, absent, rfl, rfl⟩ := (createEventType_eq_ok_iff ..).mp made
      refine ⟨rfl, by simp [Write.address, Write.adds, entryAt?, absent], ?_⟩
      exact entryAt?_of_eventTypes fun other => Keyed.get?_insert ..
  | deleteEventType space type =>
      simp only [write, labelled_eq_ok_iff] at ok
      obtain ⟨_, made, rfl⟩ := ok
      obtain ⟨⟨old, found⟩, -, rfl⟩ := (deleteEventType_eq_ok_iff ..).mp made
      refine ⟨rfl, by simp [Write.address, Write.adds, entryAt?, found], ?_⟩
      exact entryAt?_of_eventTypes fun other => Keyed.get?_erase ..
  | registerFunction entry =>
      simp only [write, labelled_eq_ok_iff] at ok
      obtain ⟨_, made, rfl⟩ := ok
      obtain ⟨-, absent, rfl, rfl⟩ := (registerFunction_eq_ok_iff ..).mp made
      refine ⟨rfl, by simp [Write.address, Write.adds, entryAt?, absent], ?_⟩
      exact entryAt?_of_functions fun other => Keyed.get?_insert ..
  | updateFunction space id provider =>
      simp only [write, labelled_eq_ok_iff] at ok
      obtain ⟨_, made, rfl⟩ := ok
      obtain ⟨-, ⟨old, found⟩, rfl, rfl⟩ := (updateFunction_eq_ok_iff ..).mp made
      refine ⟨rfl, by simp [Write.address, Write.adds, entryAt?, found], ?_⟩
      exact entryAt?_of_functions fun other => Keyed.get?_insert ..
  | deleteFunction space id =>
      simp only [write, labelled_eq_ok_iff] at ok
      obtain ⟨_, made, rfl⟩ := ok
      obtain ⟨⟨old, found⟩, -, rfl⟩ := (deleteFunction_eq_ok_iff ..).mp made
      refine ⟨rfl, by simp [Write.address, Write.adds, entryAt?, found], ?_⟩
      exact entryAt?_of_functions fun other => Keyed.get?_erase ..
  | createSubscription s =>
      simp only [write, labelled_eq_ok_iff] at ok
      obtain ⟨_, made, rfl⟩ := ok
      obtain ⟨-, normalized, absent, -, -, -, rfl⟩ := (createSubscription_eq_ok_iff ..).mp made
      obtain ⟨rfl, -⟩ := Subscription.normalized_eq_ok normalized
      refine ⟨rfl, ?_, ?_⟩
      · rw [Subscription.filled_space] at absent
        simp [Write.address, Write.adds, entryAt?, absent]
      · exact entryAt?_of_subscriptions fun other => Keyed.get?_insert ..
  | updateSubscription space id s =>
      simp only [write, labelled_eq_ok_iff] at ok
      obtain ⟨_, made, rfl⟩ := ok
      obtain ⟨_, old, normalized, found, unchanged, -, rfl, rfl⟩ :=
        (updateSubscription_eq_ok_iff ..).mp made
      obtain ⟨rfl, normal⟩ := Subscription.normalized_eq_ok normalized
      -- The entry goes to the id of the new form, which no allowed change alters.
      obtain ⟨name, same⟩ := sound.update_keeps_id found normal unchanged
      rw [same, name]
      refine ⟨rfl, by simp [Write.address, Write.adds, entryAt?, found], ?_⟩
      exact entryAt?_of_subscriptions fun other => Keyed.get?_insert ..
  | deleteSubscription space id =>
      simp only [write, labelled_eq_ok_iff] at ok
      obtain ⟨_, made, rfl⟩ := ok
      obtain ⟨⟨old, found⟩, rfl⟩ := (deleteSubscription_eq_ok_iff ..).mp made
      refine ⟨rfl, by simp [Write.address, Write.adds, entryAt?, found], ?_⟩
      exact entryAt?_of_subscriptions fun other => Keyed.get?_erase ..

/-- Nothing differs between two catalogs but what stands at an address, and the lookups that are
about a subscription there. -/
structure DifferAt (c after : Catalog) (address : Scoped EntryName) : Prop where
  entries : ∀ other, address ≠ other → after.entryAt? other = c.entryAt? other
  subscribers : ∀ table now, c.Compiles table → after.Compiles now → ∀ space path type,
    now.subscribers space path type ≠ table.subscribers space path type →
      ∃ s : Subscription, (c.entryAt? address = some (.subscription s) ∨
          after.entryAt? address = some (.subscription s)) ∧
        s.kind = .async ∧ s.space = space ∧ s.path = path ∧ s.eventType = type
  syncTarget : ∀ table now, c.Compiles table → after.Compiles now →
    ∀ space method path type,
    now.syncTarget space method path type ≠ table.syncTarget space method path type →
      ∃ s params, (c.entryAt? address = some (.subscription s) ∨
          after.entryAt? address = some (.subscription s)) ∧
        Answers s space method path type params

theorem entryAt?_of_lacking (sound : c.Sound) (afterSound : after.Sound)
    {address : Scoped EntryName}
    (entries : ∀ other, address ≠ other → after.entryAt? other = c.entryAt? other)
    {s : Subscription} (lacking : ¬ (s ∈ c.allSubscriptions ↔ s ∈ after.allSubscriptions)) :
    c.entryAt? address = some (.subscription s) ∨
      after.entryAt? address = some (.subscription s) := by
  rw [sound.mem_allSubscriptions_iff, afterSound.mem_allSubscriptions_iff] at lacking
  by_cases here : address = ⟨s.space, .subscription s.computeId⟩
  · subst here
    by_cases stood : c.entryAt? ⟨s.space, .subscription s.computeId⟩ = some (.subscription s)
    · exact Or.inl stood
    · refine Or.inr (Classical.byContradiction fun absent => lacking ?_)
      exact iff_of_false stood absent
  · -- What stands elsewhere stands in both.
    rw [entries _ here] at lacking
    exact absurd Iff.rfl lacking

theorem differAt_of_entries (reachable : Reachable c) (afterReachable : Reachable after)
    {address : Scoped EntryName}
    (entries : ∀ other, address ≠ other → after.entryAt? other = c.entryAt? other) :
    DifferAt c after address where
  entries := entries
  subscribers table now compiled nowCompiled space path type differ := by
    obtain ⟨s, lacking, about⟩ := exists_of_subscribers_ne compiled nowCompiled differ
    exact ⟨s, entryAt?_of_lacking reachable.sound afterReachable.sound entries lacking, about⟩
  syncTarget table now compiled nowCompiled space method path type differ := by
    obtain ⟨s, params, lacking, answers⟩ :=
      exists_of_syncTarget_ne reachable afterReachable compiled nowCompiled differ
    exact ⟨s, params, entryAt?_of_lacking reachable.sound afterReachable.sound entries lacking,
      answers⟩

/-- The lookups of two catalogs agree, whatever the order in which their tables are built. -/
structure SameLookups (c d : Catalog) : Prop where
  subscribers : ∀ table other, c.Compiles table → d.Compiles other → ∀ space path type,
    other.subscribers space path type = table.subscribers space path type
  syncTarget : ∀ table other, c.Compiles table → d.Compiles other → ∀ space method path type,
    other.syncTarget space method path type = table.syncTarget space method path type

theorem Reachable.sameLookups (reachable : Reachable c) : SameLookups c c where
  subscribers _ _ compiled otherCompiled _ _ _ :=
    subscribers_eq otherCompiled compiled fun _ _ _ _ _ => Iff.rfl
  syncTarget _ _ compiled otherCompiled _ _ _ _ :=
    syncTarget_eq reachable reachable otherCompiled compiled fun _ _ _ => Iff.rfl

theorem DifferAt.sameLookups {address : Scoped EntryName} (differ : DifferAt c after address)
    (none : ∀ s : Subscription, c.entryAt? address ≠ some (.subscription s) ∧
      after.entryAt? address ≠ some (.subscription s)) : SameLookups c after where
  subscribers table other compiled otherCompiled space path type := by
    apply Classical.byContradiction
    intro changed
    obtain ⟨s, stands, -⟩ :=
      differ.subscribers table other compiled otherCompiled space path type changed
    rcases stands with before | now
    · exact (none s).1 before
    · exact (none s).2 now
  syncTarget table other compiled otherCompiled space method path type := by
    apply Classical.byContradiction
    intro changed
    obtain ⟨s, -, stands, -⟩ :=
      differ.syncTarget table other compiled otherCompiled space method path type changed
    rcases stands with before | now
    · exact (none s).1 before
    · exact (none s).2 now

end Writing
end EventRelay.Catalog
