import EventRelay.Proofs.ConfigApi.Reload

set_option autoImplicit false

/-!
The spaces that the entries of a seed go to. An entry goes to the space that it is written with, or
else to the default one; there it stands afterwards unless it is refused, and no other space learns
of it.
-/
namespace EventRelay

open Catalog (Entry EntryName SameEntries Reachable seedAll spaceOr)

namespace Catalog.Entry

def space : Entry → String
  | .eventType e => e.space
  | .function f => f.space
  | .subscription s => s.space

/-- What an entry is called in its space once it is registered. -/
def name : Entry → EntryName
  | .eventType e => .eventType e.type
  | .function f => .function f.id
  | .subscription s => .subscription s.filled.id

def placed (defaultSpace : String) : Entry → Entry
  | .eventType e => .eventType { e with space := spaceOr defaultSpace e.space }
  | .function f => .function { f with space := spaceOr defaultSpace f.space }
  | .subscription s => .subscription { s with space := spaceOr defaultSpace s.space }

@[simp] theorem space_placed (defaultSpace : String) (entry : Entry) :
    (entry.placed defaultSpace).space = spaceOr defaultSpace entry.space := by
  cases entry <;> rfl

@[simp] theorem name_placed (defaultSpace : String) (entry : Entry) :
    (entry.placed defaultSpace).name = entry.name := by
  cases entry <;> rfl

end Catalog.Entry

/-- A seed without the entries that are written without a space. -/
def Seed.scoped (seed : Seed) : Seed where
  eventTypes := seed.eventTypes.filter fun e => !e.space.isEmpty
  functions := seed.functions.filter fun f => !f.space.isEmpty
  subscriptions := seed.subscriptions.filter fun s => !s.space.isEmpty

theorem Seed.entries_placed (seed : Seed) (defaultSpace : String) :
    (seed.placed defaultSpace).entries = seed.entries.map (·.placed defaultSpace) := by
  simp only [Seed.entries, Seed.placed, List.map_append, List.map_map]
  rfl

theorem Seed.entries_scoped (seed : Seed) :
    seed.scoped.entries = seed.entries.filter fun entry => !entry.space.isEmpty := by
  simp only [Seed.entries, Seed.scoped, List.filter_append, List.filter_map]
  rfl

namespace Catalog

section Accepted
variable {c d : Catalog}

theorem checkEventTypeEntry_ne_exists (entry : EventTypeEntry) (type : EventType) :
    checkEventTypeEntry entry ≠ .error (.eventTypeAlreadyExists type) := by
  unfold checkEventTypeEntry validateSpace
  by_cases space : isSpaceName entry.space = true <;>
    by_cases unnamed : entry.type.name.isEmpty = true <;>
      by_cases system : entry.type.isSystem = true <;>
        simp [space, unnamed, system, bind, Except.bind, throw, throwThe, MonadExceptOf.throw, pure,
          Except.pure]

theorem prepareSubscription_ne_exists (s : Subscription) (id : SubscriptionId) :
    prepareSubscription s ≠ .error (.subscriptionAlreadyExists id) := by
  unfold prepareSubscription validateSpace normalizeSubscription
  by_cases space : isSpaceName s.space = true <;>
    cases s.normalized <;> simp [space, bind, Except.bind]

theorem eq_filled_of_prepareSubscription {s t : Subscription}
    (prepared : prepareSubscription s = .ok t) : t = s.filled := by
  unfold prepareSubscription at prepared
  obtain ⟨_, -, normalized⟩ := (bind_eq_ok_iff ..).mp prepared
  exact (Subscription.normalized_eq_ok ((normalizeSubscription_eq_ok_iff ..).mp normalized)).1

theorem stands_of_accepted_eventType {entry : EventTypeEntry}
    (accepted : (c.seedEventType entry).2 = []) :
    ((c.seedEventType entry).1.entryAt? ⟨entry.space, .eventType entry.type⟩).isSome = true := by
  cases passed : checkEventTypeEntry entry with
  | error error =>
      -- what the checks find wrong is not passed over
      simp only [seedEventType, createEventType_eq, passed, Except.bind, absorb] at accepted
      split at accepted
      · split at accepted
        · exact absurd passed (checkEventTypeEntry_ne_exists entry _)
        · contradiction
      · cases accepted
  | ok =>
      have present := stands_seedEventType c entry passed
      simpa [entryAt?, Keyed.contains] using present

theorem stands_of_accepted_function {f : FunctionEntry} (accepted : (c.seedFunction f).2 = []) :
    ((c.seedFunction f).1.entryAt? ⟨f.space, .function f.id⟩).isSome = true := by
  by_cases wellFormed : f.WellFormed
  · simp [seedFunction_of_wellFormed c wellFormed, entryAt?, putFunction]
  · obtain ⟨error, refused⟩ := seedFunction_of_not_wellFormed c wellFormed
    rw [refused] at accepted
    cases accepted

theorem stands_of_accepted_subscription {s : Subscription}
    (accepted : (c.seedSubscription s).2 = []) :
    ((c.seedSubscription s).1.entryAt? ⟨s.space, .subscription s.filled.id⟩).isSome = true := by
  cases prepared : prepareSubscription s with
  | error error =>
      simp only [seedSubscription, createSubscription_eq, prepared, Except.bind, absorb] at accepted
      split at accepted
      · split at accepted
        · exact absurd prepared (prepareSubscription_ne_exists s _)
        · contradiction
      · cases accepted
  | ok t =>
      have same := eq_filled_of_prepareSubscription prepared
      subst same
      cases present : Keyed.contains c.subscriptions ⟨s.space, s.filled.id⟩ with
      | true =>
          rw [seedSubscription_of_present prepared present]
          simpa [entryAt?, Keyed.contains] using present
      | false =>
          cases verdict : c.admitSubscription s.filled with
          | ok =>
              rw [seedSubscription_of_admitted prepared present verdict]
              simp [entryAt?]
          | error error =>
              rw [seedSubscription_of_kept_out prepared present verdict] at accepted
              cases accepted

/-- An entry that is not refused stands in its space. -/
theorem stands_of_accepted {entry : Entry} (accepted : (c.seedEntry entry).2 = []) :
    ((c.seedEntry entry).1.entryAt? ⟨entry.space, entry.name⟩).isSome = true := by
  cases entry with
  | eventType e => exact stands_of_accepted_eventType accepted
  | function f => exact stands_of_accepted_function accepted
  | subscription s => exact stands_of_accepted_subscription accepted

theorem extends_seedEntry (c : Catalog) (entry : Entry) : (c.seedEntry entry).1.Extends c := by
  cases entry with
  | eventType e => exact extends_seedEventType c e
  | function f => exact extends_seedFunction c f
  | subscription s => exact extends_seedSubscription c s

theorem extends_seedAll (entries : List Entry) (c : Catalog) :
    (seedAll seedEntry entries c).1.Extends c :=
  seedAll_keeps (fun d => d.Extends c) seedEntry
    (fun d entry grown => (extends_seedEntry d entry).trans grown) entries (extends_refl c)

end Accepted

/-- A seed puts the entries that are written without a space, each unless it is refused when its
turn comes, into a space. -/
def PutsUnscopedIn (space : String) (c : Catalog) (seed : Seed) (defaultSpace : String) : Prop :=
  ∀ before entry rest, seed.entries = before ++ entry :: rest → entry.space = "" →
    ((seedAll seedEntry (before.map (·.placed defaultSpace)) c).1.seedEntry
      (entry.placed defaultSpace)).2 = [] →
    ((c.seeded seed defaultSpace).entryAt? ⟨space, entry.name⟩).isSome = true

theorem putsUnscopedIn (c : Catalog) (seed : Seed) (defaultSpace : String) :
    PutsUnscopedIn defaultSpace c seed defaultSpace := by
  intro before entry rest split unscoped accepted
  rw [seeded, applySeed_eq, Seed.entries_placed, split, List.map_append, List.map_cons,
    seedAll_append, seedAll]
  generalize (seedAll seedEntry (before.map (·.placed defaultSpace)) c).1 = met at accepted ⊢
  have stands := stands_of_accepted accepted
  rw [Entry.space_placed, Entry.name_placed, unscoped] at stands
  exact (extends_seedAll _ _).isSome_entryAt? _ stands

section Elsewhere
variable {c d : Catalog} {other : String}

theorem exists_write_of_seedEntry (c : Catalog) (entry : Entry) :
    ∃ w : Write, w.address = ⟨entry.space, entry.name⟩ ∧
      (c.seedEntry entry).1 = c.apply w.operation := by
  cases entry with
  | eventType e =>
      refine ⟨.createEventType e, rfl, ?_⟩
      rw [seedEntry, seedEventType, absorb_fst]
      rfl
  | function f =>
      rw [seedEntry, seedFunction]
      split
      · refine ⟨.updateFunction f.space f.id f.provider, rfl, ?_⟩
        rw [absorb_fst]
        rfl
      · refine ⟨.registerFunction f, rfl, ?_⟩
        rw [absorb_fst]
        rfl
  | subscription s =>
      refine ⟨.createSubscription s, rfl, ?_⟩
      rw [seedEntry, seedSubscription, absorb_fst]
      rfl

theorem Reachable.seedEntry (reachable : Reachable c) (entry : Entry) :
    Reachable (c.seedEntry entry).1 := by
  obtain ⟨w, -, same⟩ := exists_write_of_seedEntry c entry
  rw [same]
  exact reachable.next w.operation

theorem sameEntries_seedEntry (reachable : Reachable c) {entry : Entry}
    (elsewhere : other ≠ entry.space) : SameEntries other c (c.seedEntry entry).1 := by
  obtain ⟨w, address, same⟩ := exists_write_of_seedEntry c entry
  rw [same]
  refine sameEntries_write reachable ?_
  rw [address]
  exact elsewhere

theorem SameEntries.symm (same : SameEntries other c d) : SameEntries other d c :=
  fun name => (same name).symm

theorem SameEntries.trans {e : Catalog} (early : SameEntries other c d)
    (late : SameEntries other d e) : SameEntries other c e :=
  fun name => (early name).trans (late name)

theorem SameEntries.seedEntry (same : SameEntries other c d) (reachable : Reachable c)
    (otherReachable : Reachable d) (entry : Entry) :
    SameEntries other (c.seedEntry entry).1 (d.seedEntry entry).1 := by
  by_cases elsewhere : other = entry.space
  · subst elsewhere
    cases entry with
    | eventType e =>
        simp only [Catalog.seedEntry, seedEventType, absorb_fst]
        exact same.write reachable otherReachable (w := .createEventType e) rfl
    | subscription s =>
        simp only [Catalog.seedEntry, seedSubscription, absorb_fst]
        exact same.write reachable otherReachable (w := .createSubscription s) rfl
    | function f =>
        simp only [Catalog.seedEntry]
        by_cases wellFormed : f.WellFormed
        · rw [seedFunction_of_wellFormed c wellFormed, seedFunction_of_wellFormed d wellFormed]
          have put (c : Catalog) :=
            entryAt?_of_functions fun key => Keyed.get?_insert c.functions ⟨f.space, f.id⟩ key f
          intro name
          rw [putFunction, putFunction, put, put, same name]
        · obtain ⟨error, refused⟩ := seedFunction_of_not_wellFormed c wellFormed
          obtain ⟨otherError, otherRefused⟩ := seedFunction_of_not_wellFormed d wellFormed
          rw [refused, otherRefused]
          exact same
  · exact (sameEntries_seedEntry reachable elsewhere).symm.trans
      (same.trans (sameEntries_seedEntry otherReachable elsewhere))

theorem SameEntries.seedAll_filter (same : SameEntries other c d) (reachable : Reachable c)
    (otherReachable : Reachable d) (defaultSpace : String) (kept : Entry → Bool)
    (entries : List Entry)
    (apart : ∀ entry ∈ entries, kept entry = false → other ≠ (entry.placed defaultSpace).space) :
    SameEntries other (seedAll Catalog.seedEntry (entries.map (·.placed defaultSpace)) c).1
      (seedAll Catalog.seedEntry ((entries.filter kept).map (·.placed defaultSpace)) d).1 := by
  induction entries generalizing c d with
  | nil => exact same
  | cons entry rest ih =>
      obtain ⟨here, others⟩ := List.forall_mem_cons.mp apart
      cases keeps : kept entry with
      | true =>
          simp only [List.filter_cons, keeps, ↓reduceIte, List.map_cons, seedAll]
          exact ih (same.seedEntry reachable otherReachable _) (reachable.seedEntry _)
            (otherReachable.seedEntry _) others
      | false =>
          simp only [List.filter_cons, keeps, Bool.false_eq_true, ↓reduceIte, List.map_cons,
            seedAll]
          have untouched := sameEntries_seedEntry reachable (here keeps)
          exact ih (untouched.symm.trans same) (reachable.seedEntry _) otherReachable others

/-- A seed leaves in every space but the default one what it would leave without the entries that
are written without a space. -/
theorem sameEntries_scoped (reachable : Reachable c) (seed : Seed) {defaultSpace : String}
    (elsewhere : other ≠ defaultSpace) :
    SameEntries other (c.seeded seed defaultSpace) (c.seeded seed.scoped defaultSpace) := by
  have same : SameEntries other c c := fun _ => rfl
  rw [seeded, seeded, applySeed_eq, applySeed_eq, Seed.entries_placed, Seed.entries_placed,
    Seed.entries_scoped]
  refine same.seedAll_filter reachable reachable defaultSpace _ seed.entries
    fun entry _ unscoped => ?_
  rw [Bool.not_eq_false'] at unscoped
  rwa [Entry.space_placed, spaceOr, if_pos unscoped]

end Elsewhere
end Catalog
end EventRelay
