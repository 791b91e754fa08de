import EventRelay.Proofs.Catalog.Writes

set_option autoImplicit false

/-!
The entries of a seed, one at a time. An entry takes nothing away, and is refused either for what it
is itself or for what the catalog lacks; what it lacks for a subscription, and the routes that stand
in its way, a growing set of subscriptions does not bring or remove.
-/
namespace EventRelay.Catalog

/-- Nothing was taken away: event types and subscriptions stand as they stood, and functions are
still there. -/
structure Extends (d c : Catalog) : Prop where
  eventTypes : ∀ key entry, Keyed.get? c.eventTypes key = some entry →
    Keyed.get? d.eventTypes key = some entry
  functions : ∀ key entry, Keyed.get? c.functions key = some entry →
    ∃ now, Keyed.get? d.functions key = some now
  subscriptions : ∀ key s, Keyed.get? c.subscriptions key = some s →
    Keyed.get? d.subscriptions key = some s

section Extends
variable {c d e : Catalog}

theorem extends_refl (c : Catalog) : c.Extends c where
  eventTypes _ _ found := found
  functions _ entry found := ⟨entry, found⟩
  subscriptions _ _ found := found

theorem Extends.trans (later : e.Extends d) (earlier : d.Extends c) : e.Extends c where
  eventTypes key entry found := later.eventTypes key entry (earlier.eventTypes key entry found)
  functions key entry found := by
    obtain ⟨now, there⟩ := earlier.functions key entry found
    exact later.functions key now there
  subscriptions key s found := later.subscriptions key s (earlier.subscriptions key s found)

theorem Extends.isSome_entryAt? (grown : d.Extends c) (address : Scoped EntryName)
    (stands : (c.entryAt? address).isSome = true) : (d.entryAt? address).isSome = true := by
  obtain ⟨space, name⟩ := address
  cases name with
  | eventType type =>
      simp only [entryAt?, Option.isSome_map, Option.isSome_iff_exists] at stands ⊢
      obtain ⟨entry, found⟩ := stands
      exact ⟨entry, grown.eventTypes _ entry found⟩
  | function id =>
      simp only [entryAt?, Option.isSome_map, Option.isSome_iff_exists] at stands ⊢
      obtain ⟨entry, found⟩ := stands
      exact grown.functions _ entry found
  | subscription id =>
      simp only [entryAt?, Option.isSome_map, Option.isSome_iff_exists] at stands ⊢
      obtain ⟨s, found⟩ := stands
      exact ⟨s, grown.subscriptions _ s found⟩

theorem get?_insert_of_absent {κ ν : Type} [DecidableEq κ] [Ord κ] {entries : List (κ × ν)}
    {key other : κ} {value found : ν} (absent : Keyed.get? entries key = none)
    (there : Keyed.get? entries other = some found) :
    Keyed.get? (Keyed.insert entries key value) other = some found := by
  have apart : key ≠ other := by
    rintro rfl
    rw [absent] at there
    cases there
  rw [Keyed.get?_insert, if_neg apart, there]

theorem extends_putFunction (c : Catalog) (entry : FunctionEntry) :
    (c.putFunction entry).Extends c where
  eventTypes _ _ found := found
  functions key old found := by
    by_cases same : (⟨entry.space, entry.id⟩ : Scoped FunctionId) = key
    · exact ⟨entry, by rw [putFunction, same, Keyed.get?_insert_self]⟩
    · exact ⟨old, by rw [putFunction, Keyed.get?_insert, if_neg same, found]⟩
  subscriptions _ _ found := found

theorem extends_afterOutcome {α : Type} {outcome : Except CatalogError (α × Catalog)}
    (grown : ∀ result after, outcome = .ok (result, after) → after.Extends c) :
    (c.afterOutcome outcome).Extends c := by
  cases outcome with
  | error error => exact extends_refl c
  | ok success => exact grown success.1 success.2 rfl

end Extends

section EventTypes
variable (c : Catalog) (entry : EventTypeEntry)

/-- What is checked of an event type before the catalog is looked at. -/
def checkEventTypeEntry (entry : EventTypeEntry) : Except CatalogError Unit := do
  validateSpace entry.space
  if entry.type.name.isEmpty then throw (.validation .noEventTypeName)
  if entry.type.isSystem then throw (.validation (.reservedEventType entry.type))

theorem createEventType_eq : c.createEventType entry =
    (checkEventTypeEntry entry).bind fun _ =>
      if Keyed.contains c.eventTypes ⟨entry.space, entry.type⟩ then
        .error (.eventTypeAlreadyExists entry.type)
      else
        .ok (entry, { c with
          eventTypes := Keyed.insert c.eventTypes ⟨entry.space, entry.type⟩ entry }) := by
  unfold createEventType checkEventTypeEntry
  cases validateSpace entry.space with
  | error error => rfl
  | ok =>
      by_cases unnamed : entry.type.name.isEmpty = true <;>
        by_cases system : entry.type.isSystem = true <;>
          by_cases present : Keyed.contains c.eventTypes ⟨entry.space, entry.type⟩ = true <;>
            simp [unnamed, system, present, bind, Except.bind, throw, throwThe,
              MonadExceptOf.throw, pure, Except.pure]

theorem extends_seedEventType : (c.seedEventType entry).1.Extends c := by
  rw [seedEventType, absorb_fst]
  refine extends_afterOutcome fun result after ok => ?_
  obtain ⟨-, -, -, absent, -, rfl⟩ := (createEventType_eq_ok_iff ..).mp ok
  refine ⟨fun key old found => ?_, fun _ old found => ⟨old, found⟩, fun _ _ found => found⟩
  exact get?_insert_of_absent absent found

theorem stands_seedEventType (passed : checkEventTypeEntry entry = .ok ()) :
    Keyed.contains (c.seedEventType entry).1.eventTypes ⟨entry.space, entry.type⟩ = true := by
  by_cases present : Keyed.contains c.eventTypes ⟨entry.space, entry.type⟩ = true
  · simp [seedEventType, createEventType_eq, passed, present, Except.bind, absorb]
  · rw [Keyed.contains_eq_true_iff]
    simp [seedEventType, createEventType_eq, passed, present, Except.bind, absorb]

theorem settles_seedEventType {c d : Catalog} {entry : EventTypeEntry}
    (later : d.Extends (c.seedEventType entry).1) :
    (d.seedEventType entry).1 = d ∧
      ((c.seedEventType entry).2 = [] → (d.seedEventType entry).2 = []) := by
  cases passed : checkEventTypeEntry entry with
  | error error =>
      simp only [seedEventType, createEventType_eq, passed, Except.bind, absorb]
      exact ⟨trivial, id⟩
  | ok =>
      have present : Keyed.contains d.eventTypes ⟨entry.space, entry.type⟩ = true := by
        obtain ⟨old, found⟩ :=
          (Keyed.contains_eq_true_iff ..).mp (stands_seedEventType c entry passed)
        exact (Keyed.contains_eq_true_iff ..).mpr ⟨old, later.eventTypes _ old found⟩
      simp [seedEventType, createEventType_eq, passed, present, Except.bind, absorb]

end EventTypes

section Functions
variable (c : Catalog) {f : FunctionEntry}

theorem seedFunction_of_wellFormed (wellFormed : f.WellFormed) :
    c.seedFunction f = (c.putFunction f, []) := by
  have passed := (validateFunction_eq_ok_iff f ()).mpr wellFormed
  by_cases present : Keyed.contains c.functions ⟨f.space, f.id⟩ = true
  · simp [seedFunction, registerFunction, updateFunction, passed, present, bind, Except.bind, throw,
      throwThe, MonadExceptOf.throw, pure, Except.pure, absorb]
  · simp [seedFunction, registerFunction, passed, present, bind, Except.bind, pure, Except.pure,
      absorb]

theorem seedFunction_of_error {error : CatalogError} (refused : validateFunction f = .error error) :
    c.seedFunction f = (c, [error]) := by
  unfold seedFunction
  split
  · simp [updateFunction, refused, bind, Except.bind, absorb]
  · simp [registerFunction, refused, bind, Except.bind, absorb]

theorem seedFunction_of_not_wellFormed (ill : ¬ f.WellFormed) :
    ∃ error, c.seedFunction f = (c, [error]) := by
  cases outcome : validateFunction f with
  | ok => exact absurd ((validateFunction_eq_ok_iff f _).mp outcome) ill
  | error error => exact ⟨error, seedFunction_of_error c outcome⟩

theorem seedFunction_snd_eq (d : Catalog) (f : FunctionEntry) :
    (c.seedFunction f).2 = (d.seedFunction f).2 := by
  cases outcome : validateFunction f with
  | ok =>
      have wellFormed := (validateFunction_eq_ok_iff f _).mp outcome
      rw [seedFunction_of_wellFormed c wellFormed, seedFunction_of_wellFormed d wellFormed]
  | error error => rw [seedFunction_of_error c outcome, seedFunction_of_error d outcome]

theorem extends_seedFunction (f : FunctionEntry) : (c.seedFunction f).1.Extends c := by
  by_cases wellFormed : f.WellFormed
  · rw [seedFunction_of_wellFormed c wellFormed]
    exact extends_putFunction c f
  · obtain ⟨error, same⟩ := seedFunction_of_not_wellFormed c wellFormed
    rw [same]
    exact extends_refl c

theorem seedFunction_frame (f : FunctionEntry) :
    (c.seedFunction f).1.eventTypes = c.eventTypes ∧
      (c.seedFunction f).1.subscriptions = c.subscriptions ∧
      ∀ key, ¬ (f.WellFormed ∧ ⟨f.space, f.id⟩ = key) →
        Keyed.get? (c.seedFunction f).1.functions key = Keyed.get? c.functions key := by
  by_cases wellFormed : f.WellFormed
  · rw [seedFunction_of_wellFormed c wellFormed]
    refine ⟨rfl, rfl, fun key apart => ?_⟩
    rw [putFunction, Keyed.get?_insert, if_neg fun same => apart ⟨wellFormed, same⟩]
  · obtain ⟨error, same⟩ := seedFunction_of_not_wellFormed c wellFormed
    rw [same]
    exact ⟨rfl, rfl, fun _ _ => rfl⟩

end Functions

section Subscriptions
variable {c d : Catalog} {s t : Subscription}

/-- A new route has no conflict exactly when its own wildcard is last and each route of its tree is
compatible with it; those have none among themselves. -/
theorem Reachable.pathConflict?_eq_none_iff (reachable : Reachable c) (candidate : Subscription) :
    Subscription.pathConflict? c.allSubscriptions candidate = none ↔
      Route.WildcardLast candidate.route ∧ ∀ t ∈ c.allSubscriptions, t.sharesRoutes candidate →
        Route.Compatible t.route candidate.route := by
  have joined := reachable.addRoutes_eq_none (List.Perm.refl _) candidate
  obtain ⟨each, pairs⟩ :=
    (Subscription.addRoutes_eq_none_iff _ Route.Tree.tight_empty).mp joined
  rw [Subscription.pathConflict?_eq_none_iff]
  constructor
  · rintro ⟨-, -, own, compatible⟩
    exact ⟨own, compatible⟩
  · rintro ⟨own, compatible⟩
    refine ⟨fun t member shares => ?_, pairs, own, compatible⟩
    exact (each t (List.mem_filter.mpr ⟨member, shares⟩)).1

theorem Extends.mem_allSubscriptions (later : d.Extends c) (sound : c.Sound)
    (member : s ∈ c.allSubscriptions) : s ∈ d.allSubscriptions := by
  obtain ⟨⟨key, t⟩, listed, rfl⟩ := List.mem_map.mp member
  have found := sound.subscriptions.get?_of_mem listed
  exact Catalog.mem_allSubscriptions (Keyed.mem_of_get? (later.subscriptions key t found))

/-- A conflict never goes away while nothing is taken away. -/
theorem Extends.pathConflict?_eq_none (later : d.Extends c) (reachable : Reachable c)
    (laterReachable : Reachable d)
    (free : Subscription.pathConflict? d.allSubscriptions t = none) :
    Subscription.pathConflict? c.allSubscriptions t = none := by
  rw [laterReachable.pathConflict?_eq_none_iff] at free
  rw [reachable.pathConflict?_eq_none_iff]
  refine ⟨free.1, fun s member shares => ?_⟩
  exact free.2 s (later.mem_allSubscriptions reachable.sound member) shares

/-- A subscription as it would be stored, by what it is itself. -/
def prepareSubscription (s : Subscription) : Except CatalogError Subscription := do
  validateSpace s.space
  normalizeSubscription s

/-- Whether a new subscription finds what it needs in a catalog. -/
def admitSubscription (c : Catalog) (s : Subscription) : Except CatalogError Unit := do
  c.checkPath s
  c.checkEventType s
  let _ ← c.getFunction s.space s.functionId

theorem createSubscription_eq (c : Catalog) (s : Subscription) : c.createSubscription s =
    (prepareSubscription s).bind fun t =>
      if Keyed.contains c.subscriptions ⟨t.space, t.id⟩ then
        .error (.subscriptionAlreadyExists t.id)
      else (c.admitSubscription t).bind fun _ =>
        .ok (t, { c with subscriptions := Keyed.insert c.subscriptions ⟨t.space, t.id⟩ t }) := by
  unfold createSubscription prepareSubscription admitSubscription
  cases validateSpace s.space with
  | error error => rfl
  | ok =>
      cases normalizeSubscription s with
      | error error => rfl
      | ok t =>
          by_cases present : Keyed.contains c.subscriptions ⟨t.space, t.id⟩ = true
          · simp [present, bind, Except.bind, throw, throwThe, MonadExceptOf.throw]
          · simp only [present, bind, Except.bind, Bool.false_eq_true, ↓reduceIte]
            cases c.checkPath t with
            | error error => rfl
            | ok =>
                cases c.checkEventType t with
                | error error => rfl
                | ok => cases c.getFunction t.space t.functionId <;> rfl

theorem admitSubscription_eq_ok_iff (c : Catalog) (t : Subscription) (u : Unit) :
    c.admitSubscription t = .ok u ↔
      (t.kind = .sync → Subscription.pathConflict? c.allSubscriptions t = none) ∧
        c.KnowsType t ∧ c.KnowsFunction t := by
  unfold admitSubscription
  simp only [bind_eq_ok_iff, bind, checkPath_eq_ok_iff, checkEventType_eq_ok_iff,
    getFunction_eq_ok_iff, pure_eq_ok_iff, exists_const, KnowsFunction]
  simp

/-- What keeps a subscription out is never that it is there already. -/
theorem admitSubscription_ne_exists (c : Catalog) (t : Subscription) (id : SubscriptionId) :
    c.admitSubscription t ≠ .error (.subscriptionAlreadyExists id) := by
  intro refused
  simp only [admitSubscription, bind, Except.bind] at refused
  split at refused
  · rename_i error blocked
    cases refused
    unfold checkPath at blocked
    split at blocked
    · cases blocked
    · split at blocked <;> cases blocked
  · split at refused
    · rename_i error unknown
      cases refused
      unfold checkEventType getEventType at unknown
      split at unknown
      · cases unknown
      · split at unknown <;> cases unknown
    · split at refused
      · rename_i error missing
        cases refused
        unfold getFunction at missing
        split at missing <;> cases missing
      · cases refused

section Seeding

theorem seedSubscription_of_error {error : CatalogError}
    (refused : prepareSubscription s = .error error) (c d : Catalog) :
    (c.seedSubscription s).1 = c ∧ (c.seedSubscription s).2 = (d.seedSubscription s).2 := by
  simp only [seedSubscription, createSubscription_eq, refused, Except.bind, absorb]
  exact ⟨trivial, trivial⟩

theorem seedSubscription_of_present (prepared : prepareSubscription s = .ok t)
    (present : Keyed.contains c.subscriptions ⟨t.space, t.id⟩ = true) :
    c.seedSubscription s = (c, []) := by
  simp [seedSubscription, createSubscription_eq, prepared, present, Except.bind, absorb]

theorem seedSubscription_of_admitted (prepared : prepareSubscription s = .ok t)
    (absent : Keyed.contains c.subscriptions ⟨t.space, t.id⟩ = false)
    (admitted : c.admitSubscription t = .ok ()) :
    c.seedSubscription s =
      ({ c with subscriptions := Keyed.insert c.subscriptions ⟨t.space, t.id⟩ t }, []) := by
  simp [seedSubscription, createSubscription_eq, prepared, absent, admitted, Except.bind, absorb]

theorem seedSubscription_of_kept_out (prepared : prepareSubscription s = .ok t)
    (absent : Keyed.contains c.subscriptions ⟨t.space, t.id⟩ = false) {error : CatalogError}
    (refused : c.admitSubscription t = .error error) :
    c.seedSubscription s = (c, [error]) := by
  have other : ∀ id, error ≠ .subscriptionAlreadyExists id := by
    rintro id rfl
    exact admitSubscription_ne_exists c t id refused
  -- so the error is not the one that is passed over
  simp only [seedSubscription, createSubscription_eq, prepared, absent, refused, Except.bind,
    absorb, Bool.false_eq_true, ↓reduceIte]

theorem extends_seedSubscription (c : Catalog) (s : Subscription) :
    (c.seedSubscription s).1.Extends c := by
  rw [seedSubscription, absorb_fst]
  refine extends_afterOutcome fun result after ok => ?_
  obtain ⟨-, -, absent, -, -, -, rfl⟩ := (createSubscription_eq_ok_iff ..).mp ok
  refine ⟨fun _ _ found => found, fun _ entry found => ⟨entry, found⟩, fun key old found => ?_⟩
  exact get?_insert_of_absent absent found

theorem seedSubscription_frame (c : Catalog) (s : Subscription) :
    (c.seedSubscription s).1.eventTypes = c.eventTypes ∧
      (c.seedSubscription s).1.functions = c.functions := by
  rw [seedSubscription, absorb_fst]
  cases outcome : c.createSubscription s with
  | error error => exact ⟨rfl, rfl⟩
  | ok success =>
      obtain ⟨-, -, -, -, -, -, same⟩ := (createSubscription_eq_ok_iff ..).mp outcome
      rw [afterOutcome, ← same]
      exact ⟨rfl, rfl⟩

/-- What a later catalog with the same event types and functions lets in, an earlier one lets in. -/
theorem Extends.admitSubscription_eq_ok (later : d.Extends c) (reachable : Reachable c)
    (laterReachable : Reachable d) (types : d.eventTypes = c.eventTypes)
    (functions : d.functions = c.functions) (admitted : d.admitSubscription t = .ok ()) :
    c.admitSubscription t = .ok () := by
  obtain ⟨free, type, function⟩ := (admitSubscription_eq_ok_iff ..).mp admitted
  unfold KnowsType at type
  unfold KnowsFunction at function
  rw [types] at type
  rw [functions] at function
  refine (admitSubscription_eq_ok_iff ..).mpr ⟨fun sync => ?_, type, function⟩
  exact later.pathConflict?_eq_none reachable laterReachable (free sync)

/-- What was done for a subscription need not be done again, and cannot be done later. -/
theorem settles_seedSubscription (reachable : Reachable c) (laterReachable : Reachable d)
    (later : d.Extends (c.seedSubscription s).1) (types : d.eventTypes = c.eventTypes)
    (functions : d.functions = c.functions) :
    (d.seedSubscription s).1 = d ∧
      ((c.seedSubscription s).2 = [] → (d.seedSubscription s).2 = []) := by
  cases prepared : prepareSubscription s with
  | error error =>
      obtain ⟨kept, same⟩ := seedSubscription_of_error prepared d c
      exact ⟨kept, fun accepted => same.trans accepted⟩
  | ok t =>
      cases present : Keyed.contains d.subscriptions ⟨t.space, t.id⟩ with
      | true =>
          rw [seedSubscription_of_present prepared present]
          exact ⟨rfl, fun _ => rfl⟩
      | false =>
          -- it was not there earlier, and was kept out, or it would be there now
          have before := later.trans (extends_seedSubscription c s)
          have lacking : ∀ earlier : Catalog, d.Extends earlier →
              Keyed.contains earlier.subscriptions ⟨t.space, t.id⟩ = false := by
            intro earlier grown
            rw [Keyed.contains_eq_false_iff] at present ⊢
            cases found : Keyed.get? earlier.subscriptions ⟨t.space, t.id⟩ with
            | none => rfl
            | some old => rw [grown.subscriptions _ old found] at present; cases present
          have absent := lacking c before
          have keptOut : ∀ u, c.admitSubscription t ≠ .ok u := by
            intro u admitted
            have still := lacking _ later
            rw [seedSubscription_of_admitted prepared absent admitted, Keyed.contains_eq_false_iff,
              Keyed.get?_insert_self] at still
            cases still
          cases verdict : c.admitSubscription t with
          | ok u => exact absurd verdict (keptOut u)
          | error error =>
              rw [seedSubscription_of_kept_out prepared absent verdict]
              cases now : d.admitSubscription t with
              | ok u =>
                  have earlier := before.admitSubscription_eq_ok reachable laterReachable types
                    functions now
                  exact absurd earlier (keptOut ())
              | error later =>
                  rw [seedSubscription_of_kept_out prepared present now]
                  refine ⟨rfl, fun accepted => ?_⟩
                  cases accepted

end Seeding
end Subscriptions

end EventRelay.Catalog
