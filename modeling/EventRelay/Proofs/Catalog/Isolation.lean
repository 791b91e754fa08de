import EventRelay.Proofs.Catalog.Writes

set_option autoImplicit false

/-!
Spaces know nothing of one another. What a space is asked and what is written there come out alike
in all catalogs that have the same entries in that space, and leave every other space as it was.
-/
namespace EventRelay.Catalog

def SameEntries (space : String) (c d : Catalog) : Prop :=
  ∀ name, c.entryAt? ⟨space, name⟩ = d.entryAt? ⟨space, name⟩

/-- Whatever a space is asked, two catalogs give the same answer. Of tables and conflicts the order
in which subscriptions are gone through leaves no trace. -/
structure AgreeOn (space : String) (c d : Catalog) : Prop where
  getEventType : ∀ type, c.getEventType space type = d.getEventType space type
  getFunction : ∀ id, c.getFunction space id = d.getFunction space id
  getSubscription : ∀ id, c.getSubscription space id = d.getSubscription space id
  listEventTypes : c.listEventTypes space = d.listEventTypes space
  listFunctions : c.listFunctions space = d.listFunctions space
  listSubscriptions : c.listSubscriptions space = d.listSubscriptions space
  subscribers : ∀ table other, c.Compiles table → d.Compiles other → ∀ path type,
    table.subscribers space path type = other.subscribers space path type
  syncTarget : ∀ table other, c.Compiles table → d.Compiles other → ∀ method path type,
    table.syncTarget space method path type = other.syncTarget space method path type
  pathConflict? : ∀ order others : List Subscription, order.Perm c.allSubscriptions →
    others.Perm d.allSubscriptions → ∀ candidate : Subscription, candidate.space = space →
      Subscription.pathConflict? order candidate = Subscription.pathConflict? others candidate

section Entries
variable {space : String} {c d : Catalog}

theorem SameEntries.eventTypes (same : SameEntries space c d) (type : EventType) :
    Keyed.get? c.eventTypes ⟨space, type⟩ = Keyed.get? d.eventTypes ⟨space, type⟩ :=
  Option.map_injective (fun _ _ equal => Entry.eventType.inj equal) (same (.eventType type))

theorem SameEntries.functions (same : SameEntries space c d) (id : FunctionId) :
    Keyed.get? c.functions ⟨space, id⟩ = Keyed.get? d.functions ⟨space, id⟩ :=
  Option.map_injective (fun _ _ equal => Entry.function.inj equal) (same (.function id))

theorem SameEntries.subscriptions (same : SameEntries space c d) (id : SubscriptionId) :
    Keyed.get? c.subscriptions ⟨space, id⟩ = Keyed.get? d.subscriptions ⟨space, id⟩ :=
  Option.map_injective (fun _ _ equal => Entry.subscription.inj equal) (same (.subscription id))

theorem SameEntries.contains_eventTypes (same : SameEntries space c d) (type : EventType) :
    Keyed.contains c.eventTypes ⟨space, type⟩ = Keyed.contains d.eventTypes ⟨space, type⟩ :=
  congrArg Option.isSome (same.eventTypes type)

theorem SameEntries.contains_functions (same : SameEntries space c d) (id : FunctionId) :
    Keyed.contains c.functions ⟨space, id⟩ = Keyed.contains d.functions ⟨space, id⟩ :=
  congrArg Option.isSome (same.functions id)

theorem SameEntries.contains_subscriptions (same : SameEntries space c d) (id : SubscriptionId) :
    Keyed.contains c.subscriptions ⟨space, id⟩ = Keyed.contains d.subscriptions ⟨space, id⟩ :=
  congrArg Option.isSome (same.subscriptions id)

theorem SameEntries.mem_allSubscriptions_iff (same : SameEntries space c d) (sound : c.Sound)
    (otherSound : d.Sound) {s : Subscription} (here : s.space = space) :
    s ∈ c.allSubscriptions ↔ s ∈ d.allSubscriptions := by
  rw [sound.mem_allSubscriptions_iff, otherSound.mem_allSubscriptions_iff, here, same]

theorem inSpace_eq {α β : Type} [DecidableEq α] [Ord α] [Std.LawfulEqOrd α] [Std.TransOrd α]
    {entries others : List (Scoped α × β)} (ascending : Keyed.Ascending entries)
    (otherAscending : Keyed.Ascending others)
    (same : ∀ name, Keyed.get? entries ⟨space, name⟩ = Keyed.get? others ⟨space, name⟩) :
    inSpace entries space = inSpace others space := by
  have filtered : entries.filter (·.1.space == space) = others.filter (·.1.space == space) := by
    refine (ascending.filter _).ext (otherAscending.filter _) fun key => ?_
    have first := Keyed.get?_filter (·.space == space) entries key
    have second := Keyed.get?_filter (·.space == space) others key
    rw [first, second]
    obtain ⟨keySpace, name⟩ := key
    by_cases here : keySpace = space
    · subst here
      simp [same]
    · simp [here]
  rw [inSpace, inSpace, filtered]

theorem SameEntries.agreeOn (same : SameEntries space c d) (reachable : Reachable c)
    (otherReachable : Reachable d) : AgreeOn space c d where
  getEventType type := by rw [Catalog.getEventType, Catalog.getEventType, same.eventTypes]
  getFunction id := by rw [Catalog.getFunction, Catalog.getFunction, same.functions]
  getSubscription id := by
    rw [Catalog.getSubscription, Catalog.getSubscription, same.subscriptions]
  listEventTypes :=
    inSpace_eq reachable.sound.eventTypes otherReachable.sound.eventTypes same.eventTypes
  listFunctions :=
    inSpace_eq reachable.sound.functions otherReachable.sound.functions same.functions
  listSubscriptions :=
    inSpace_eq reachable.sound.subscriptions otherReachable.sound.subscriptions same.subscriptions
  subscribers table other compiled otherCompiled path type := by
    refine subscribers_eq compiled otherCompiled fun s _ here _ _ => ?_
    exact same.mem_allSubscriptions_iff reachable.sound otherReachable.sound here
  syncTarget table other compiled otherCompiled method path type := by
    refine syncTarget_eq reachable otherReachable compiled otherCompiled fun s params answers => ?_
    have here : s.space = space := congrArg RoutingTable.SyncKey.space answers.2.1
    exact same.mem_allSubscriptions_iff reachable.sound otherReachable.sound here
  pathConflict? order others listed otherListed candidate here := by
    refine pathConflict?_eq reachable otherReachable listed otherListed fun t shares => ?_
    obtain ⟨-, there, -⟩ := (Subscription.sharesRoutes_iff t candidate).mp shares
    exact same.mem_allSubscriptions_iff reachable.sound otherReachable.sound (there.trans here)

theorem AgreeOn.sameEntries (agree : AgreeOn space c d) : SameEntries space c d := by
  have eventTypes : ∀ type,
      Keyed.get? c.eventTypes ⟨space, type⟩ = Keyed.get? d.eventTypes ⟨space, type⟩ := by
    intro type
    apply Option.ext
    intro entry
    rw [← getEventType_eq_ok_iff, ← getEventType_eq_ok_iff, agree.getEventType]
  have functions : ∀ id,
      Keyed.get? c.functions ⟨space, id⟩ = Keyed.get? d.functions ⟨space, id⟩ := by
    intro id
    apply Option.ext
    intro entry
    rw [← getFunction_eq_ok_iff, ← getFunction_eq_ok_iff, agree.getFunction]
  have subscriptions : ∀ id,
      Keyed.get? c.subscriptions ⟨space, id⟩ = Keyed.get? d.subscriptions ⟨space, id⟩ := by
    intro id
    apply Option.ext
    intro s
    rw [← getSubscription_eq_ok_iff, ← getSubscription_eq_ok_iff, agree.getSubscription]
  intro name
  cases name with
  | eventType type => exact congrArg (Option.map _) (eventTypes type)
  | function id => exact congrArg (Option.map _) (functions id)
  | subscription id => exact congrArg (Option.map _) (subscriptions id)

/-- All that a space can be asked tells its entries apart, and no more than them. -/
theorem agreeOn_iff_sameEntries (reachable : Reachable c) (otherReachable : Reachable d) :
    AgreeOn space c d ↔ SameEntries space c d :=
  ⟨AgreeOn.sameEntries, fun same => same.agreeOn reachable otherReachable⟩

end Entries

section Outcomes
variable {space : String} {c d : Catalog}

/-- What an outcome tells, apart from the catalog after it. -/
def verdict {α : Type} (outcome : Except CatalogError (α × Catalog)) : Except CatalogError α :=
  outcome.map Prod.fst

theorem verdict_bind {α β : Type} (first : Except CatalogError β)
    (next : β → Except CatalogError (α × Catalog)) :
    verdict (first.bind next) = first.bind fun value => verdict (next value) := by
  cases first <;> rfl

theorem verdict_check {α β : Type} (refused : Prop) [Decidable refused] (error : CatalogError)
    (skipped : β → Except CatalogError (α × Catalog)) (next : Except CatalogError (α × Catalog)) :
    verdict (if refused then (throw error : Except CatalogError β).bind skipped else next) =
      if refused then .error error else verdict next := by
  by_cases check : refused
  · simp only [check, ↓reduceIte]
    rfl
  · simp only [check, ↓reduceIte]

theorem verdict_pure {α : Type} (value : α) (after : Catalog) :
    verdict (pure (value, after)) = .ok value := rfl

theorem SameEntries.any_eq (same : SameEntries space c d) (sound : c.Sound) (otherSound : d.Sound)
    (test : Subscription → Bool) :
    c.allSubscriptions.any (fun s => s.space == space && test s) =
      d.allSubscriptions.any fun s => s.space == space && test s := by
  rw [Bool.eq_iff_iff, List.any_eq_true, List.any_eq_true]
  -- Whether `s` is stored comes out alike only for an `s` of the space; the test makes sure of it.
  refine exists_congr fun s => and_congr_left fun holds => ?_
  have here : s.space = space := beq_iff_eq.mp (Bool.and_eq_true_iff.mp holds).1
  exact same.mem_allSubscriptions_iff sound otherSound here

theorem SameEntries.verdict_createEventType (same : SameEntries space c d) (entry : EventTypeEntry)
    (here : entry.space = space) :
    verdict (c.createEventType entry) = verdict (d.createEventType entry) := by
  subst here
  unfold createEventType
  simp only [bind, verdict_bind, verdict_check, verdict_pure]
  rw [same.contains_eventTypes]

theorem SameEntries.verdict_deleteEventType (same : SameEntries space c d) (sound : c.Sound)
    (otherSound : d.Sound) (type : EventType) :
    verdict (c.deleteEventType space type) = verdict (d.deleteEventType space type) := by
  unfold deleteEventType getEventType
  simp only [bind, verdict_bind, verdict_check, verdict_pure]
  simp only [same.eventTypes, same.any_eq sound otherSound]

theorem SameEntries.verdict_registerFunction (same : SameEntries space c d) (entry : FunctionEntry)
    (here : entry.space = space) :
    verdict (c.registerFunction entry) = verdict (d.registerFunction entry) := by
  subst here
  unfold registerFunction
  simp only [bind, verdict_bind, verdict_check, verdict_pure]
  rw [same.contains_functions]

theorem SameEntries.verdict_updateFunction (same : SameEntries space c d) (id : FunctionId)
    (provider : Provider) :
    verdict (c.updateFunction space id provider) =
      verdict (d.updateFunction space id provider) := by
  unfold updateFunction
  simp only [bind, verdict_bind, verdict_check, verdict_pure]
  rw [same.contains_functions]

theorem SameEntries.verdict_deleteFunction (same : SameEntries space c d) (sound : c.Sound)
    (otherSound : d.Sound) (id : FunctionId) :
    verdict (c.deleteFunction space id) = verdict (d.deleteFunction space id) := by
  unfold deleteFunction getFunction
  simp only [bind, verdict_bind, verdict_check, verdict_pure]
  simp only [same.functions, same.any_eq sound otherSound]

theorem SameEntries.checkPath_eq (same : SameEntries space c d) (reachable : Reachable c)
    (otherReachable : Reachable d) {s : Subscription} (here : s.space = space) :
    c.checkPath s = d.checkPath s := by
  have agree := same.agreeOn reachable otherReachable
  have conflict := agree.pathConflict? _ _ (List.Perm.refl _) (List.Perm.refl _) s here
  rw [checkPath, checkPath, conflict]

theorem SameEntries.checkEventType_eq (same : SameEntries space c d) {s : Subscription}
    (here : s.space = space) : c.checkEventType s = d.checkEventType s := by
  subst here
  rw [checkEventType, checkEventType, getEventType, getEventType, same.eventTypes]

theorem SameEntries.verdict_createSubscription (same : SameEntries space c d)
    (reachable : Reachable c) (otherReachable : Reachable d) (s : Subscription)
    (here : s.space = space) :
    verdict (c.createSubscription s) = verdict (d.createSubscription s) := by
  unfold createSubscription
  simp only [bind, verdict_bind, verdict_check, verdict_pure]
  refine congrArg _ (funext fun _ => ?_)
  cases outcome : normalizeSubscription s with
  | error e => rfl
  | ok t =>
      -- The checks run on the normal form; normalizing leaves the space alone.
      have there : t.space = space := by
        rw [normalizeSubscription_eq_ok_iff] at outcome
        rw [(Subscription.normalized_eq_ok outcome).1, Subscription.filled_space, here]
      subst there
      simp only [Except.bind]
      rw [same.contains_subscriptions, same.checkPath_eq reachable otherReachable rfl,
        same.checkEventType_eq rfl]
      simp only [getFunction, same.functions]

theorem SameEntries.verdict_updateSubscription (same : SameEntries space c d) (id : SubscriptionId)
    (s : Subscription) :
    verdict (c.updateSubscription space id s) = verdict (d.updateSubscription space id s) := by
  unfold updateSubscription
  simp only [bind, verdict_bind, getSubscription, getFunction, same.subscriptions, same.functions]
  refine congrArg _ (funext fun t => congrArg _ (funext fun old => ?_))
  cases changedField? old t with
  | some field => rfl
  | none => simp only [verdict_bind, verdict_pure]

theorem SameEntries.verdict_deleteSubscription (same : SameEntries space c d)
    (id : SubscriptionId) :
    verdict (c.deleteSubscription space id) = verdict (d.deleteSubscription space id) := by
  unfold deleteSubscription
  simp only [bind, verdict_bind, verdict_pure, getSubscription, same.subscriptions]

theorem verdict_labelled {α : Type} (label : α → Option Entry)
    (outcome : Except CatalogError (α × Catalog)) :
    verdict (labelled label outcome) = (verdict outcome).map label := by
  cases outcome <;> rfl

/-- A write has the same verdict in both catalogs. -/
theorem SameEntries.verdict_write (same : SameEntries space c d) (reachable : Reachable c)
    (otherReachable : Reachable d) {w : Write} (here : w.address.space = space) :
    verdict (c.write w) = verdict (d.write w) := by
  have sound := reachable.sound
  have otherSound := otherReachable.sound
  subst here
  cases w with
  | createEventType entry =>
      simp only [write, verdict_labelled]
      exact congrArg _ (same.verdict_createEventType entry rfl)
  | deleteEventType space type =>
      simp only [write, verdict_labelled]
      exact congrArg _ (SameEntries.verdict_deleteEventType same sound otherSound type)
  | registerFunction entry =>
      simp only [write, verdict_labelled]
      exact congrArg _ (same.verdict_registerFunction entry rfl)
  | updateFunction space id provider =>
      simp only [write, verdict_labelled]
      exact congrArg _ (SameEntries.verdict_updateFunction same id provider)
  | deleteFunction space id =>
      simp only [write, verdict_labelled]
      exact congrArg _ (SameEntries.verdict_deleteFunction same sound otherSound id)
  | createSubscription s =>
      simp only [write, verdict_labelled]
      exact congrArg _ (same.verdict_createSubscription reachable otherReachable s rfl)
  | updateSubscription space id s =>
      simp only [write, verdict_labelled]
      exact congrArg _ (SameEntries.verdict_updateSubscription same id s)
  | deleteSubscription space id =>
      simp only [write, verdict_labelled]
      exact congrArg _ (SameEntries.verdict_deleteSubscription same id)

end Outcomes

section Afterwards
variable {space : String} {c d : Catalog} {w : Write}

theorem SameEntries.write (same : SameEntries space c d) (reachable : Reachable c)
    (otherReachable : Reachable d) (here : w.address.space = space) :
    SameEntries space (c.apply w.operation) (d.apply w.operation) := by
  have alike := same.verdict_write reachable otherReachable here
  rw [apply_operation, apply_operation]
  cases outcome : c.write w with
  | error e =>
      cases other : d.write w with
      | error f => exact same
      | ok success =>
          rw [outcome, other] at alike
          cases alike
  | ok success =>
      cases other : d.write w with
      | error f =>
          rw [outcome, other] at alike
          cases alike
      | ok otherSuccess =>
          obtain ⟨-, -, entries⟩ := entryAt?_write reachable.sound outcome
          obtain ⟨-, -, otherEntries⟩ := entryAt?_write otherReachable.sound other
          intro name
          rw [afterOutcome, afterOutcome, entries, otherEntries, same name]

theorem sameEntries_write (reachable : Reachable c) {other : String}
    (elsewhere : other ≠ w.address.space) : SameEntries other c (c.apply w.operation) := by
  rw [apply_operation]
  cases outcome : c.write w with
  | error e => exact fun name => rfl
  | ok success =>
      obtain ⟨-, -, entries⟩ := entryAt?_write reachable.sound outcome
      intro name
      have apart : w.address ≠ ⟨other, name⟩ := by
        intro there
        exact elsewhere (congrArg Scoped.space there).symm
      rw [afterOutcome, entries, if_neg apart]

end Afterwards
end EventRelay.Catalog
