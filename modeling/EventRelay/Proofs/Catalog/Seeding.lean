import EventRelay.Proofs.Catalog.SeedSteps

set_option autoImplicit false

/-!
Seeding takes nothing away, and to seed again changes nothing. The second time the same entries meet
a larger catalog: event types and subscriptions that were let in are there already, those that were
kept out are kept out again, and functions get the providers that they have.
-/
namespace EventRelay

def Seed.placed (seed : Seed) (defaultSpace : String) : Seed where
  eventTypes := seed.eventTypes.map fun e =>
    { e with space := Catalog.spaceOr defaultSpace e.space }
  functions := seed.functions.map fun f =>
    { f with space := Catalog.spaceOr defaultSpace f.space }
  subscriptions := seed.subscriptions.map fun s =>
    { s with space := Catalog.spaceOr defaultSpace s.space }

namespace Catalog

section Entries
variable {α : Type}

/-- The errors of each entry, when entries are registered in order. -/
def refusals (step : Catalog → α → Catalog × List CatalogError) :
    List α → Catalog → List (List CatalogError)
  | [], _ => []
  | entry :: rest, c => (step c entry).2 :: refusals step rest (step c entry).1

variable (step : Catalog → α → Catalog × List CatalogError)

theorem flatten_refusals (entries : List α) (c : Catalog) :
    (refusals step entries c).flatten = (seedAll step entries c).2 := by
  induction entries generalizing c with
  | nil => rfl
  | cons entry rest ih => rw [refusals, List.flatten_cons, ih, seedAll]

theorem seedAll_append (first second : List α) (c : Catalog) :
    (seedAll step (first ++ second) c).1 = (seedAll step second (seedAll step first c).1).1 := by
  induction first generalizing c with
  | nil => rfl
  | cons entry rest ih => exact ih _

def AcceptsAgain (first second : List (List CatalogError)) : Prop :=
  List.Forall₂ (fun before now => before = [] → now = []) first second

variable {step} (inv : Catalog → Prop) (Later : Catalog → Catalog → Prop)

/-- If each entry, registered again later, changes nothing and is refused only if it was, the same
goes for all of them. A later catalog is one that comes after all entries, and so after each. -/
theorem seedAll_settled (goes : ∀ c entry, inv c → inv (step c entry).1)
    (back : ∀ c d entry, Later (step c entry).1 d → Later c d)
    (settles : ∀ c d entry, inv c → Later (step c entry).1 d →
      (step d entry).1 = d ∧ ((step c entry).2 = [] → (step d entry).2 = []))
    {entries : List α} {c d : Catalog} (holds : inv c)
    (later : Later (seedAll step entries c).1 d) :
    (seedAll step entries d).1 = d ∧
      AcceptsAgain (refusals step entries c) (refusals step entries d) := by
  have backAll : ∀ (entries : List α) (c : Catalog),
      Later (seedAll step entries c).1 d → Later c d := by
    intro entries
    induction entries with
    | nil => exact fun c later => later
    | cons entry rest ih => exact fun c later => back c d entry (ih _ later)
  induction entries generalizing c with
  | nil => exact ⟨rfl, .nil⟩
  | cons entry rest ih =>
      obtain ⟨same, verdict⟩ := settles c d entry holds (backAll rest _ later)
      obtain ⟨sameRest, verdicts⟩ := ih (goes c entry holds) later
      have whole : (seedAll step (entry :: rest) d).1 = (seedAll step rest (step d entry).1).1 :=
        rfl
      rw [whole, refusals, refusals, same]
      exact ⟨sameRest, .cons verdict verdicts⟩

end Entries

section Functions
variable {c d : Catalog} {entries : List FunctionEntry}

theorem seedAll_functions_frame (c : Catalog) (entries : List FunctionEntry) :
    (seedAll seedFunction entries c).1.eventTypes = c.eventTypes ∧
      (seedAll seedFunction entries c).1.subscriptions = c.subscriptions ∧
      ∀ key, (∀ f ∈ entries, ¬ (f.WellFormed ∧ ⟨f.space, f.id⟩ = key)) →
        Keyed.get? (seedAll seedFunction entries c).1.functions key =
          Keyed.get? c.functions key := by
  induction entries generalizing c with
  | nil => exact ⟨rfl, rfl, fun _ _ => rfl⟩
  | cons f rest ih =>
      obtain ⟨types, subscriptions, others⟩ := seedFunction_frame c f
      obtain ⟨restTypes, restSubscriptions, restOthers⟩ := ih (c.seedFunction f).1
      refine ⟨restTypes.trans types, restSubscriptions.trans subscriptions, fun key apart => ?_⟩
      have first := apart f List.mem_cons_self
      exact (restOthers key fun g member => apart g (List.mem_cons_of_mem _ member)).trans
        (others key first)

/-- Of the well-formed functions of one name the last one counts. -/
theorem get?_seedAll_functions (c : Catalog) {before after : List FunctionEntry}
    {f : FunctionEntry} (wellFormed : f.WellFormed)
    (last : ∀ g ∈ after, g.WellFormed → ¬ (g.space = f.space ∧ g.id = f.id)) :
    Keyed.get? (seedAll seedFunction (before ++ f :: after) c).1.functions ⟨f.space, f.id⟩ =
      some f := by
  rw [seedAll_append, seedAll, seedFunction_of_wellFormed _ wellFormed]
  obtain ⟨-, -, others⟩ := seedAll_functions_frame
    ((seedAll seedFunction before c).1.putFunction f) after
  rw [others, putFunction, Keyed.get?_insert_self]
  rintro g member ⟨well, same⟩
  obtain ⟨space, id⟩ := Scoped.mk.inj same
  exact last g member well ⟨space, id⟩

/-- Where something in a list has a property, there is a last one that has it. -/
theorem exists_last {α : Type} {p : α → Prop} {l : List α} (some : ∃ x ∈ l, p x) :
    ∃ before x after, l = before ++ x :: after ∧ p x ∧ ∀ y ∈ after, ¬ p y := by
  induction l with
  | nil =>
      obtain ⟨x, member, -⟩ := some
      cases member
  | cons first rest ih =>
      by_cases later : ∃ x ∈ rest, p x
      · obtain ⟨before, x, after, rfl, holds, last⟩ := ih later
        exact ⟨first :: before, x, after, rfl, holds, last⟩
      · have none : ∀ y ∈ rest, ¬ p y := fun y member holds => later ⟨y, member, holds⟩
        obtain ⟨x, member, holds⟩ := some
        rcases List.mem_cons.mp member with rfl | there
        · exact ⟨[], x, rest, rfl, holds, none⟩
        · exact absurd holds (none x there)

theorem eq_of_entries (types : c.eventTypes = d.eventTypes) (functions : c.functions = d.functions)
    (subscriptions : c.subscriptions = d.subscriptions) : c = d := by
  cases c
  cases d
  cases types
  cases functions
  cases subscriptions
  rfl

/-- Where functions already are what the entries make of them, the entries change nothing. -/
theorem seedAll_functions_settled (sound : d.Sound)
    (same : d.functions = (seedAll seedFunction entries c).1.functions) :
    (seedAll seedFunction entries d).1 = d := by
  obtain ⟨types, subscriptions, others⟩ := seedAll_functions_frame d entries
  obtain ⟨-, -, earlierOthers⟩ := seedAll_functions_frame c entries
  have kept : Sound (seedAll seedFunction entries d).1 :=
    seedAll_keeps Sound seedFunction (fun _ entry before => sound_kept.seedFunction before entry)
      entries sound
  have functions : (seedAll seedFunction entries d).1.functions = d.functions := by
    refine kept.functions.ext sound.functions fun key => ?_
    by_cases named : ∃ f ∈ entries, f.WellFormed ∧ (⟨f.space, f.id⟩ : Scoped FunctionId) = key
    · obtain ⟨before, f, after, rfl, ⟨wellFormed, rfl⟩, last⟩ := exists_last named
      have lastOne : ∀ g ∈ after, g.WellFormed → ¬ (g.space = f.space ∧ g.id = f.id) := by
        rintro g member well ⟨space, id⟩
        exact last g member ⟨well, by rw [space, id]⟩
      rw [get?_seedAll_functions d wellFormed lastOne, same,
        get?_seedAll_functions c wellFormed lastOne]
    · exact others key fun f member holds => named ⟨f, member, holds⟩
  exact eq_of_entries types functions subscriptions

theorem accepts_functions_again (entries : List FunctionEntry) (c d : Catalog) :
    AcceptsAgain (refusals seedFunction entries c) (refusals seedFunction entries d) := by
  induction entries generalizing c d with
  | nil => exact .nil
  | cons f rest ih =>
      refine .cons ?_ (ih _ _)
      rw [seedFunction_snd_eq c d f]
      exact id

end Functions

section Seeds
variable (c : Catalog) (seed : Seed) (defaultSpace : String)

def seeded : Catalog := (c.applySeed seed defaultSpace).1

def withEventTypes : Catalog := (seedAll seedEventType (seed.placed defaultSpace).eventTypes c).1

def withFunctions : Catalog :=
  (seedAll seedFunction (seed.placed defaultSpace).functions
    (c.withEventTypes seed defaultSpace)).1

/-- The errors of each entry of a seed: of event types, of functions, of subscriptions. -/
def seedRefusals : List (List CatalogError) :=
  refusals seedEventType (seed.placed defaultSpace).eventTypes c ++
    refusals seedFunction (seed.placed defaultSpace).functions
      (c.withEventTypes seed defaultSpace) ++
    refusals seedSubscription (seed.placed defaultSpace).subscriptions
      (c.withFunctions seed defaultSpace)

theorem seeded_eq : c.seeded seed defaultSpace =
    (seedAll seedSubscription (seed.placed defaultSpace).subscriptions
      (c.withFunctions seed defaultSpace)).1 := rfl

/-- The errors of all entries together are those that a seed gives. -/
theorem flatten_seedRefusals :
    (c.seedRefusals seed defaultSpace).flatten = (c.applySeed seed defaultSpace).2 := by
  rw [seedRefusals, List.flatten_append, List.flatten_append, flatten_refusals, flatten_refusals,
    flatten_refusals]
  rfl

theorem extends_withEventTypes : (c.withEventTypes seed defaultSpace).Extends c :=
  seedAll_keeps (fun d => d.Extends c) seedEventType
    (fun d entry grown => (extends_seedEventType d entry).trans grown) _ (extends_refl c)

theorem extends_withFunctions :
    (c.withFunctions seed defaultSpace).Extends (c.withEventTypes seed defaultSpace) :=
  seedAll_keeps (fun d => d.Extends _) seedFunction
    (fun d f grown => (extends_seedFunction d f).trans grown) _ (extends_refl _)

theorem extends_seeded_withFunctions :
    (c.seeded seed defaultSpace).Extends (c.withFunctions seed defaultSpace) :=
  seedAll_keeps (fun d => d.Extends _) seedSubscription
    (fun d s grown => (extends_seedSubscription d s).trans grown) _ (extends_refl _)

theorem extends_seeded : (c.seeded seed defaultSpace).Extends c := by
  have first := c.extends_withEventTypes seed defaultSpace
  have second := c.extends_withFunctions seed defaultSpace
  exact (c.extends_seeded_withFunctions seed defaultSpace).trans (second.trans first)

theorem seeded_frame :
    (c.seeded seed defaultSpace).eventTypes = (c.withFunctions seed defaultSpace).eventTypes ∧
      (c.seeded seed defaultSpace).functions = (c.withFunctions seed defaultSpace).functions := by
  refine seedAll_keeps (fun d => d.eventTypes = (c.withFunctions seed defaultSpace).eventTypes ∧
    d.functions = (c.withFunctions seed defaultSpace).functions) seedSubscription ?_ _ ⟨rfl, rfl⟩
  rintro d s ⟨types, functions⟩
  obtain ⟨sameTypes, sameFunctions⟩ := seedSubscription_frame d s
  exact ⟨sameTypes.trans types, sameFunctions.trans functions⟩

end Seeds

section Reachable
variable {c : Catalog} (seed : Seed) (defaultSpace : String)

theorem Reachable.seedSubscription (reachable : Reachable c) (s : Subscription) :
    Reachable (c.seedSubscription s).1 := by
  rw [Catalog.seedSubscription, absorb_fst]
  exact reachable.next (.createSubscription s)

theorem Reachable.withFunctions (reachable : Reachable c) :
    Reachable (c.withFunctions seed defaultSpace) :=
  reachable.next (.applySeed ⟨seed.eventTypes, seed.functions, []⟩ defaultSpace)

theorem Reachable.seeded (reachable : Reachable c) : Reachable (c.seeded seed defaultSpace) :=
  reachable.next (.applySeed seed defaultSpace)

theorem eventTypes_settled :
    (c.seeded seed defaultSpace).withEventTypes seed defaultSpace = c.seeded seed defaultSpace ∧
      AcceptsAgain (refusals seedEventType (seed.placed defaultSpace).eventTypes c)
        (refusals seedEventType (seed.placed defaultSpace).eventTypes
          (c.seeded seed defaultSpace)) := by
  have later := (c.extends_seeded_withFunctions seed defaultSpace).trans
    (c.extends_withFunctions seed defaultSpace)
  refine seedAll_settled (fun _ => True) (fun c d => d.Extends c) (fun _ _ _ => trivial)
    ?_ ?_ trivial later
  · exact fun c d entry later => later.trans (extends_seedEventType c entry)
  · exact fun c d entry _ later => settles_seedEventType later

theorem functions_settled (reachable : Reachable c) :
    (c.seeded seed defaultSpace).withFunctions seed defaultSpace = c.seeded seed defaultSpace := by
  have same : (c.seeded seed defaultSpace).functions = (seedAll seedFunction
      (seed.placed defaultSpace).functions (c.withEventTypes seed defaultSpace)).1.functions :=
    (c.seeded_frame seed defaultSpace).2
  rw [withFunctions, (eventTypes_settled seed defaultSpace).1]
  exact seedAll_functions_settled (reachable.seeded seed defaultSpace).sound same

theorem subscriptions_settled (reachable : Reachable c) :
    (seedAll seedSubscription (seed.placed defaultSpace).subscriptions
        (c.seeded seed defaultSpace)).1 = c.seeded seed defaultSpace ∧
      AcceptsAgain (refusals seedSubscription (seed.placed defaultSpace).subscriptions
          (c.withFunctions seed defaultSpace))
        (refusals seedSubscription (seed.placed defaultSpace).subscriptions
          (c.seeded seed defaultSpace)) := by
  refine seedAll_settled Reachable (fun c d => Reachable d ∧ d.Extends c ∧
    d.eventTypes = c.eventTypes ∧ d.functions = c.functions)
    (fun c s reachable => reachable.seedSubscription s) ?_ ?_ (reachable.withFunctions seed _)
    ⟨reachable.seeded seed defaultSpace, extends_refl _, rfl, rfl⟩
  · rintro c d s ⟨laterReachable, grown, types, functions⟩
    obtain ⟨sameTypes, sameFunctions⟩ := seedSubscription_frame c s
    exact ⟨laterReachable, grown.trans (extends_seedSubscription c s), types.trans sameTypes,
      functions.trans sameFunctions⟩
  · rintro c d s reachable ⟨laterReachable, grown, types, functions⟩
    obtain ⟨sameTypes, sameFunctions⟩ := seedSubscription_frame c s
    exact settles_seedSubscription reachable laterReachable grown (types.trans sameTypes)
      (functions.trans sameFunctions)

theorem seeded_again (reachable : Reachable c) :
    (c.seeded seed defaultSpace).seeded seed defaultSpace = c.seeded seed defaultSpace ∧
      AcceptsAgain (c.seedRefusals seed defaultSpace)
        ((c.seeded seed defaultSpace).seedRefusals seed defaultSpace) := by
  obtain ⟨types, typesAgain⟩ := eventTypes_settled (c := c) seed defaultSpace
  have functions := functions_settled seed defaultSpace reachable
  obtain ⟨subscriptions, subscriptionsAgain⟩ := subscriptions_settled seed defaultSpace reachable
  refine ⟨?_, ?_⟩
  · rw [seeded_eq, functions, subscriptions]
  · rw [seedRefusals, seedRefusals, types, functions]
    have functionsAgain := accepts_functions_again (seed.placed defaultSpace).functions
      (c.withEventTypes seed defaultSpace) (c.seeded seed defaultSpace)
    exact List.rel_append (List.rel_append typesAgain functionsAgain) subscriptionsAgain

end Reachable

/-- Seeding takes nothing away and can be repeated. In a catalog that comes about and for any seed,
well formed or not, event types and subscriptions stand afterwards as they stood before, and
functions are still there; a function that entries name has the provider of the last one that is
well formed; and the same seed, applied again, refuses no entry that it let in and leaves the
catalog, and with it every lookup, as it is. -/
theorem seeding_is_idempotent {c : Catalog} (reachable : Reachable c) (seed : Seed)
    (defaultSpace : String) :
    (∀ space type entry, c.getEventType space type = .ok entry →
      (c.seeded seed defaultSpace).getEventType space type = .ok entry) ∧
    (∀ space id s, c.getSubscription space id = .ok s →
      (c.seeded seed defaultSpace).getSubscription space id = .ok s) ∧
    (∀ space id entry, c.getFunction space id = .ok entry →
      ∃ now, (c.seeded seed defaultSpace).getFunction space id = .ok now) ∧
    (∀ before f after, (seed.placed defaultSpace).functions = before ++ f :: after →
      f.WellFormed → (∀ g ∈ after, g.WellFormed → ¬ (g.space = f.space ∧ g.id = f.id)) →
        (c.seeded seed defaultSpace).getFunction f.space f.id = .ok f) ∧
    AcceptsAgain (c.seedRefusals seed defaultSpace)
      ((c.seeded seed defaultSpace).seedRefusals seed defaultSpace) ∧
    (c.seeded seed defaultSpace).seeded seed defaultSpace = c.seeded seed defaultSpace ∧
    SameLookups (c.seeded seed defaultSpace)
      ((c.seeded seed defaultSpace).seeded seed defaultSpace) := by
  have extended := c.extends_seeded seed defaultSpace
  obtain ⟨again, accepted⟩ := seeded_again seed defaultSpace reachable
  refine ⟨?_, ?_, ?_, ?_, accepted, again, ?_⟩
  · intro space type entry found
    rw [getEventType_eq_ok_iff] at found ⊢
    exact extended.eventTypes _ entry found
  · intro space id s found
    rw [getSubscription_eq_ok_iff] at found ⊢
    exact extended.subscriptions _ s found
  · intro space id entry found
    rw [getFunction_eq_ok_iff] at found
    obtain ⟨now, there⟩ := extended.functions _ entry found
    exact ⟨now, (getFunction_eq_ok_iff ..).mpr there⟩
  · intro before f after split wellFormed last
    rw [getFunction_eq_ok_iff, (c.seeded_frame seed defaultSpace).2, withFunctions, split]
    exact get?_seedAll_functions _ wellFormed last
  · rw [again]
    exact (reachable.seeded seed defaultSpace).sameLookups

/-- Entries that are there, new, refused, named twice, in the way of others and without a
function. -/
def exampleSeed : Seed where
  eventTypes := [⟨"", ⟨"user.created"⟩⟩, ⟨"", ⟨"user.deleted"⟩⟩, ⟨"", ⟨"gateway.ready"⟩⟩]
  functions := [⟨"", ⟨"crm"⟩, .weighted [⟨⟨"crm-v3"⟩, 1⟩]⟩,
    ⟨"", ⟨"crm"⟩, .weighted [⟨⟨"crm-v4"⟩, 1⟩]⟩, ⟨"", ⟨"crm"⟩, .weighted []⟩]
  subscriptions := [.ofAsync "" "user.deleted" "nobody",
    .ofSync "" "http.request" "crm" "GET" "/users/:name", .ofAsync "" "user.deleted" "crm"]

theorem exampleSeed_settles :
    (exampleCatalog.seedRefusals exampleSeed "default").map List.isEmpty =
        [true, true, false, true, true, false, false, false, true] ∧
      (exampleCatalog.seeded exampleSeed "default").getFunction "default" ⟨"crm"⟩ =
        .ok ⟨"default", ⟨"crm"⟩, .weighted [⟨⟨"crm-v4"⟩, 1⟩]⟩ ∧
      (exampleCatalog.seeded exampleSeed "default").seeded exampleSeed "default" =
        exampleCatalog.seeded exampleSeed "default" := by
  obtain ⟨-, -, -, functions, -, again, -⟩ :=
    seeding_is_idempotent reachable_exampleCatalog exampleSeed "default"
  refine ⟨by decide +kernel, ?_, again⟩
  refine functions [⟨"default", ⟨"crm"⟩, .weighted [⟨⟨"crm-v3"⟩, 1⟩]⟩]
    ⟨"default", ⟨"crm"⟩, .weighted [⟨⟨"crm-v4"⟩, 1⟩]⟩ [⟨"default", ⟨"crm"⟩, .weighted []⟩] rfl
    ⟨by decide +kernel, by decide +kernel, rfl⟩ ?_
  rintro g member ⟨-, -, valid⟩
  cases List.mem_singleton.mp member
  cases valid

end Catalog
end EventRelay
