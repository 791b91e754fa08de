import EventRelay.Proofs.Catalog.Seeding
import EventRelay.Proofs.ConfigApi.Functions
import EventRelay.Proofs.ConfigApi.Spaces
import EventRelay.Proofs.Dispatch.Steps

set_option autoImplicit false

/-!
A seed that is applied while the configuration side is in use. Each call of the catalog is carried
out at once, but a function may take two: one that is there already is replaced by a second call,
and requests come in between the two. When the function is lost there, the second call fails.
-/
namespace EventRelay

open Catalog (Entry Reachable seedAll)
open ConfigApi (Seen)
open ConfigApi.Seen (Lost)

/-- The entries of a seed in the order in which they are registered. -/
def Seed.entries (seed : Seed) : List Entry :=
  seed.eventTypes.map .eventType ++ seed.functions.map .function ++
    seed.subscriptions.map .subscription

namespace Catalog

def seedEntry (c : Catalog) : Entry → Catalog × List CatalogError
  | .eventType entry => c.seedEventType entry
  | .function f => c.seedFunction f
  | .subscription s => c.seedSubscription s

section Entries
variable {α : Type} {step : Catalog → α → Catalog × List CatalogError}

theorem seedAll_map {step : Catalog → Entry → Catalog × List CatalogError} (label : α → Entry)
    (entries : List α) (c : Catalog) :
    seedAll step (entries.map label) c =
      seedAll (fun c entry => step c (label entry)) entries c := by
  induction entries generalizing c with
  | nil => rfl
  | cons entry rest ih => simp only [List.map_cons, seedAll, ih]

theorem seedAll_append_eq (first second : List α) (c : Catalog) :
    seedAll step (first ++ second) c =
      ((seedAll step second (seedAll step first c).1).1,
        (seedAll step first c).2 ++ (seedAll step second (seedAll step first c).1).2) := by
  induction first generalizing c with
  | nil => rfl
  | cons entry rest ih => simp only [List.cons_append, seedAll, ih, List.append_assoc]

end Entries

theorem applySeed_eq (c : Catalog) (seed : Seed) (defaultSpace : String) :
    c.applySeed seed defaultSpace = seedAll seedEntry (seed.placed defaultSpace).entries c := by
  rw [Seed.entries, seedAll_append_eq, seedAll_append_eq, seedAll_map, seedAll_map, seedAll_map]
  rfl

end Catalog

/-- An entry for which all calls have been made: the requests between its two calls, if it took two,
its errors, and the catalog right after the last call. -/
structure Settled where
  entry : Entry
  between : List Seen
  errors : List CatalogError
  after : Catalog

/-- A seed that is being applied to the catalog. -/
structure Reload where
  catalog : Catalog
  /-- The entries that are not settled. -/
  pending : List Entry
  /-- When the first of them is a function that its first call has found registered, the requests
  since then. -/
  between : Option (List Seen)
  settled : List Settled

namespace Reload

/-- What can happen next: the next call for an entry, or a request to the configuration side. -/
inductive Move where
  | call
  | request (key : Option String) (limit : Nat) (request : Request)

def start (c : Catalog) (seed : Seed) (defaultSpace : String) : Reload :=
  ⟨c, (seed.placed defaultSpace).entries, none, []⟩

/-- The state after the last call for an entry, with what the call has led to. -/
def settle (r : Reload) (entry : Entry) (rest : List Entry)
    (outcome : Catalog × List CatalogError) : Reload where
  catalog := outcome.1
  pending := rest
  between := none
  settled := r.settled ++ [⟨entry, r.between.getD [], outcome.2, outcome.1⟩]

def callFor (r : Reload) (entry : Entry) (rest : List Entry) : Reload :=
  match entry, r.between with
  | .function f, none =>
    match r.catalog.registerFunction f with
    | .error (.functionAlreadyRegistered _) => { r with between := some [] }
    | outcome => r.settle entry rest (r.catalog.absorb (fun _ => false) outcome)
  | .function f, some _ =>
    r.settle entry rest
      (r.catalog.absorb (fun _ => false) (r.catalog.updateFunction f.space f.id f.provider))
  | _, _ => r.settle entry rest (r.catalog.seedEntry entry)

def meet (r : Reload) (seen : Seen) : Reload :=
  { r with catalog := seen.outcome.catalog, between := r.between.map (· ++ [seen]) }

/-- The state after a move, if it is possible. -/
def step? (r : Reload) : Move → Option Reload
  | .call =>
    match r.pending with
    | [] => none
    | entry :: rest => some (r.callFor entry rest)
  | .request key limit request => some (r.meet ⟨r.catalog, key, limit, request⟩)

def run? (r : Reload) (moves : List Move) : Option Reload := moves.foldlM step? r

section Alone
variable {c : Catalog} {f : FunctionEntry} {rest : List Entry} {settled : List Settled}

/-- One call, or two, do for an entry what registering it at once does. -/
theorem settles_alone (c : Catalog) (entry : Entry) (rest : List Entry) (settled : List Settled) :
    ∃ n, run? ⟨c, entry :: rest, none, settled⟩ (List.replicate n .call) =
      some ⟨(c.seedEntry entry).1, rest, none,
        settled ++ [⟨entry, [], (c.seedEntry entry).2, (c.seedEntry entry).1⟩]⟩ := by
  cases entry with
  | eventType e => exact ⟨1, rfl⟩
  | subscription s => exact ⟨1, rfl⟩
  | function f =>
      simp only [Catalog.seedEntry]
      unfold Catalog.seedFunction
      split
      · rename_i id found
        refine ⟨2, ?_⟩
        simp [run?, step?, callFor, found, List.replicate, settle]
      · rename_i fresh
        refine ⟨1, ?_⟩
        simp [run?, step?, callFor, List.replicate, settle]

/-- Without requests in between, the calls do for all entries what registering them at once does. -/
theorem settle_all_alone (entries : List Entry) (c : Catalog) (settled : List Settled) :
    ∃ n last, run? ⟨c, entries, none, settled⟩ (List.replicate n .call) = some last ∧
      last.pending = [] ∧ last.catalog = (seedAll Catalog.seedEntry entries c).1 ∧
      last.settled.flatMap Settled.errors =
        settled.flatMap Settled.errors ++ (seedAll Catalog.seedEntry entries c).2 := by
  induction entries generalizing c settled with
  | nil => exact ⟨0, _, rfl, rfl, rfl, (List.append_nil _).symm⟩
  | cons entry rest ih =>
      obtain ⟨first, ran⟩ := settles_alone c entry rest settled
      obtain ⟨more, last, goesOn, done, catalog, errors⟩ := ih (c.seedEntry entry).1
        (settled ++ [⟨entry, [], (c.seedEntry entry).2, (c.seedEntry entry).1⟩])
      refine ⟨first + more, last, ?_, done, catalog, ?_⟩
      · rw [run?] at ran goesOn ⊢
        rw [List.replicate_add, List.foldlM_append, ran]
        exact goesOn
      · rw [errors, List.flatMap_append, List.append_assoc]
        simp [seedAll]

/-- A reload in which no request comes in is the seed applied at once. -/
theorem run_alone (c : Catalog) (seed : Seed) (defaultSpace : String) :
    ∃ n last, (start c seed defaultSpace).run? (List.replicate n .call) = some last ∧
      last.pending = [] ∧
      (last.catalog, last.settled.flatMap Settled.errors) = c.applySeed seed defaultSpace := by
  obtain ⟨n, last, ran, done, catalog, errors⟩ :=
    settle_all_alone (seed.placed defaultSpace).entries c []
  refine ⟨n, last, ran, done, ?_⟩
  rw [Catalog.applySeed_eq, catalog, errors]
  rfl

end Alone

/-- A function that is settled stands as its entry has it, unless it was lost between the calls:
then it is refused, and not registered. -/
def Faithful (s : Settled) : Prop :=
  ∀ f, s.entry = .function f → f.WellFormed →
    (¬ Lost f.space f.id s.between →
      s.errors = [] ∧ s.after.getFunction f.space f.id = .ok f) ∧
    (Lost f.space f.id s.between →
      s.errors = [.functionNotFound f.id] ∧
        s.after.getFunction f.space f.id = .error (.functionNotFound f.id))

/-- What holds while the entries of a seed are registered. -/
structure Orderly (entries : List Entry) (r : Reload) : Prop where
  reachable : Reachable r.catalog
  all : r.settled.map Settled.entry ++ r.pending = entries
  /-- A function that was found registered is there still, unless it was lost. -/
  waiting : ∀ f rest requests, r.pending = .function f :: rest → r.between = some requests →
    f.WellFormed → (r.catalog.HasFunction f.space f.id ↔ ¬ Lost f.space f.id requests)
  faithful : ∀ s ∈ r.settled, Faithful s

section Orderly
variable {entries rest : List Entry} {entry : Entry} {r last : Reload}

theorem orderly_start {c : Catalog} (reachable : Reachable c) (seed : Seed)
    (defaultSpace : String) :
    Orderly (seed.placed defaultSpace).entries (start c seed defaultSpace) where
  reachable := reachable
  all := rfl
  waiting _ _ _ _ met := nomatch met
  faithful _ member := nomatch member

theorem Orderly.settle (orderly : Orderly entries r) (first : r.pending = entry :: rest)
    {outcome : Catalog × List CatalogError} (reachable : Reachable outcome.1)
    (faithful : Faithful ⟨entry, r.between.getD [], outcome.2, outcome.1⟩) :
    Orderly entries (r.settle entry rest outcome) where
  reachable := reachable
  all := by
    rw [← orderly.all, first]
    simp [Reload.settle]
  waiting _ _ _ _ met := nomatch met
  faithful s member := by
    rcases List.mem_append.mp member with earlier | new
    · exact orderly.faithful s earlier
    · cases List.mem_singleton.mp new
      exact faithful

theorem faithful_of_put {f : FunctionEntry} {between : List Seen} (c : Catalog)
    (safe : ¬ Lost f.space f.id between) :
    Faithful ⟨.function f, between, [], c.putFunction f⟩ := by
  intro g same wellFormed
  cases same
  exact ⟨fun _ => ⟨rfl, Catalog.getFunction_putFunction c f⟩, fun lost => absurd lost safe⟩

theorem faithful_of_lost {f : FunctionEntry} {between : List Seen} {c : Catalog}
    (lost : Lost f.space f.id between) (gone : ¬ c.HasFunction f.space f.id) :
    Faithful ⟨.function f, between, [.functionNotFound f.id], c⟩ := by
  intro g same wellFormed
  cases same
  exact ⟨fun safe => absurd lost safe, fun _ => ⟨rfl, Catalog.getFunction_of_not_hasFunction gone⟩⟩

theorem faithful_of_other {s : Settled}
    (other : ∀ f, s.entry = .function f → ¬ f.WellFormed) : Faithful s :=
  fun f same wellFormed => absurd wellFormed (other f same)

/-- The first call for a function registers it, or finds it registered. -/
theorem Orderly.register (orderly : Orderly entries r) {f : FunctionEntry}
    (first : r.pending = .function f :: rest) (alone : r.between = none) :
    Orderly entries (r.callFor (.function f) rest) := by
  have reachable : Reachable (r.catalog.afterOutcome (r.catalog.registerFunction f)) :=
    orderly.reachable.next (.registerFunction f)
  rw [← Catalog.absorb_fst r.catalog fun _ => false] at reachable
  by_cases wellFormed : f.WellFormed
  · by_cases stands : r.catalog.HasFunction f.space f.id
    · have found := Catalog.registerFunction_of_hasFunction wellFormed stands
      simp only [Reload.callFor, alone, found]
      refine ⟨orderly.reachable, orderly.all, ?_, orderly.faithful⟩
      intro g others requests ahead met _
      cases first.symm.trans ahead
      cases met
      exact iff_of_true stands ConfigApi.Seen.not_lost_nil
    · have made := Catalog.registerFunction_of_not_hasFunction wellFormed stands
      rw [made] at reachable
      simp only [Reload.callFor, alone, made]
      refine orderly.settle first reachable ?_
      rw [alone]
      exact faithful_of_put r.catalog ConfigApi.Seen.not_lost_nil
  · simp only [Reload.callFor, alone]
    split
    · refine ⟨orderly.reachable, orderly.all, ?_, orderly.faithful⟩
      intro g others requests ahead _ good
      cases first.symm.trans ahead
      exact absurd good wellFormed
    · refine orderly.settle first reachable (faithful_of_other fun g same => ?_)
      cases same
      exact wellFormed

/-- The second call for a function replaces it, unless it was lost. -/
theorem Orderly.replace (orderly : Orderly entries r) {f : FunctionEntry}
    (first : r.pending = .function f :: rest) {requests : List Seen}
    (met : r.between = some requests) :
    Orderly entries (r.callFor (.function f) rest) := by
  have reachable : Reachable (r.catalog.afterOutcome
      (r.catalog.updateFunction f.space f.id f.provider)) :=
    orderly.reachable.next (.updateFunction f.space f.id f.provider)
  rw [← Catalog.absorb_fst r.catalog fun _ => false] at reachable
  simp only [Reload.callFor, met]
  refine orderly.settle first reachable ?_
  by_cases wellFormed : f.WellFormed
  · have waiting := orderly.waiting f rest requests first met wellFormed
    rw [met]
    by_cases stands : r.catalog.HasFunction f.space f.id
    · rw [Catalog.updateFunction_of_hasFunction wellFormed stands]
      exact faithful_of_put r.catalog (waiting.mp stands)
    · rw [Catalog.updateFunction_of_not_hasFunction wellFormed stands]
      exact faithful_of_lost
        (Classical.byContradiction fun safe => stands (waiting.mpr safe)) stands
  · refine faithful_of_other fun g same => ?_
    cases same
    exact wellFormed

theorem Orderly.callFor (orderly : Orderly entries r) (first : r.pending = entry :: rest) :
    Orderly entries (r.callFor entry rest) := by
  cases entry with
  | eventType e =>
      refine orderly.settle first ?_ (faithful_of_other (by rintro f ⟨⟩))
      rw [Catalog.seedEntry, Catalog.seedEventType, Catalog.absorb_fst]
      exact orderly.reachable.next (.createEventType e)
  | subscription s =>
      refine orderly.settle first ?_ (faithful_of_other (by rintro f ⟨⟩))
      exact orderly.reachable.seedSubscription s
  | function f =>
      cases met : r.between with
      | none => exact orderly.register first met
      | some requests => exact orderly.replace first met

theorem Orderly.meet (orderly : Orderly entries r) {seen : Seen} (met : seen.catalog = r.catalog) :
    Orderly entries (r.meet seen) where
  reachable := ConfigApi.Seen.reachable_outcome (met ▸ orderly.reachable)
  all := orderly.all
  waiting f rest requests first between wellFormed := by
    obtain ⟨earlier, before, rfl⟩ := Option.map_eq_some_iff.mp between
    refine ConfigApi.Seen.hasFunction_concat_iff (met ▸ orderly.reachable.sound) ?_
    rw [met]
    exact orderly.waiting f rest earlier first before wellFormed
  faithful := orderly.faithful

theorem Orderly.step? (orderly : Orderly entries r) {move : Move}
    (moved : r.step? move = some last) : Orderly entries last := by
  cases move with
  | call =>
      simp only [Reload.step?] at moved
      split at moved
      · cases moved
      · rename_i entry rest first
        cases moved
        exact orderly.callFor first
  | request key limit request =>
      cases moved
      exact orderly.meet rfl

theorem Orderly.run? (orderly : Orderly entries r) {moves : List Move}
    (run : r.run? moves = some last) : Orderly entries last :=
  foldlM_keeps (fun _ _ _ _ still moved => Orderly.step? still moved) orderly run

end Orderly

/-- While a seed is applied to a catalog that comes about, in whatever order its calls and requests
to the configuration side take their turns, its entries are settled one after another. Once a
well-formed function is settled it stands as the seed has it, with no error; it is refused and not
registered exactly when its first call has found it registered, a request has removed it then, and
none has added it again before the second call. -/
theorem settled_functions_stand {c : Catalog} (reachable : Reachable c) (seed : Seed)
    (defaultSpace : String) {moves : List Move} {last : Reload}
    (run : (start c seed defaultSpace).run? moves = some last) :
    last.settled.map Settled.entry ++ last.pending = (seed.placed defaultSpace).entries ∧
    ∀ s ∈ last.settled, ∀ f, s.entry = .function f → f.WellFormed →
      (¬ Lost f.space f.id s.between →
        s.errors = [] ∧ s.after.getFunction f.space f.id = .ok f) ∧
      (Lost f.space f.id s.between →
        s.errors = [.functionNotFound f.id] ∧
          s.after.getFunction f.space f.id = .error (.functionNotFound f.id)) := by
  have orderly := (orderly_start reachable seed defaultSpace).run? run
  exact ⟨orderly.all, orderly.faithful⟩

/-- A function that nothing uses, and an event type. -/
def exampleUnused : Catalog :=
  [.createEventType ⟨"default", ⟨"user.created"⟩⟩,
    .registerFunction ⟨"default", ⟨"crm"⟩, .weighted [⟨⟨"crm-v1"⟩, 1⟩]⟩].foldl Catalog.apply .empty

def exampleUpgrade : Seed := ⟨[], [⟨"", ⟨"crm"⟩, .weighted [⟨⟨"crm-v2"⟩, 1⟩]⟩], []⟩

/-- The function of the seed as it is to be registered. -/
def exampleUpgraded : FunctionEntry := ⟨"default", ⟨"crm"⟩, .weighted [⟨⟨"crm-v2"⟩, 1⟩]⟩

theorem exampleUpgraded_wellFormed : exampleUpgraded.WellFormed :=
  ⟨by decide +kernel, by decide +kernel, rfl⟩

/-- Requests that come in between the two calls for the function. -/
def exampleRun (requests : List Request) : Option Reload :=
  (start exampleUnused exampleUpgrade "default").run?
    (.call :: requests.map (.request none 100) ++ [.call])

/-- A function that has got a subscription cannot be removed any more, and is replaced. -/
theorem exampleUpgrade_stands : ∃ last,
    exampleRun [ConfigApi.exampleSubscribing, ConfigApi.exampleRemoval] = some last ∧
    ∃ s ∈ last.settled, s.between.map (·.outcome.response.status) = [201, 409] ∧ s.errors = [] ∧
      s.after.getFunction "default" ⟨"crm"⟩ = .ok exampleUpgraded := by
  have outcome : (exampleRun [ConfigApi.exampleSubscribing, ConfigApi.exampleRemoval]).map
      (fun last => (last.pending.length, last.settled.map fun s =>
        (s.between.map (·.outcome.response.status), s.between.all fun seen =>
          Keyed.contains seen.outcome.catalog.functions ⟨"default", ⟨"crm"⟩⟩))) =
      some (0, [([201, 409], true)]) := by
    decide +kernel
  obtain ⟨last, run, told⟩ := Option.map_eq_some_iff.mp outcome
  obtain ⟨done, settled⟩ := Prod.mk.inj told
  obtain ⟨all, stands⟩ :=
    settled_functions_stand (Catalog.reachable_foldl .empty _) exampleUpgrade "default" run
  rw [List.eq_nil_of_length_eq_zero done, List.append_nil] at all
  obtain ⟨s, only, entry⟩ := List.map_eq_singleton_iff.mp all
  rw [only, List.map_singleton, List.singleton_inj, Prod.mk.injEq, List.all_eq_true] at settled
  obtain ⟨statuses, kept⟩ := settled
  have member : s ∈ last.settled := by rw [only]; exact List.mem_cons_self
  have safe : ¬ Lost "default" ⟨"crm"⟩ s.between := by
    rintro ⟨before, seen, after, split, removes, -⟩
    have among : seen ∈ s.between := by rw [split]; simp
    exact removes.not_hasFunction (Catalog.hasFunction_iff_contains.mpr (kept seen among))
  obtain ⟨errors, found⟩ :=
    (stands s member exampleUpgraded entry exampleUpgraded_wellFormed).1 safe
  exact ⟨last, run, s, member, statuses, errors, found⟩

/-- A function that is removed between the two calls is refused, though nothing is wrong with it. -/
theorem exampleUpgrade_lost :
    Reachable exampleUnused ∧ exampleUpgraded.WellFormed ∧
    (exampleUpgrade.placed "default").functions = [exampleUpgraded] ∧
    (exampleRun [ConfigApi.exampleRemoval]).map (fun last =>
        (last.pending.length, last.settled.map fun s => (s.errors, s.after.functions.length))) =
      some (0, [([.functionNotFound ⟨"crm"⟩], 0)]) :=
  ⟨Catalog.reachable_foldl .empty _, exampleUpgraded_wellFormed, rfl, by decide +kernel⟩

end Reload
end EventRelay
