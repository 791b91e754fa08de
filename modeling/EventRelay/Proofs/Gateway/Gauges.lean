import EventRelay.Proofs.Catalog.Sizes
import EventRelay.Proofs.ConfigApi.Writes
import EventRelay.Proofs.Gateway.Actions

set_option autoImplicit false

/-!
What is shown of the size of the catalog. Requests that add or remove an entry report the sizes;
seeds, at the start and with another configuration, register entries and report nothing. So what is
shown lacks just what seeds have registered since the last of those requests.
-/
namespace EventRelay

namespace ConfigApi

open Catalog (Entry Write)

section Reporting
variable {c : Catalog} {request : Request} {a : Ask}

/-- Whether a response says that an entry has been added or removed. -/
def Settles (response : Response) : Prop := response.status = 201 ∨ response.status = 204

instance (response : Response) : Decidable (Settles response) :=
  inferInstanceAs (Decidable (_ ∨ _))

/-- The sizes are reported exactly with responses that say that an entry has been added or removed;
with others they are as they were. -/
structure Tells (c : Catalog) (outcome : Outcome) : Prop where
  reported : outcome.reported = true ↔ Settles outcome.response
  silent : ¬ Settles outcome.response → outcome.catalog.stats = c.stats

theorem tells_answered {response : Response} (other : ¬ Settles response) :
    Tells c (answered c response) where
  reported := iff_of_false (by simp [answered]) other
  silent _ := rfl

theorem tells_shown (value : Json) : Tells c (shown c value) :=
  tells_answered (by simp [Settles, Response.json])

theorem not_settles_of_refuses {response : Response} (refuses : Refuses response) :
    ¬ Settles response := by
  rintro (made | gone)
  · rw [Refuses, made] at refuses
    exact absurd refuses.1 (by decide)
  · rw [Refuses, gone] at refuses
    exact absurd refuses.1 (by decide)

theorem tells_refused (e : ApiError) : Tells c (refused c e) :=
  tells_answered (not_settles_of_refuses e.refuses)

theorem tells_found {α : Type} (toJson : α → Json) (outcome : Except CatalogError α) :
    Tells c (found c toJson outcome) := by
  cases outcome with
  | error e => exact tells_refused _
  | ok x => exact tells_shown _

theorem settles_acknowledged_iff (w : Write) :
    Settles (acknowledged w w.entry?) ↔ reports w = true := by
  cases w <;> simp [Settles, reports, acknowledged, Write.entry?, Write.adds, created, replaced,
    removed, Response.json, Response.ofStatus]

theorem tells_written (reachable : c.Reachable) (w : Write) :
    Tells c (written c (reports w) (acknowledged w) (c.write w)) := by
  cases outcome : c.write w with
  | error e => exact tells_refused _
  | ok success =>
      obtain ⟨result, after⟩ := success
      have given := (Catalog.entryAt?_write reachable.sound outcome).1
      subst given
      have settles := settles_acknowledged_iff w
      refine ⟨settles.symm, fun silent => ?_⟩
      have quiet : reports w = false := by rwa [← Bool.not_eq_true, ← settles]
      obtain ⟨adds, puts⟩ := Bool.or_eq_false_iff.mp quiet
      exact Catalog.stats_write reachable outcome adds puts

theorem Asks.tells (asks : Asks request a) (reachable : c.Reachable) : Tells c (a.outcome c) := by
  cases asks with
  | nothing refuses => exact tells_answered (not_settles_of_refuses refuses)
  | status path reads => exact tells_shown _
  | list path decoded reads => exact tells_shown _
  | @entry kind _ _ _ _ path decoded reads => cases kind <;> exact tells_found _ _
  | @write w resource path names method => exact tells_written reachable w

end Reporting
end ConfigApi

namespace Gateway

open Catalog (Stats added)
open ConfigApi (Settles Tells)

variable {σ : Type}

theorem tells_configOutcome {g : Gateway} (reachable : g.catalog.Reachable) (request : Request) :
    Tells g.catalog (g.configOutcome request) := by
  unfold configOutcome
  split
  · exact ConfigApi.tells_answered (by simp [Settles, Response.tooLong, Response.plain])
  · rw [ConfigApi.handle_eq]
    exact (ConfigApi.asks_ask ..).tells reachable

/-- An account of what the gauges lack: whether they have been told any sizes, and how many entries
of each kind seeds have registered since. -/
structure Account where
  told : Bool
  lacking : Stats

def Account.next (account : Account) (g : Gateway) : Action → Account
  | .config request => if Settles (g.config request).1 then ⟨true, 0⟩ else account
  | .reload settings =>
    { account with lacking := account.lacking + added g.catalog (g.reload settings).catalog }
  | _ => account

def Account.after (network : Network σ) : Gateway × σ → Account → List Action → Account
  | _, account, [] => account
  | s, account, action :: rest =>
    Account.after network (act network s action) (account.next s.1 action) rest

/-- What the gauges show; they show nothing before they are told. -/
def shown (g : Gateway) : Stats := g.metrics.entries.getD 0

structure Account.Fits (account : Account) (g : Gateway) : Prop where
  told : g.metrics.entries.isSome = account.told
  lacking : g.shown + account.lacking = g.catalog.stats

section Accounts
variable {network : Network σ} {s : Gateway × σ} {account : Account}

theorem Account.Fits.of_keeps {g h : Gateway} (fits : account.Fits g) (kept : Keeps g h) :
    account.Fits h where
  told := by rw [kept.entries, fits.told]
  lacking := by rw [shown, kept.entries, kept.catalog, ← shown, fits.lacking]

theorem Account.Fits.config (fits : account.Fits s.1) (reachable : s.1.catalog.Reachable)
    (request : Request) :
    (account.next s.1 (.config request)).Fits (act network s (.config request)).1 := by
  have tells := tells_configOutcome reachable request
  have told : Settles (s.1.config request).1 ↔ Settles (s.1.configOutcome request).response := by
    rw [Settles, Settles, status_config]
  rw [Account.next, act]
  by_cases settles : Settles (s.1.config request).1
  · have reported := tells.reported.mpr (told.mp settles)
    rw [if_pos settles]
    refine ⟨?_, ?_⟩
    · rw [entries_config, if_pos reported]
      rfl
    · rw [shown, entries_config, if_pos reported, catalog_config]
      exact Stats.add_zero _
  · have silent := mt told.mpr settles
    have unreported := mt tells.reported.mp silent
    rw [if_neg settles]
    refine ⟨?_, ?_⟩
    · rw [entries_config, if_neg unreported, fits.told]
    · rw [shown, entries_config, if_neg unreported, catalog_config, tells.silent silent]
      exact fits.lacking

theorem Account.Fits.reload (fits : account.Fits s.1) (reachable : s.1.catalog.Reachable)
    (settings : Settings) :
    (account.next s.1 (.reload settings)).Fits (act network s (.reload settings)).1 := by
  have later := reachable_reload reachable settings
  have grown : (s.1.reload settings).catalog.Extends s.1.catalog := by
    rw [catalog_reload]
    split
    · exact Catalog.extends_seeded ..
    · exact Catalog.extends_refl _
  refine ⟨?_, ?_⟩
  · rw [act, entries_reload]
    exact fits.told
  · rw [act, shown, entries_reload, ← shown, Account.next, ← Stats.add_assoc, fits.lacking]
    exact Catalog.stats_add_added reachable.sound later.sound grown

theorem Account.Fits.next (fits : account.Fits s.1) (reachable : s.1.catalog.Reachable)
    (action : Action) : (account.next s.1 action).Fits (act network s action).1 := by
  cases action with
  | config request => exact fits.config reachable request
  | reload settings => exact fits.reload reachable settings
  | events request => exact fits.of_keeps (keeps_act id)
  | follow choice => exact fits.of_keeps (keeps_act id)
  | closeIntake => exact fits.of_keeps (keeps_act id)
  | stop => exact fits.of_keeps (keeps_act id)

theorem Account.Fits.after (fits : account.Fits s.1) (reachable : s.1.catalog.Reachable)
    (actions : List Action) :
    (Account.after network s account actions).Fits (run network s actions).1 := by
  induction actions generalizing s account with
  | nil => exact fits
  | cons action rest ih => exact ih (fits.next reachable action) (reachable_act reachable action)

end Accounts

/-- The gauges lack what seeds have registered, at the start or with another configuration, since a
request was last told that an entry has been added or removed; before the first such request there
are no gauges. So they show what the catalog holds exactly when there has been such a request and no
seed has registered an entry under a new name since. -/
theorem gauges_lack_what_seeds_register {given : Settings} {stamps : Stamps} {words : Words}
    {start : Gateway} (started : start? given stamps words = some start) (network : Network σ)
    (world : σ) (actions : List Action) :
    let last := (run network (start, world) actions).1
    let account := Account.after network (start, world) ⟨false, start.catalog.stats⟩ actions
    last.metrics.entries.isSome = account.told ∧
    last.shown + account.lacking = last.catalog.stats ∧
    (last.metrics.entries = some last.catalog.stats ↔
      account.told = true ∧ account.lacking = 0) := by
  intro last account
  have begins := begins_of_start? started
  have first : Account.Fits ⟨false, start.catalog.stats⟩ start := by
    refine ⟨by rw [begins.entries]; rfl, ?_⟩
    rw [shown, begins.entries]
    exact Stats.zero_add _
  have fits : account.Fits last := first.after begins.reachable actions
  refine ⟨fits.told, fits.lacking, ?_⟩
  rw [← fits.told, ← fits.lacking, shown]
  cases last.metrics.entries with
  | none => simp
  | some sizes =>
      simp only [Option.isSome_some, Option.getD_some, Option.some.injEq, true_and]
      rw [eq_comm, Stats.add_eq_left_iff]

/-- Settings with an event type to start with, and settings with another one to take later. -/
def exampleSettings (type : String) : Settings :=
  { Settings.standard with seed := ⟨[⟨"", ⟨type⟩⟩], [], []⟩ }

def exampleCreation : Request where
  method := "POST"
  uri := ⟨none, none, "/v1/spaces/default/eventtypes", none⟩
  headers := [⟨"content-type", Text.encode "application/json"⟩]
  body := Text.encode "\x7b\"name\":\"user.changed\"\x7d"

/-- After the request nothing is lacking, whatever seeds have registered before. -/
theorem exampleCreation_sets_gauges : ∃ start,
    start? (exampleSettings "user.created") (fun _ => default) [] = some start ∧
    let last := (run Network.silent (start, ())
      [.reload (exampleSettings "user.deleted"), .config exampleCreation]).1
    last.metrics.entries = some last.catalog.stats := by
  have started : start? (exampleSettings "user.created") (fun _ => default) [] = some _ := rfl
  obtain ⟨-, -, right⟩ := gauges_lack_what_seeds_register started Network.silent ()
    [.reload (exampleSettings "user.deleted"), .config exampleCreation]
  exact ⟨_, started, right.mpr (by decide +kernel)⟩

/-- There are no gauges after the start, and a configuration that comes later than the request
leaves them behind. -/
theorem exampleSettings_outgrow_gauges : ∃ start,
    start? (exampleSettings "user.created") (fun _ => default) [] = some start ∧
    start.metrics.entries = none ∧ start.catalog.stats = ⟨1, 0, 0⟩ ∧
    let last := (run Network.silent (start, ())
      [.config exampleCreation, .reload (exampleSettings "user.deleted")]).1
    last.metrics.entries = some ⟨2, 0, 0⟩ ∧ last.catalog.stats = ⟨3, 0, 0⟩ :=
  ⟨_, rfl, rfl, by decide +kernel, by decide +kernel⟩

end Gateway
end EventRelay
