import EventRelay.Gateway.Work
import EventRelay.Proofs.Catalog.Seeding
import EventRelay.Proofs.ConfigApi.Authorization
import EventRelay.Proofs.ConfigApi.Spaces

set_option autoImplicit false

/-!
What happens to a gateway in the course of time: requests to its two sides, other configurations,
the moves of its workers, its end. The settings stay those of the start. The catalog, and what is
shown of its size, change with requests to the configuration side and with configurations alone.
-/
namespace EventRelay.Gateway

/-- What can happen to a gateway. What its workers do next is not foreseen. -/
inductive Action where
  | events (request : Request)
  | config (request : Request)
  | reload (settings : Settings)
  | follow (choice : Choice)
  | closeIntake
  | stop

variable {σ α : Type}

def act (network : Network σ) (s : Gateway × σ) : Action → Gateway × σ
  | .events request => (events network request s).2
  | .config request => ((s.1.config request).2, s.2)
  | .reload settings => (s.1.reload settings, s.2)
  | .follow choice => (follow network choice s).2
  | .closeIntake => (s.1.closeIntake, s.2)
  | .stop => (s.1.stop, s.2)

/-- The gateway, and the world outside, after actions one after another. -/
def run (network : Network σ) (s : Gateway × σ) (actions : List Action) : Gateway × σ :=
  actions.foldl (act network) s

/-- What stays the same while events are dealt with. -/
structure Keeps (before after : Gateway) : Prop where
  settings : after.settings = before.settings
  catalog : after.catalog = before.catalog
  entries : after.metrics.entries = before.metrics.entries

theorem Keeps.refl (g : Gateway) : Keeps g g := ⟨rfl, rfl, rfl⟩

theorem Keeps.trans {first second third : Gateway} (early : Keeps first second)
    (late : Keeps second third) : Keeps first third where
  settings := late.settings.trans early.settings
  catalog := late.catalog.trans early.catalog
  entries := late.entries.trans early.entries

section Events
variable (network : Network σ) (s : Gateway × σ)

theorem keeps_offer (g : Gateway) (job : Job) : Keeps g (g.offer job) := by
  unfold offer
  split <;> exact ⟨rfl, rfl, rfl⟩

theorem keeps_call (space : String) (id : FunctionId) (e : Event) :
    Keeps s.1 (call network space id e s).2.1 := by
  unfold call
  dsimp only
  split <;> exact ⟨rfl, rfl, rfl⟩

theorem keeps_perform (activity : Activity α) : Keeps s.1 (perform network activity s).2.1 := by
  induction activity generalizing s with
  | done result => exact .refl s.1
  | offer job next ih => exact (keeps_offer s.1 job).trans (ih (s.1.offer job, s.2))
  | invoke space id e next ih =>
      exact (keeps_call network s space id e).trans (ih _ (call network space id e s).2)
  | pause p next ih => exact ih s

theorem keeps_counted (g : Gateway) (answer : EventsApi.Answer) (method : String) :
    Keeps g { g with metrics := (match answer.received with
      | some kind => g.metrics.countReceived kind
      | none => g.metrics).countRequest method answer.response.status } := by
  refine ⟨rfl, rfl, ?_⟩
  cases answer.received <;> rfl

theorem keeps_eventsInner (request : Request) :
    Keeps s.1 (eventsInner network request s).2.1 := by
  unfold eventsInner
  simp only [bind, StateT.bind, get, getThe, MonadStateOf.get, StateT.get, set, takeStamps]
  unfold StateT.set
  simp only [pure]
  split
  · exact .refl s.1
  · split
    · exact .refl s.1
    · have stamped : Keeps s.1 { s.1 with used := s.1.used + 4 } := ⟨rfl, rfl, rfl⟩
      exact (stamped.trans (keeps_perform network (_, s.2) _)).trans (keeps_counted _ _ _)

theorem keeps_events (request : Request) : Keeps s.1 (events network request s).2.1 := by
  have stamped : Keeps s.1 { s.1 with used := s.1.used + 1 } := ⟨rfl, rfl, rfl⟩
  exact stamped.trans (keeps_eventsInner network (_, s.2) _)

theorem keeps_follow (choice : Choice) : Keeps s.1 (follow network choice s).2.1 := by
  cases choice with
  | move move => exact ⟨rfl, rfl, rfl⟩
  | take worker => exact ⟨rfl, rfl, rfl⟩
  | deliver worker delivery step =>
      cases step with
      | invoke space id e next =>
          exact (keeps_call network s space id e).trans ⟨rfl, rfl, rfl⟩
      | offer job next =>
          refine ⟨rfl, rfl, ?_⟩
          simp only [follow, modify, modifyGet, MonadStateOf.modifyGet, StateT.modifyGet, pure,
            moved]
          split <;> rfl
      | done result => exact ⟨rfl, rfl, rfl⟩
      | pause p next => exact ⟨rfl, rfl, rfl⟩

end Events

section Actions
variable {network : Network σ} {s : Gateway × σ}

/-- Whether an action is a request to the configuration side or another configuration. -/
def Action.Configures : Action → Prop
  | .config _ => True
  | .reload _ => True
  | _ => False

theorem keeps_act {action : Action} (idle : ¬ action.Configures) :
    Keeps s.1 (act network s action).1 := by
  cases action with
  | events request => exact keeps_events network s request
  | config request => exact absurd trivial idle
  | reload settings => exact absurd trivial idle
  | follow choice => exact keeps_follow network s choice
  | closeIntake => exact ⟨rfl, rfl, rfl⟩
  | stop => exact ⟨rfl, rfl, rfl⟩

theorem catalog_reload (g : Gateway) (settings : Settings) : (g.reload settings).catalog =
    if g.running then g.catalog.seeded settings.seed settings.defaultSpace else g.catalog := by
  unfold reload Catalog.seeded
  split <;> rfl

theorem settings_reload (g : Gateway) (settings : Settings) :
    (g.reload settings).settings = g.settings := by
  unfold reload
  split <;> rfl

theorem entries_reload (g : Gateway) (settings : Settings) :
    (g.reload settings).metrics.entries = g.metrics.entries := by
  unfold reload
  split <;> rfl

/-- What a request to the configuration side leads to, unless its body is declared too long. -/
def configOutcome (g : Gateway) (request : Request) : ConfigApi.Outcome :=
  if request.declaresOver g.settings.limits.maxBodySize.toNat then
    ConfigApi.answered g.catalog .tooLong
  else
    ConfigApi.handle g.catalog g.settings.admin.apiKey g.settings.limits.maxBodySize.toNat request

theorem status_config (g : Gateway) (request : Request) :
    (g.config request).1.status = (g.configOutcome request).response.status := by
  rw [config_eq, Response.status_finished, configInner, configOutcome]
  dsimp only
  split <;> rfl

theorem catalog_config (g : Gateway) (request : Request) :
    (g.config request).2.catalog = (g.configOutcome request).catalog := by
  rw [config_eq, configInner, configOutcome]
  dsimp only
  split <;> rfl

theorem entries_config (g : Gateway) (request : Request) :
    (g.config request).2.metrics.entries =
      if (g.configOutcome request).reported then some (g.configOutcome request).catalog.stats
      else g.metrics.entries := by
  rw [config_eq, configInner, configOutcome]
  dsimp only
  split
  · rfl
  · dsimp only
    split <;> rfl

theorem settings_act (action : Action) : (act network s action).1.settings = s.1.settings := by
  by_cases configures : action.Configures
  · cases action with
    | config request => exact settings_config s.1 request
    | reload settings => exact settings_reload s.1 settings
    | _ => exact absurd configures id
  · exact (keeps_act configures).settings

theorem reachable_config {g : Gateway} (reachable : g.catalog.Reachable) (request : Request) :
    (g.config request).2.catalog.Reachable := by
  rw [catalog_config, configOutcome]
  split
  · exact reachable
  · rw [ConfigApi.handle_eq, ConfigApi.catalog_outcome]
    split
    · exact reachable.next _
    · exact reachable

theorem reachable_reload {g : Gateway} (reachable : g.catalog.Reachable) (settings : Settings) :
    (g.reload settings).catalog.Reachable := by
  rw [catalog_reload]
  split
  · exact reachable.seeded _ _
  · exact reachable

theorem reachable_act (reachable : s.1.catalog.Reachable) (action : Action) :
    (act network s action).1.catalog.Reachable := by
  by_cases configures : action.Configures
  · cases action with
    | config request => exact reachable_config reachable request
    | reload settings => exact reachable_reload reachable settings
    | _ => exact absurd configures id
  · rwa [(keeps_act configures).catalog]

variable (network s)

theorem run_cons (action : Action) (rest : List Action) :
    run network s (action :: rest) = run network (act network s action) rest :=
  rfl

theorem settings_run (actions : List Action) :
    (run network s actions).1.settings = s.1.settings := by
  induction actions generalizing s with
  | nil => rfl
  | cons action rest ih => rw [run_cons, ih, settings_act]

variable {s}

theorem reachable_run (reachable : s.1.catalog.Reachable) (actions : List Action) :
    (run network s actions).1.catalog.Reachable := by
  induction actions generalizing s with
  | nil => exact reachable
  | cons action rest ih => exact ih (reachable_act reachable action)

end Actions

/-- What a gateway starts with when it is given its settings. -/
structure Begins (given : Settings) (g : Gateway) : Prop where
  settings : g.settings = given
  catalog : g.catalog = Catalog.empty.seeded given.seed given.defaultSpace
  entries : g.metrics.entries = none
  running : g.running = true

section Start
variable {given : Settings} {stamps : Stamps} {words : Words} {g : Gateway}

theorem begins_of_start? (started : start? given stamps words = some g) : Begins given g := by
  unfold start? at started
  dsimp only at started
  split at started
  · cases started
  · cases started
    exact ⟨rfl, rfl, rfl, rfl⟩

theorem Begins.reachable (begins : Begins given g) : g.catalog.Reachable := by
  rw [begins.catalog]
  exact Catalog.Reachable.empty.seeded _ _

end Start

end EventRelay.Gateway
