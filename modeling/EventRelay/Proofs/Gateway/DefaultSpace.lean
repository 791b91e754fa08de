import EventRelay.Proofs.ConfigApi.Placement
import EventRelay.Proofs.EventsApi.Spaces
import EventRelay.Proofs.Gateway.Actions

set_option autoImplicit false

/-!
The default space of a gateway. Requests that name no space are handled in the one that the gateway
was started with; entries that are written without a space go to the one of the settings that they
come with. The two are the same at the start, and with a later configuration only if it names the
same.
-/
namespace EventRelay

namespace EventsApi

theorem spaceOf_of_absent {headers : Headers} (absent : headers.first? "space" = none)
    (defaultSpace : String) : spaceOf defaultSpace headers = defaultSpace := by
  simp [spaceOf, Headers.filled?, Headers.text?, absent]

theorem within_handle (ctx : Context) (draining : Bool) (request : Request) :
    (handle ctx draining request).Within (spaceOf ctx.defaultSpace request.headers) := by
  unfold handle
  split
  · exact .done _
  · split
    · exact .done _
    · split
      · exact .done _
      · split
        · exact .done _
        · exact within_answer ctx request _

end EventsApi

namespace Gateway

open Catalog (PutsUnscopedIn SameEntries)

variable {σ : Type}

theorem within_nextContext {g : Gateway} {request : Request}
    (unnamed : request.headers.first? "space" = none) :
    (EventsApi.handle g.nextContext g.dispatcher.draining (g.identified request)).Within
      g.settings.defaultSpace := by
  have within := EventsApi.within_handle g.nextContext g.dispatcher.draining (g.identified request)
  have absent : (g.identified request).headers.first? "space" = none := by
    rw [identified, Request.first?_withId _ _ (by decide), unnamed]
  rwa [EventsApi.spaceOf_of_absent absent] at within

/-- Requests that name no space are handled in the default space of the start, whatever has happened
since. Entries that are written without a space go to the default space of the settings that they
come with: those of the start to the space of these requests, and so do those of a later
configuration that names the same default space; with another one they go there, and the space of
these requests is left as if they were not part of the configuration. -/
theorem unscoped_entries_go_where_their_settings_say {given : Settings} {stamps : Stamps}
    {words : Words} {start : Gateway} (started : start? given stamps words = some start)
    (network : Network σ) (world : σ) (actions : List Action) :
    let g := (run network (start, world) actions).1
    (∀ request, request.headers.first? "space" = none →
      (EventsApi.handle g.nextContext g.dispatcher.draining (g.identified request)).Within
        given.defaultSpace) ∧
    start.catalog = Catalog.empty.seeded given.seed given.defaultSpace ∧
    PutsUnscopedIn given.defaultSpace .empty given.seed given.defaultSpace ∧
    ∀ settings, g.running = true →
      (g.reload settings).catalog = g.catalog.seeded settings.seed settings.defaultSpace ∧
      PutsUnscopedIn settings.defaultSpace g.catalog settings.seed settings.defaultSpace ∧
      (settings.defaultSpace = given.defaultSpace →
        PutsUnscopedIn given.defaultSpace g.catalog settings.seed settings.defaultSpace) ∧
      (settings.defaultSpace ≠ given.defaultSpace →
        SameEntries given.defaultSpace (g.reload settings).catalog
          (g.catalog.seeded settings.seed.scoped settings.defaultSpace)) := by
  intro g
  have begins := begins_of_start? started
  have kept : g.settings = given :=
    (settings_run network (start, world) actions).trans begins.settings
  have reachable : g.catalog.Reachable :=
    reachable_run network (s := (start, world)) begins.reachable actions
  refine ⟨fun request unnamed => ?_, begins.catalog, Catalog.putsUnscopedIn _ _ _, ?_⟩
  · rw [← kept]
    exact within_nextContext unnamed
  · intro settings running
    have catalog := catalog_reload g settings
    rw [if_pos running] at catalog
    refine ⟨catalog, Catalog.putsUnscopedIn _ _ _, fun same => ?_, fun other => ?_⟩
    · rw [← same]
      exact Catalog.putsUnscopedIn _ _ _
    · rw [catalog]
      exact Catalog.sameEntries_scoped reachable settings.seed (Ne.symm other)

/-- Settings with a default space, and a function that is written without a space. -/
def exampleDefault (space : String) : Settings :=
  { Settings.standard with defaultSpace := space, seed := Reload.exampleUpgrade }

def exampleInvoking : Request where
  method := "POST"
  uri := ⟨none, none, "/", none⟩
  headers := [⟨"event", Text.encode "invoke"⟩, ⟨"function-id", Text.encode "crm"⟩]
  body := []

/-- The function of the start is in the space of the request; that of another configuration is
not. -/
theorem exampleDefault_is_kept : ∃ start,
    start? (exampleDefault "default") (fun _ => default) [] = some start ∧
    (start.catalog.entryAt? ⟨"default", .function ⟨"crm"⟩⟩).isSome = true ∧
    let g := (run Network.silent (start, ()) [.events exampleInvoking]).1
    (EventsApi.handle g.nextContext g.dispatcher.draining (g.identified exampleInvoking)).Within
      "default" ∧
    ((g.reload (exampleDefault "acme")).catalog.entryAt?
      ⟨"acme", .function ⟨"crm"⟩⟩).isSome = true ∧
    SameEntries "default" (g.reload (exampleDefault "acme")).catalog
      (g.catalog.seeded Seed.empty "acme") := by
  have started : start? (exampleDefault "default") (fun _ => default) [] = some _ := rfl
  obtain ⟨requests, catalog, placed, later⟩ := unscoped_entries_go_where_their_settings_say started
    Network.silent () [.events exampleInvoking]
  obtain ⟨reloaded, moved, -, elsewhere⟩ := later (exampleDefault "acme") (by decide +kernel)
  have split : Reload.exampleUpgrade.entries =
      [] ++ .function ⟨"", ⟨"crm"⟩, .weighted [⟨⟨"crm-v2"⟩, 1⟩]⟩ :: [] := rfl
  refine ⟨_, started, ?_, requests exampleInvoking (by decide +kernel), ?_,
    elsewhere (by decide +kernel)⟩
  · rw [catalog]
    exact placed _ _ _ split rfl (by decide +kernel)
  · rw [reloaded]
    exact moved _ _ _ split rfl (by decide +kernel)

/-- A configuration with another default space is accepted; its function is registered there, and
the request, which names no space, does not find it. -/
theorem exampleDefault_is_missed : ∃ start,
    start? Settings.standard (fun _ => default) [] = some start ∧ start.running = true ∧
    (start.catalog.applySeed (exampleDefault "acme").seed "acme").2 = [] ∧
    exampleInvoking.headers.first? "space" = none ∧
    let g := (run Network.silent (start, ()) [.reload (exampleDefault "acme")]).1
    (g.catalog.entryAt? ⟨"acme", .function ⟨"crm"⟩⟩).isSome = true ∧
    (g.catalog.entryAt? ⟨"default", .function ⟨"crm"⟩⟩).isSome = false ∧
    (events Network.silent exampleInvoking (g, ())).1.body =
      Text.encode "Function FunctionId(\"crm\") not found." :=
  ⟨_, rfl, rfl, by decide +kernel, by decide +kernel, by decide +kernel, by decide +kernel,
    by decide +kernel⟩

end Gateway
end EventRelay
