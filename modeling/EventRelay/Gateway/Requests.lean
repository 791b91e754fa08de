import EventRelay.ConfigApi.Handler
import EventRelay.EventsApi
import EventRelay.Gateway.Basic
import EventRelay.Http.Layers
set_option autoImplicit false

/-!
How a gateway answers the requests to its two sides, takes another configuration, and stops.
-/
namespace EventRelay.Gateway

variable {σ : Type}

/-- Handles a request to the events side once its id is set. -/
def eventsInner (network : Network σ) (request : Request) : StateM (Gateway × σ) Response := do
  let (g, world) ← get
  if request.declaresOver g.settings.limits.maxBodySize.toNat then return .tooLong
  if ¬ Text.beginsWith "/" request.uri.path then return .ofStatus 404
  let (stamps, g) := g.takeStamps 4
  set (g, world)
  let ctx : EventsApi.Context :=
    ⟨g.catalog.routes, g.settings.defaultSpace, g.settings.limits.maxBodySize.toNat, stamps⟩
  let answer ← perform network (EventsApi.handle ctx g.dispatcher.draining request)
  modify fun (g, world) =>
    let metrics := match answer.received with
      | some kind => g.metrics.countReceived kind
      | none => g.metrics
    ({ g with metrics := metrics.countRequest request.method answer.response.status }, world)
  return answer.response

def events (network : Network σ) (request : Request) : StateM (Gateway × σ) Response := do
  let (g, world) ← get
  let (stamps, g) := g.takeStamps 1
  set (g, world)
  let request := request.withId (stamps 0).id
  return (← eventsInner network request).finished request

/-- Handles a request to the configuration side once its id is set. -/
def configInner (g : Gateway) (request : Request) : Response × Gateway :=
  let limit := g.settings.limits.maxBodySize.toNat
  if request.declaresOver limit then (.tooLong, g)
  else
    let outcome := ConfigApi.handle g.catalog g.settings.admin.apiKey limit request
    let metrics := if outcome.reported then g.metrics.report outcome.catalog.stats else g.metrics
    (outcome.response, { g with catalog := outcome.catalog, metrics })

def config (g : Gateway) (request : Request) : Response × Gateway :=
  let (stamps, g) := g.takeStamps 1
  let request := request.withId (stamps 0).id
  let (response, g) := g.configInner request
  (response.finished request, g)

/-- Registers the entries of another configuration, unless the gateway has been stopped. -/
def reload (g : Gateway) (settings : Settings) : Gateway :=
  if g.running then
    { g with catalog := (g.catalog.applySeed settings.seed settings.defaultSpace).1 }
  else g

def closeIntake (g : Gateway) : Gateway := { g with dispatcher := g.dispatcher.close }

/-- Stops: the intake is closed and no configuration is taken any more. -/
def stop (g : Gateway) : Gateway := { g.closeIntake with running := false }

end EventRelay.Gateway
