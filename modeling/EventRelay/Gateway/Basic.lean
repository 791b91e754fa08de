import EventRelay.Dispatch.Dispatcher
import EventRelay.Function.Invocation
import EventRelay.Metrics
import EventRelay.Settings.Basic
set_option autoImplicit false

/-!
The whole gateway: the catalog, the dispatcher and the counts behind the events side and the
configuration side. Functions are called over a network that is given; ids, times and random words
come from sources that are part of the state.
-/
namespace EventRelay

structure Gateway where
  settings : Settings
  catalog : Catalog
  dispatcher : Dispatcher
  metrics : Metrics
  /-- Ids and times, and how many of them have been used. -/
  stamps : Stamps
  used : Nat
  words : Words
  /-- Whether it takes requests and configurations. -/
  running : Bool

namespace Gateway

/-- The greatest number of places that a queue can have. -/
def mostPlaces : Nat := Nat.pow 2 61 - 1

/-- A gateway at its start; a queue can be too long to be made. -/
def start? (settings : Settings) (stamps : Stamps) (words : Words) : Option Gateway :=
  let capacity := settings.dispatch.capacity.toNat
  if mostPlaces < capacity then none
  else
    some {
      settings
      catalog := (Catalog.empty.applySeed settings.seed settings.defaultSpace).1
      dispatcher :=
        .start capacity (max settings.dispatch.workers.toNat 1) (.ofSettings settings.retries)
      metrics := .empty
      stamps
      used := 0
      words
      running := true }

/-- The stamps not yet used, and the gateway after some of them have been. -/
def takeStamps (g : Gateway) (n : Nat) : Stamps × Gateway :=
  (g.stamps.after g.used, { g with used := g.used + n })

/-- Puts a job into the queue, or counts that there was no room. -/
def offer (g : Gateway) (job : Job) : Gateway :=
  if g.dispatcher.queue.hasRoom then { g with dispatcher := g.dispatcher.offer job }
  else { g with metrics := g.metrics.countDropped }

variable {σ α : Type}

def call (network : Network σ) (space : String) (id : FunctionId) (e : Event) :
    StateM (Gateway × σ) (Except FunctionError Bytes) := fun (g, world) =>
  match g.catalog.targetUrl space id g.words with
  | (.error error, words) => (.error error, { g with words }, world)
  | (.ok url, words) =>
    let (outcome, world) := callFunction network url e world
    (outcome, { g with words, metrics := g.metrics.countInvocation id outcome.isOk }, world)

/-- Takes the steps of an activity, one right after another. -/
def perform (network : Network σ) : Activity α → StateM (Gateway × σ) α
  | .done result => pure result
  | .offer job next => do
    modify fun (g, world) => (g.offer job, world)
    perform network next
  | .invoke space id e next => do
    let outcome ← call network space id e
    perform network (next outcome)
  | .pause _ next => perform network next

end Gateway
end EventRelay
