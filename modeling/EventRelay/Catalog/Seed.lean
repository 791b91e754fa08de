import EventRelay.Catalog.Basic
set_option autoImplicit false

/-!
Entries that a configuration registers. Existing event types and subscriptions are kept, existing
functions get the provider of the seed; an entry that is refused does not stop the others.
-/
namespace EventRelay

/-- Entries to register; one without a space goes to the default one. -/
structure Seed where
  eventTypes : List EventTypeEntry
  functions : List FunctionEntry
  subscriptions : List Subscription
deriving DecidableEq, Repr, Inhabited

def Seed.empty : Seed := ⟨[], [], []⟩

namespace Catalog

def spaceOr (defaultSpace space : String) : String := if space.isEmpty then defaultSpace else space

/-- The catalog after an operation, and the error that is not to be passed over. -/
def absorb {α : Type} (c : Catalog) (known : CatalogError → Bool) :
    Except CatalogError (α × Catalog) → Catalog × List CatalogError
  | .ok (_, c) => (c, [])
  | .error e => (c, if known e then [] else [e])

/-- Registers an event type unless it is there. -/
def seedEventType (c : Catalog) (entry : EventTypeEntry) : Catalog × List CatalogError :=
  c.absorb (fun e => match e with | .eventTypeAlreadyExists _ => true | _ => false)
    (c.createEventType entry)

/-- Registers a function or, when it is there, replaces its provider. -/
def seedFunction (c : Catalog) (entry : FunctionEntry) : Catalog × List CatalogError :=
  match c.registerFunction entry with
  | .error (.functionAlreadyRegistered _) =>
    c.absorb (fun _ => false) (c.updateFunction entry.space entry.id entry.provider)
  | outcome => c.absorb (fun _ => false) outcome

/-- Registers a subscription unless it is there. -/
def seedSubscription (c : Catalog) (s : Subscription) : Catalog × List CatalogError :=
  c.absorb (fun e => match e with | .subscriptionAlreadyExists _ => true | _ => false)
    (c.createSubscription s)

/-- Applies a step to entries in order and gathers the errors. -/
def seedAll {α : Type} (step : Catalog → α → Catalog × List CatalogError) :
    List α → Catalog → Catalog × List CatalogError
  | [], c => (c, [])
  | entry :: rest, c =>
    let (c, errors) := step c entry
    let (c, more) := seedAll step rest c
    (c, errors ++ more)

/-- Registers the entries of a seed: event types, functions, subscriptions. With the catalog come
the errors of the entries that were refused. -/
def applySeed (c : Catalog) (seed : Seed) (defaultSpace : String) : Catalog × List CatalogError :=
  let space := spaceOr defaultSpace
  let eventTypes := seed.eventTypes.map fun e => { e with space := space e.space }
  let functions := seed.functions.map fun f => { f with space := space f.space }
  let subscriptions := seed.subscriptions.map fun s => { s with space := space s.space }
  let (c, first) := seedAll seedEventType eventTypes c
  let (c, second) := seedAll seedFunction functions c
  let (c, third) := seedAll seedSubscription subscriptions c
  (c, first ++ second ++ third)

end Catalog
end EventRelay
