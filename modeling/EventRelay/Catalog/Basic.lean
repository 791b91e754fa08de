import EventRelay.Catalog.Error
import EventRelay.RoutingTable
set_option autoImplicit false

/-!
The event types, functions and subscriptions of all spaces. An operation either is refused and
changes nothing, or gives its result and the catalog after it.
-/
namespace EventRelay

structure EventTypeEntry where
  space : String
  type : EventType
deriving DecidableEq, Repr, Inhabited

structure Scoped (α : Type) where
  space : String
  name : α
deriving DecidableEq, Ord, Repr

/-- All that is registered, by space and name in ascending order. -/
structure Catalog where
  eventTypes : List (Scoped EventType × EventTypeEntry)
  functions : List (Scoped FunctionId × FunctionEntry)
  subscriptions : List (Scoped SubscriptionId × Subscription)
deriving DecidableEq, Repr

namespace Catalog

def empty : Catalog := ⟨[], [], []⟩

/-- How many entries there are of each sort, over all spaces. -/
structure Stats where
  eventTypes : Nat
  functions : Nat
  subscriptions : Nat
deriving DecidableEq, Repr

def stats (c : Catalog) : Stats :=
  ⟨c.eventTypes.length, c.functions.length, c.subscriptions.length⟩

def allSubscriptions (c : Catalog) : List Subscription := c.subscriptions.map (·.2)

/-- The table for lookups. A server keeps it and compiles it anew after each write of a
subscription, in no fixed order of the subscriptions. Here it is not kept, so that a write need not
refresh it; what is proved about lookups is proved for the table that any order of the stored
subscriptions gives. -/
def routes (c : Catalog) : RoutingTable := RoutingTable.build c.allSubscriptions

/-- The entries of a space, in ascending order of their names. -/
def inSpace {α β : Type} (entries : List (Scoped α × β)) (space : String) : List β :=
  (entries.filter (·.1.space == space)).map (·.2)

def getEventType (c : Catalog) (space : String) (type : EventType) :
    Except CatalogError EventTypeEntry :=
  match Keyed.get? c.eventTypes ⟨space, type⟩ with
  | some entry => .ok entry
  | none => .error (.eventTypeNotFound type)

def listEventTypes (c : Catalog) (space : String) : List EventTypeEntry :=
  inSpace c.eventTypes space

def createEventType (c : Catalog) (entry : EventTypeEntry) :
    Except CatalogError (EventTypeEntry × Catalog) := do
  validateSpace entry.space
  if entry.type.name.isEmpty then throw (.validation .noEventTypeName)
  if entry.type.isSystem then throw (.validation (.reservedEventType entry.type))
  if Keyed.contains c.eventTypes ⟨entry.space, entry.type⟩ then
    throw (.eventTypeAlreadyExists entry.type)
  return (entry, { c with eventTypes := Keyed.insert c.eventTypes ⟨entry.space, entry.type⟩ entry })

/-- Removes an event type that no subscription uses. -/
def deleteEventType (c : Catalog) (space : String) (type : EventType) :
    Except CatalogError (Unit × Catalog) := do
  let _ ← c.getEventType space type
  if c.allSubscriptions.any fun s => s.space == space && s.eventType == type then
    throw (.eventTypeHasSubscriptions type)
  return ((), { c with eventTypes := Keyed.erase c.eventTypes ⟨space, type⟩ })

def validateFunction (entry : FunctionEntry) : Except CatalogError Unit := do
  validateSpace entry.space
  if ¬ entry.id.isValid then throw (.validation (.functionId entry.id))
  match entry.provider.validate with
  | .ok () => pure ()
  | .error e => throw (.validation (.provider e))

def getFunction (c : Catalog) (space : String) (id : FunctionId) :
    Except CatalogError FunctionEntry :=
  match Keyed.get? c.functions ⟨space, id⟩ with
  | some entry => .ok entry
  | none => .error (.functionNotFound id)

def listFunctions (c : Catalog) (space : String) : List FunctionEntry := inSpace c.functions space

def putFunction (c : Catalog) (entry : FunctionEntry) : Catalog :=
  { c with functions := Keyed.insert c.functions ⟨entry.space, entry.id⟩ entry }

def registerFunction (c : Catalog) (entry : FunctionEntry) :
    Except CatalogError (FunctionEntry × Catalog) := do
  validateFunction entry
  if Keyed.contains c.functions ⟨entry.space, entry.id⟩ then
    throw (.functionAlreadyRegistered entry.id)
  return (entry, c.putFunction entry)

def updateFunction (c : Catalog) (space : String) (id : FunctionId) (provider : Provider) :
    Except CatalogError (FunctionEntry × Catalog) := do
  let entry : FunctionEntry := ⟨space, id, provider⟩
  validateFunction entry
  if ¬ Keyed.contains c.functions ⟨space, id⟩ then throw (.functionNotFound id)
  return (entry, c.putFunction entry)

/-- Removes a function that no subscription names. -/
def deleteFunction (c : Catalog) (space : String) (id : FunctionId) :
    Except CatalogError (Unit × Catalog) := do
  let _ ← c.getFunction space id
  if c.allSubscriptions.any fun s => s.space == space && s.functionId == id then
    throw (.functionHasSubscriptions id)
  return ((), { c with functions := Keyed.erase c.functions ⟨space, id⟩ })

def normalizeSubscription (s : Subscription) : Except CatalogError Subscription :=
  match s.normalized with
  | .ok s => .ok s
  | .error e => .error (.validation (.subscription e))

def getSubscription (c : Catalog) (space : String) (id : SubscriptionId) :
    Except CatalogError Subscription :=
  match Keyed.get? c.subscriptions ⟨space, id⟩ with
  | some s => .ok s
  | none => .error (.subscriptionNotFound id)

def listSubscriptions (c : Catalog) (space : String) : List Subscription :=
  inSpace c.subscriptions space

/-- Checks that a sync subscription's route joins those of the others. -/
def checkPath (c : Catalog) (s : Subscription) : Except CatalogError Unit :=
  match s.kind with
  | .async => .ok ()
  | .sync =>
    match Subscription.pathConflict? c.allSubscriptions s with
    | some e => .error (.pathConflict e)
    | none => .ok ()

/-- Checks that the event type is built in or registered. -/
def checkEventType (c : Catalog) (s : Subscription) : Except CatalogError Unit :=
  if s.eventType.isBuiltIn then .ok () else (c.getEventType s.space s.eventType).map fun _ => ()

/-- Registers a subscription under its computed id. -/
def createSubscription (c : Catalog) (s : Subscription) :
    Except CatalogError (Subscription × Catalog) := do
  validateSpace s.space
  let s ← normalizeSubscription s
  if Keyed.contains c.subscriptions ⟨s.space, s.id⟩ then throw (.subscriptionAlreadyExists s.id)
  c.checkPath s
  c.checkEventType s
  let _ ← c.getFunction s.space s.functionId
  return (s, { c with subscriptions := Keyed.insert c.subscriptions ⟨s.space, s.id⟩ s })

/-- The first field that an update would change but has to keep. -/
def changedField? (old new : Subscription) : Option FixedField :=
  if new.kind ≠ old.kind then some .kind
  else if new.eventType ≠ old.eventType then some .eventType
  else if new.path ≠ old.path then some .path
  else if new.method ≠ old.method then some .method
  else if old.kind = .async ∧ new.functionId ≠ old.functionId then some .functionId
  else none

/-- Replaces a subscription. Only the function of a sync one and its CORS settings may change. -/
def updateSubscription (c : Catalog) (space : String) (id : SubscriptionId) (s : Subscription) :
    Except CatalogError (Subscription × Catalog) := do
  let s ← normalizeSubscription { s with space }
  let old ← c.getSubscription space id
  match changedField? old s with
  | some field => throw (.invalidSubscriptionUpdate field)
  | none =>
    let _ ← c.getFunction space s.functionId
    let s := { s with id := old.id }
    return (s, { c with subscriptions := Keyed.insert c.subscriptions ⟨space, old.id⟩ s })

def deleteSubscription (c : Catalog) (space : String) (id : SubscriptionId) :
    Except CatalogError (Unit × Catalog) := do
  let _ ← c.getSubscription space id
  return ((), { c with subscriptions := Keyed.erase c.subscriptions ⟨space, id⟩ })

end Catalog
end EventRelay
