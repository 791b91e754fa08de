import EventRelay.Route.Tree
import EventRelay.Subscription.Basic
set_option autoImplicit false

/-!
Subscriptions compiled for delivery: the subscribers of an event type on a path, and the function
that answers a method on a path.
-/
namespace EventRelay

/-- The function behind a sync route, and who may read its answers. -/
structure SyncTarget where
  functionId : FunctionId
  cors : Option CorsSettings
deriving DecidableEq, Repr

namespace RoutingTable

/-- What async events are looked up by. -/
structure AsyncKey where
  space : String
  path : String
  eventType : EventType
deriving DecidableEq, Ord, Repr

/-- What sync routes are looked up by, apart from the path. -/
structure SyncKey where
  space : String
  method : String
  eventType : EventType
deriving DecidableEq, Ord, Repr

end RoutingTable

/-- Subscribers by key in ascending order, and a tree of routes by key. -/
structure RoutingTable where
  async : List (RoutingTable.AsyncKey × List FunctionId)
  sync : List (RoutingTable.SyncKey × Route.Tree SyncTarget)

namespace RoutingTable

def empty : RoutingTable := ⟨[], []⟩

/-- Puts a name into an ascending list that has each name once. -/
def insertAscending (id : FunctionId) : List FunctionId → List FunctionId
  | [] => [id]
  | first :: rest =>
    if id = first then first :: rest
    else if (compare id first).isLT then id :: first :: rest
    else first :: insertAscending id rest

def asyncKey (s : Subscription) : AsyncKey := ⟨s.space, s.path, s.eventType⟩

def syncKey (s : Subscription) : SyncKey := ⟨s.space, s.method.getD "", s.eventType⟩

def target (s : Subscription) : SyncTarget := ⟨s.functionId, s.cors⟩

def tree (table : RoutingTable) (key : SyncKey) : Route.Tree SyncTarget :=
  (Keyed.get? table.sync key).getD Route.Tree.empty

/-- Adds a subscription; a sync route that conflicts with those before it is left out. -/
def insert (table : RoutingTable) (s : Subscription) : RoutingTable :=
  match s.kind with
  | .async =>
    { table with async := Keyed.alter table.async (asyncKey s) [] (insertAscending s.functionId) }
  | .sync =>
    { table with
      sync :=
        Keyed.insert table.sync (syncKey s) ((table.tree (syncKey s)).add s.path (target s)).1 }

def build (subscriptions : List Subscription) : RoutingTable := subscriptions.foldl insert empty

def subscribers (table : RoutingTable) (space path : String) (type : EventType) : List FunctionId :=
  (Keyed.get? table.async ⟨space, path, type⟩).getD []

/-- What answers a method, in any letter case, on a path, and what the route captures. -/
def syncTarget (table : RoutingTable) (space method path : String) (type : EventType) :
    Option (SyncTarget × Route.Params) :=
  (Keyed.get? table.sync ⟨space, Text.upper method, type⟩).bind (·.resolve path)

end RoutingTable

namespace Subscription

/-- Whether two sync subscriptions share a tree of routes. -/
def sharesRoutes (s other : Subscription) : Bool :=
  s.kind == .sync && s.space == other.space && s.method == other.method
    && s.eventType == other.eventType

/-- Adds the routes of subscriptions to a tree, up to the first that conflicts. -/
def addRoutes : List Subscription → Route.Tree Unit → Option Route.RouteError
  | [], _ => none
  | s :: rest, tree =>
    match tree.add s.path () with
    | (_, some e) => some e
    | (tree, none) => addRoutes rest tree

/-- The conflict that a sync subscription would have with existing ones. -/
def pathConflict? (existing : List Subscription) (candidate : Subscription) :
    Option Route.RouteError :=
  addRoutes (existing.filter (·.sharesRoutes candidate) ++ [candidate]) Route.Tree.empty

end Subscription
end EventRelay
