import EventRelay.Catalog.Codec
import EventRelay.ConfigApi.Resource
import EventRelay.Http.Body
import EventRelay.Json.Printer
set_option autoImplicit false

/-!
What happens to a request that reaches the configuration side: it reads or writes the catalog. A
write that is refused leaves the catalog as it is.
-/
namespace EventRelay.ConfigApi

def version : String := "0.1.0"

inductive ApiError where
  | catalog (error : CatalogError)
  | body (error : BodyError)

namespace ApiError

def message : ApiError → String
  | .catalog e => e.message
  | .body e => e.message

def catalogStatus : CatalogError → Nat
  | .eventTypeNotFound _ | .functionNotFound _ | .subscriptionNotFound _ => 404
  | .eventTypeAlreadyExists _ | .eventTypeHasSubscriptions _ | .functionAlreadyRegistered _
  | .functionHasSubscriptions _ | .subscriptionAlreadyExists _ | .pathConflict _ => 409
  | .invalidSubscriptionUpdate _ | .validation _ => 400

def status : ApiError → Nat
  | .catalog e => catalogStatus e
  | .body _ => 400

def response (e : ApiError) : Response :=
  .json e.status (Json.ofMembers
    [("errors", .array [Json.ofMembers [("message", .string e.message)]])]).compact

end ApiError

structure Outcome where
  response : Response
  catalog : Catalog
  /-- Whether the sizes of the catalog are reported. -/
  reported : Bool

/-- A response that leaves the catalog as it is. -/
def answered (c : Catalog) (response : Response) : Outcome := ⟨response, c, false⟩

/-- A response of JSON that leaves the catalog as it is. -/
def shown (c : Catalog) (value : Json) : Outcome := answered c (.json 200 value.compact)

def refused (c : Catalog) (e : ApiError) : Outcome := answered c e.response

def found {α : Type} (c : Catalog) (toJson : α → Json) : Except CatalogError α → Outcome
  | .ok x => shown c (toJson x)
  | .error e => refused c (.catalog e)

def written {α : Type} (c : Catalog) (reported : Bool) (response : α → Response) :
    Except CatalogError (α × Catalog) → Outcome
  | .ok (x, c) => ⟨response x, c, reported⟩
  | .error e => refused c (.catalog e)

def created {α : Type} (toJson : α → Json) (x : α) : Response := .json 201 (toJson x).compact

def replaced {α : Type} (toJson : α → Json) (x : α) : Response := .json 200 (toJson x).compact

def removed (_ : Unit) : Response := .ofStatus 204

/-- Reads the body of a request and goes on with it. -/
def withBody {α : Type} (c : Catalog) (request : Request) (limit : Nat) (reader : Json.Reader α)
    (go : α → Outcome) : Outcome :=
  match request.readJson (request.bodyWithin? (min limit Request.jsonLimit)) reader with
  | .ok x => go x
  | .error e => refused c (.body e)

def listed {α : Type} (name : String) (toJson : α → Json) (entries : List α) : Json :=
  Json.ofMembers [(name, .array (entries.map toJson))]

/-- A body that names an event type. -/
def typeRecord : Json.Record EventType where
  names := ["name"]
  required := ["name"]
  blank := ⟨""⟩
  take _ document _ := (Json.Reader.text document).map (⟨·⟩)

def providerRecord : Json.Record Provider where
  names := ["provider"]
  required := ["provider"]
  blank := .http ""
  take _ document _ := Provider.reader false document

def statusJson (c : Catalog) : Json :=
  Json.ofMembers [("version", .string version), ("status", .string "operational"),
    ("catalog", c.stats.toJson)]

def list (c : Catalog) (kind : Kind) (space : String) : Outcome :=
  shown c (match kind with
    | .eventTypes => listed "eventTypes" EventTypeEntry.toJson (c.listEventTypes space)
    | .functions => listed "functions" FunctionEntry.toJson (c.listFunctions space)
    | .subscriptions => listed "subscriptions" Subscription.toJson (c.listSubscriptions space))

def create (c : Catalog) (kind : Kind) (space : String) (request : Request) (limit : Nat) :
    Outcome :=
  match kind with
  | .eventTypes => withBody c request limit typeRecord.read fun type =>
    written c true (created EventTypeEntry.toJson) (c.createEventType ⟨space, type⟩)
  | .functions => withBody c request limit (FunctionEntry.record false).read fun entry =>
    written c true (created FunctionEntry.toJson) (c.registerFunction { entry with space })
  | .subscriptions => withBody c request limit (Subscription.record false).read fun s =>
    written c true (created Subscription.toJson) (c.createSubscription { s with space })

def get (c : Catalog) (kind : Kind) (space name : String) : Outcome :=
  match kind with
  | .eventTypes => found c EventTypeEntry.toJson (c.getEventType space ⟨name⟩)
  | .functions => found c FunctionEntry.toJson (c.getFunction space ⟨name⟩)
  | .subscriptions => found c Subscription.toJson (c.getSubscription space ⟨name⟩)

/-- Replaces an entry; event types have nothing to replace. -/
def update (c : Catalog) (kind : Kind) (space name : String) (request : Request) (limit : Nat) :
    Outcome :=
  match kind with
  | .eventTypes => answered c (.methodNotAllowed (Resource.entry kind space name).methods)
  | .functions => withBody c request limit providerRecord.read fun provider =>
    written c false (replaced FunctionEntry.toJson) (c.updateFunction space ⟨name⟩ provider)
  | .subscriptions => withBody c request limit (Subscription.record false).read fun s =>
    written c false (replaced Subscription.toJson) (c.updateSubscription space ⟨name⟩ s)

def delete (c : Catalog) (kind : Kind) (space name : String) : Outcome :=
  match kind with
  | .eventTypes => written c true removed (c.deleteEventType space ⟨name⟩)
  | .functions => written c true removed (c.deleteFunction space ⟨name⟩)
  | .subscriptions => written c true removed (c.deleteSubscription space ⟨name⟩)

def handleEntries (c : Catalog) (kind : Kind) (space : String) (request : Request) (limit : Nat) :
    Outcome :=
  match decodePart "space" space with
  | .error e => answered c (.plain 400 e.message)
  | .ok space =>
    if request.method = "POST" then create c kind space request limit else list c kind space

def handleEntry (c : Catalog) (kind : Kind) (space name : String) (request : Request)
    (limit : Nat) :
    Outcome :=
  match decodePart "space" space, decodePart kind.nameLabel name with
  | .error e, _ => answered c (.plain 400 e.message)
  | _, .error e => answered c (.plain 400 e.message)
  | .ok space, .ok name =>
    if request.method = "PUT" then update c kind space name request limit
    else if request.method = "DELETE" then delete c kind space name
    else get c kind space name

def handleAuthorized (c : Catalog) (limit : Nat) (request : Request) : Outcome :=
  match Resource.ofPath? request.uri.path with
  | none => answered c (.ofStatus 404)
  | some resource =>
    if ¬ resource.methods.contains request.method then
      answered c (.methodNotAllowed resource.methods)
    else
      match resource with
      | .status => shown c (statusJson c)
      | .entries kind space => handleEntries c kind space request limit
      | .entry kind space name => handleEntry c kind space name request limit

/-- Whether a request carries the key, if there is one. -/
def isAuthorized (key : Option String) (headers : Headers) : Bool :=
  match key with
  | none => true
  | some key => headers.text? "authorization" == some ("Bearer " ++ key)

def handle (c : Catalog) (key : Option String) (limit : Nat) (request : Request) : Outcome :=
  if isAuthorized key request.headers then handleAuthorized c limit request
  else answered c (.ofStatus 401)

end EventRelay.ConfigApi
