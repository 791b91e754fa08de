import EventRelay.ConfigApi.Handler
import EventRelay.Proofs.Catalog.Writes

set_option autoImplicit false

/-!
What requests to the configuration side ask of the catalog. A request is read without a look at the
catalog: it is refused, or asks to see something, or is a write of an entry that its path names.
-/
namespace EventRelay.ConfigApi

open Catalog (Entry EntryName Write labelled)

/-- What a request asks of the catalog. -/
inductive Ask where
  | nothing (response : Response)
  | status
  | list (kind : Kind) (space : String)
  | entry (kind : Kind) (space name : String)
  | write (w : Write)

def entryJson : Entry → Json
  | .eventType entry => entry.toJson
  | .function entry => entry.toJson
  | .subscription s => s.toJson

/-- The response to a write that has put an entry, or none. -/
def acknowledged (w : Write) : Option Entry → Response
  | some entry => if w.adds then created entryJson entry else replaced entryJson entry
  | none => removed ()

/-- Whether the sizes of the catalog are reported after a write: one that replaces keeps them. -/
def reports (w : Write) : Bool := w.adds || w.entry?.isNone

def Ask.outcome (c : Catalog) : Ask → Outcome
  | .nothing response => answered c response
  | .status => shown c (statusJson c)
  | .list kind space => ConfigApi.list c kind space
  | .entry kind space name => ConfigApi.get c kind space name
  | .write w => written c (reports w) (acknowledged w) (c.write w)

section Reading
variable (kind : Kind) (request : Request) (limit : Nat)

/-- What a request asks that is written out in its body. -/
def askBody {α : Type} (reader : Json.Reader α) (write : α → Write) : Ask :=
  match request.readJson (request.bodyWithin? (min limit Request.jsonLimit)) reader with
  | .ok x => .write (write x)
  | .error e => .nothing (ApiError.body e).response

def askCreate (space : String) : Ask :=
  match kind with
  | .eventTypes => askBody request limit typeRecord.read fun type => .createEventType ⟨space, type⟩
  | .functions => askBody request limit (FunctionEntry.record false).read fun entry =>
    .registerFunction { entry with space }
  | .subscriptions => askBody request limit (Subscription.record false).read fun s =>
    .createSubscription { s with space }

def askUpdate (space name : String) : Ask :=
  match kind with
  | .eventTypes => .nothing (.methodNotAllowed (Resource.entry kind space name).methods)
  | .functions => askBody request limit providerRecord.read fun provider =>
    .updateFunction space ⟨name⟩ provider
  | .subscriptions => askBody request limit (Subscription.record false).read fun s =>
    .updateSubscription space ⟨name⟩ s

def askDelete (space name : String) : Ask :=
  match kind with
  | .eventTypes => .write (.deleteEventType space ⟨name⟩)
  | .functions => .write (.deleteFunction space ⟨name⟩)
  | .subscriptions => .write (.deleteSubscription space ⟨name⟩)

def askEntries (space : String) : Ask :=
  match decodePart "space" space with
  | .error e => .nothing (.plain 400 e.message)
  | .ok space =>
    if request.method = "POST" then askCreate kind request limit space else .list kind space

def askEntry (space name : String) : Ask :=
  match decodePart "space" space, decodePart kind.nameLabel name with
  | .error e, _ => .nothing (.plain 400 e.message)
  | _, .error e => .nothing (.plain 400 e.message)
  | .ok space, .ok name =>
    if request.method = "PUT" then askUpdate kind request limit space name
    else if request.method = "DELETE" then askDelete kind space name
    else .entry kind space name

def askAuthorized : Ask :=
  match Resource.ofPath? request.uri.path with
  | none => .nothing (.ofStatus 404)
  | some resource =>
    if ¬ resource.methods.contains request.method then
      .nothing (.methodNotAllowed resource.methods)
    else
      match resource with
      | .status => .status
      | .entries kind space => askEntries kind request limit space
      | .entry kind space name => askEntry kind request limit space name

def ask (key : Option String) : Ask :=
  if isAuthorized key request.headers then askAuthorized request limit
  else .nothing (.ofStatus 401)

end Reading

section Outcomes
variable (c : Catalog) (kind : Kind) (request : Request) (limit : Nat)

theorem written_labelled {α : Type} (reported : Bool) (response : Option Entry → Response)
    (label : α → Option Entry) (outcome : Except CatalogError (α × Catalog)) :
    written c reported response (labelled label outcome) =
      written c reported (fun x => response (label x)) outcome := by
  cases outcome <;> rfl

theorem outcome_askBody {α : Type} {reader : Json.Reader α} {write : α → Write}
    {go : α → Outcome} (same : ∀ x, (Ask.write (write x)).outcome c = go x) :
    (askBody request limit reader write).outcome c = withBody c request limit reader go := by
  unfold askBody withBody
  cases request.readJson (request.bodyWithin? (min limit Request.jsonLimit)) reader with
  | ok x => exact same x
  | error e => rfl

theorem outcome_askCreate (space : String) :
    (askCreate kind request limit space).outcome c = create c kind space request limit := by
  cases kind with
  | eventTypes => exact outcome_askBody _ _ _ fun type => written_labelled ..
  | functions => exact outcome_askBody _ _ _ fun entry => written_labelled ..
  | subscriptions => exact outcome_askBody _ _ _ fun s => written_labelled ..

theorem outcome_askUpdate (space name : String) :
    (askUpdate kind request limit space name).outcome c =
      update c kind space name request limit := by
  cases kind with
  | eventTypes => rfl
  | functions => exact outcome_askBody _ _ _ fun provider => written_labelled ..
  | subscriptions => exact outcome_askBody _ _ _ fun s => written_labelled ..

theorem outcome_askDelete (space name : String) :
    (askDelete kind space name).outcome c = delete c kind space name := by
  have unlabelled (w : Write) := written_labelled (α := Unit) c true (acknowledged w) fun _ => none
  cases kind with
  | eventTypes => exact unlabelled (.deleteEventType space ⟨name⟩) _
  | functions => exact unlabelled (.deleteFunction space ⟨name⟩) _
  | subscriptions => exact unlabelled (.deleteSubscription space ⟨name⟩) _

theorem outcome_askEntries (space : String) :
    (askEntries kind request limit space).outcome c = handleEntries c kind space request limit := by
  unfold askEntries handleEntries
  cases decodePart "space" space with
  | error e => rfl
  | ok space =>
      by_cases posted : request.method = "POST"
      · simp only [if_pos posted, outcome_askCreate]
      · simp only [if_neg posted, Ask.outcome]

theorem outcome_askEntry (space name : String) :
    (askEntry kind request limit space name).outcome c =
      handleEntry c kind space name request limit := by
  unfold askEntry handleEntry
  cases decodePart "space" space with
  | error e => rfl
  | ok space =>
      cases decodePart kind.nameLabel name with
      | error e => rfl
      | ok name =>
          by_cases put : request.method = "PUT"
          · simp only [if_pos put, outcome_askUpdate]
          · by_cases deleted : request.method = "DELETE"
            · simp only [if_neg put, if_pos deleted, outcome_askDelete]
            · simp only [if_neg put, if_neg deleted, Ask.outcome]

theorem outcome_askAuthorized :
    (askAuthorized request limit).outcome c = handleAuthorized c limit request := by
  unfold askAuthorized handleAuthorized
  cases Resource.ofPath? request.uri.path with
  | none => rfl
  | some resource =>
      by_cases missing : ¬ resource.methods.contains request.method
      · simp only [if_pos missing, Ask.outcome]
      · simp only [if_neg missing]
        cases resource with
        | status => rfl
        | entries kind space => exact outcome_askEntries c kind request limit space
        | entry kind space name => exact outcome_askEntry c kind request limit space name

/-- A request is read first; then the catalog answers what it asks. -/
theorem handle_eq (key : Option String) :
    handle c key limit request = (ask request limit key).outcome c := by
  unfold handle ask
  by_cases authorized : isAuthorized key request.headers
  · simp only [if_pos authorized, outcome_askAuthorized]
  · simp only [if_neg authorized, Ask.outcome]

end Outcomes

/-- What an entry is called of which a path gives the name. -/
def Kind.entryName : Kind → String → EntryName
  | .eventTypes, name => .eventType ⟨name⟩
  | .functions, name => .function ⟨name⟩
  | .subscriptions, name => .subscription ⟨name⟩

/-- Whether a resource is the entry of an address, or is the entries it is one of. -/
def Resource.Names : Resource → Scoped EntryName → Prop
  | .status, _ => False
  | .entries kind space, address =>
    decodePart "space" space = .ok address.space ∧ ∃ name, address.name = kind.entryName name
  | .entry kind space name, address =>
    decodePart "space" space = .ok address.space ∧
      ∃ text, decodePart kind.nameLabel name = .ok text ∧ address.name = kind.entryName text

def writeMethod (w : Write) : String :=
  if w.adds then "POST" else if w.entry?.isSome then "PUT" else "DELETE"

/-- Whether a response tells that what a request asks for is not done. -/
def Refuses (response : Response) : Prop := 400 ≤ response.status ∧ response.status < 500

theorem ApiError.refuses (e : ApiError) : Refuses e.response := by
  rw [Refuses, ApiError.response, Response.json]
  cases e with
  | catalog e => cases e <;> simp [ApiError.status, ApiError.catalogStatus]
  | body e => simp [ApiError.status]

theorem refuses_plain (text : String) : Refuses (.plain 400 text) := by
  simp [Refuses, Response.plain]

theorem refuses_methodNotAllowed (allowed : List String) : Refuses (.methodNotAllowed allowed) := by
  simp [Refuses, Response.methodNotAllowed]

/-- What a request may ask: its method and its path allow it, or it is refused. -/
inductive Asks (request : Request) : Ask → Prop
  | nothing {response : Response} (refuses : Refuses response) : Asks request (.nothing response)
  | status (path : Resource.ofPath? request.uri.path = some .status)
      (reads : request.method = "GET" ∨ request.method = "HEAD") : Asks request .status
  | list {kind : Kind} {part space : String}
      (path : Resource.ofPath? request.uri.path = some (.entries kind part))
      (decoded : decodePart "space" part = .ok space)
      (reads : request.method = "GET" ∨ request.method = "HEAD") : Asks request (.list kind space)
  | entry {kind : Kind} {part namePart space name : String}
      (path : Resource.ofPath? request.uri.path = some (.entry kind part namePart))
      (decoded : decodePart "space" part = .ok space)
      (reads : request.method = "GET" ∨ request.method = "HEAD") :
      Asks request (.entry kind space name)
  | write {w : Write} {resource : Resource}
      (path : Resource.ofPath? request.uri.path = some resource)
      (names : resource.Names w.address) (method : request.method = writeMethod w) :
      Asks request (.write w)

section Asking
variable {request : Request} {limit : Nat} {resource : Resource} {kind : Kind}
  {part namePart space name : String}

theorem asks_askBody {α : Type} {reader : Json.Reader α} {write : α → Write}
    (path : Resource.ofPath? request.uri.path = some resource)
    (names : ∀ x, resource.Names (write x).address)
    (method : ∀ x, request.method = writeMethod (write x)) :
    Asks request (askBody request limit reader write) := by
  unfold askBody
  split
  · exact .write path (names _) (method _)
  · exact .nothing (ApiError.refuses _)

theorem asks_askCreate (path : Resource.ofPath? request.uri.path = some (.entries kind part))
    (decoded : decodePart "space" part = .ok space) (posted : request.method = "POST") :
    Asks request (askCreate kind request limit space) := by
  cases kind with
  | eventTypes => exact asks_askBody path (fun type => ⟨decoded, type.name, rfl⟩) fun _ => posted
  | functions =>
    exact asks_askBody path (fun entry => ⟨decoded, entry.id.text, rfl⟩) fun _ => posted
  | subscriptions => exact asks_askBody path (fun s => ⟨decoded, _, rfl⟩) fun _ => posted

theorem asks_askUpdate
    (path : Resource.ofPath? request.uri.path = some (.entry kind part namePart))
    (decoded : decodePart "space" part = .ok space)
    (named : decodePart kind.nameLabel namePart = .ok name) (put : request.method = "PUT") :
    Asks request (askUpdate kind request limit space name) := by
  cases kind with
  | eventTypes => exact .nothing (refuses_methodNotAllowed _)
  | functions => exact asks_askBody path (fun _ => ⟨decoded, name, named, rfl⟩) fun _ => put
  | subscriptions => exact asks_askBody path (fun _ => ⟨decoded, name, named, rfl⟩) fun _ => put

theorem asks_askDelete
    (path : Resource.ofPath? request.uri.path = some (.entry kind part namePart))
    (decoded : decodePart "space" part = .ok space)
    (named : decodePart kind.nameLabel namePart = .ok name)
    (deleted : request.method = "DELETE") :
    Asks request (askDelete kind space name) := by
  cases kind with
  | eventTypes => exact .write path ⟨decoded, name, named, rfl⟩ deleted
  | functions => exact .write path ⟨decoded, name, named, rfl⟩ deleted
  | subscriptions => exact .write path ⟨decoded, name, named, rfl⟩ deleted

theorem asks_askEntries (path : Resource.ofPath? request.uri.path = some (.entries kind part))
    (known : request.method ∈ (Resource.entries kind part).methods) :
    Asks request (askEntries kind request limit part) := by
  unfold askEntries
  cases decoded : decodePart "space" part with
  | error e => exact .nothing (refuses_plain _)
  | ok space =>
      by_cases posted : request.method = "POST"
      · simp only [if_pos posted]
        exact asks_askCreate path decoded posted
      · simp only [if_neg posted]
        refine .list path decoded ?_
        simpa [Resource.methods, posted] using known

theorem asks_askEntry
    (path : Resource.ofPath? request.uri.path = some (.entry kind part namePart))
    (known : request.method ∈ (Resource.entry kind part namePart).methods) :
    Asks request (askEntry kind request limit part namePart) := by
  unfold askEntry
  cases decoded : decodePart "space" part with
  | error e => exact .nothing (refuses_plain _)
  | ok space =>
      cases named : decodePart kind.nameLabel namePart with
      | error e => exact .nothing (refuses_plain _)
      | ok name =>
          by_cases put : request.method = "PUT"
          · simp only [if_pos put]
            exact asks_askUpdate path decoded named put
          · by_cases deleted : request.method = "DELETE"
            · simp only [if_neg put, if_pos deleted]
              exact asks_askDelete path decoded named deleted
            · simp only [if_neg put, if_neg deleted]
              refine .entry path decoded ?_
              cases kind <;> simpa [Resource.methods, put, deleted] using known

theorem asks_ask (request : Request) (limit : Nat) (key : Option String) :
    Asks request (ask request limit key) := by
  unfold ask askAuthorized
  by_cases authorized : isAuthorized key request.headers
  · rw [if_pos authorized]
    cases path : Resource.ofPath? request.uri.path with
    | none => exact .nothing ⟨by decide, by decide⟩
    | some resource =>
        by_cases missing : ¬ resource.methods.contains request.method
        · simp only [if_pos missing]
          exact .nothing (refuses_methodNotAllowed _)
        · have known : request.method ∈ resource.methods := by simpa using missing
          simp only [if_neg missing]
          cases resource with
          | status => exact .status path (by simpa [Resource.methods] using known)
          | entries kind part => exact asks_askEntries path known
          | entry kind part namePart => exact asks_askEntry path known
  · rw [if_neg authorized]
    exact .nothing ⟨by decide, by decide⟩

end Asking
end EventRelay.ConfigApi
