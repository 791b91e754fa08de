import EventRelay.Dispatch.Activity
import EventRelay.Event.OfRequest
import EventRelay.Http.Body
import EventRelay.Http.Cors
import EventRelay.Http.ResponseObject
import EventRelay.Metrics
import EventRelay.RoutingTable
set_option autoImplicit false

/-!
What happens to a request that reaches the events side. It carries an event; a direct invocation
calls its function, a plain request is answered by the function on its route, and any other event
either has a sync subscriber, which is called, or goes to the queue.
-/
namespace EventRelay.EventsApi

structure Context where
  routes : RoutingTable
  defaultSpace : String
  bodyLimit : Nat
  stamps : Stamps

/-- A response, and the class of the event that led to it. -/
structure Answer where
  response : Response
  received : Option EventClass

def refused (response : Response) : Activity Answer := .done ⟨response, none⟩

def spaceOf (defaultSpace : String) (headers : Headers) : String :=
  (headers.filled? "space").getD defaultSpace

def call (ctx : Context) (space : String) (id : FunctionId) (e : Event)
    (respond : Except FunctionError Bytes → Response) : Activity Response :=
  .announced (ctx.stamps.after 2) space id e (.invoke space id e) fun outcome =>
    .done (respond outcome)

/-- The result of a function as the body of a response. -/
def relayed : Except FunctionError Bytes → Response
  | .ok body => .binary 200 body
  | .error e => .plain 500 e.message

/-- The text for a result that describes no response. -/
def malformedResult : String := "HTTP response object returned by function malformed."

/-- The response that the result of a function describes. -/
def described : Except FunctionError Bytes → Response
  | .ok body =>
    match ResponseObject.decode? body with
    | some found => found.toResponse
    | none => .plain 500 malformedResult
  | .error e => .plain 500 e.message

def invoke (ctx : Context) (space : String) (headers : Headers) (e : Event) : Activity Response :=
  match headers.filled? "function-id" with
  | none => .done (.plain 400 "Function-ID header is required for invoke events")
  | some id => call ctx space ⟨id⟩ e relayed

/-- Emits an event: to its sync subscriber, or else to the queue. -/
def emit (ctx : Context) (space path method : String) (e : Event) : Activity Response :=
  match ctx.routes.syncTarget space method path e.type with
  | some (target, _) => call ctx space target.functionId e relayed
  | none => .offer ⟨space, path, e⟩ (.done (.ofStatus 202))

/-- Handles an event that is not a plain request. -/
def custom (ctx : Context) (space : String) (request : Request) (e : Event) : Activity Answer :=
  if Cors.isPreflight request.method request.headers then
    refused (Cors.allowAllPreflight request.headers)
  else if request.method ≠ "POST" then
    refused (.plain 400 "custom event can be emitted only with POST method")
  else if e.type.isInvoke then
    (invoke ctx space request.headers e).map (⟨·, some .invoke⟩)
  else if e.type.isSystem then .done ⟨.ofStatus 202, some .system⟩
  else (emit ctx space request.uri.path request.method e).map (⟨·, some .custom⟩)

/-- The event of a request with what its route captured. -/
def withParams (e : Event) (params : Route.Params) : Event :=
  match e.httpRequest? with
  | some data => { e with data := { data with params }.toJson }
  | none => e

/-- Answers a plain request by the function on its route. -/
def sync (ctx : Context) (space : String) (request : Request) (e : Event) : Activity Response :=
  let method := Cors.effectiveMethod request.method request.headers
  match ctx.routes.syncTarget space method request.uri.path e.type with
  | none => .done (.plain 404 "resource not found")
  | some (target, params) =>
    match target.cors with
    | none => call ctx space target.functionId (withParams e params) described
    | some cors =>
      if Cors.isPreflight request.method request.headers then
        .done (Cors.preflight cors request.headers)
      else
        call ctx space target.functionId (withParams e params) fun outcome =>
          Cors.apply cors request.headers (described outcome)

/-- Handles a request whose event is known. -/
def answer (ctx : Context) (request : Request) (e : Event) : Activity Answer :=
  let space := spaceOf ctx.defaultSpace request.headers
  .offer (.ofSystem space
    (Event.received (ctx.stamps 1) request.uri.path e request.headers.joinedTexts))
  (if e.type.isHttpRequest then (sync ctx space request e).map (⟨·, some .http⟩)
    else
      (custom ctx space request e).map fun a =>
        { a with response := Cors.allowAll request.headers a.response })

/-- Handles a request. Four stamps are used. -/
def handle (ctx : Context) (draining : Bool) (request : Request) : Activity Answer :=
  if draining then refused (.plain 503 "Service Unavailable")
  else if Cors.isEventPreflight request.method request.headers then
    refused (Cors.allowAllPreflight request.headers)
  else
    match request.bodyWithin? ctx.bodyLimit with
    | none => refused (.plain 413 "request body too large")
    | some _ =>
      match Event.ofRequest (ctx.stamps 0) request with
      | .error e => refused (.plain 400 e.message)
      | .ok e => answer ctx request e

end EventRelay.EventsApi
