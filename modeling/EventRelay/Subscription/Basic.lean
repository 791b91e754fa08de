import EventRelay.Base64
import EventRelay.EventType
import EventRelay.Function.Basic
import EventRelay.Percent
import EventRelay.Text.Characters
set_option autoImplicit false

/-!
Subscriptions bind an event type to a function. An async one has matching events delivered in the
background; a sync one answers the request that carried the event, so it also names a method and a
route. The id of a subscription is made of the fields that route events to it.
-/
namespace EventRelay

/-- The name of a subscription within its space. -/
structure SubscriptionId where
  text : String
deriving DecidableEq, Ord, Repr, Inhabited

inductive SubscriptionKind where
  | async
  | sync
deriving DecidableEq, Repr, Inhabited

def SubscriptionKind.name : SubscriptionKind → String
  | .async => "async"
  | .sync => "sync"

/-- Who may read the answers of a sync subscription from a web page of another origin. -/
structure CorsSettings where
  origins : List String
  methods : List String
  headers : List String
  allowCredentials : Bool
deriving DecidableEq, Repr, Inhabited

def CorsSettings.standard : CorsSettings where
  origins := ["*"]
  methods := ["HEAD", "GET", "POST"]
  headers := ["Origin", "Accept", "Content-Type"]
  allowCredentials := false

/-- A function's interest in the events of a type. -/
structure Subscription where
  space : String
  id : SubscriptionId
  kind : SubscriptionKind
  eventType : EventType
  functionId : FunctionId
  path : String
  method : Option String
  cors : Option CorsSettings
deriving DecidableEq, Repr, Inhabited

inductive SubscriptionError where
  | noEventType
  | functionId (id : FunctionId)
  | path (path : String)
  | method (method : String)
  | httpRequestAsync
  | emptyCors
deriving DecidableEq, Repr

def SubscriptionError.message : SubscriptionError → String
  | .noEventType => "eventType is required"
  | .functionId id => "invalid functionId " ++ Text.quoted id.text
  | .path text => "invalid path " ++ Text.quoted text
  | .method name => "unsupported method " ++ Text.quoted name
  | .httpRequestAsync => "http.request events can only have sync subscriptions"
  | .emptyCors => "cors origins, methods and headers must not be empty"

namespace Subscription

def ofAsync (space eventType functionId : String) : Subscription where
  space
  id := ⟨""⟩
  kind := .async
  eventType := ⟨eventType⟩
  functionId := ⟨functionId⟩
  path := "/"
  method := none
  cors := none

def ofSync (space eventType functionId method path : String) : Subscription :=
  { ofAsync space eventType functionId with kind := .sync, method := some method, path }

def methods : List String := ["GET", "POST", "DELETE", "PUT", "PATCH", "HEAD", "OPTIONS"]

/-- Characters of a path that stand for themselves in an id. -/
def keptInId (c : Char) : Bool :=
  c.isAlphanum || ['-', '.', '_', '~', '$', '&', '+', ':', '=', '@'].contains c

/-- A path as it stands in an id, where it can hold neither a comma nor a slash. -/
def escapedPath (path : String) : String := Percent.encode keptInId path

/-- The fields that route events to a subscription. The function is one of them for async ones
only, so that two functions never share the method and path of a sync one. -/
def routingFields (s : Subscription) : List String :=
  let ends := [escapedPath s.path, s.method.getD ""]
  match s.kind with
  | .async => [s.kind.name, s.eventType.name, s.functionId.text] ++ ends
  | .sync => [s.kind.name, s.eventType.name] ++ ends

/-- The id that the routing fields make up. -/
def computeId (s : Subscription) : SubscriptionId :=
  ⟨Base64.encode Base64.urlSafe (Text.encode (",".intercalate s.routingFields))⟩

def identified (s : Subscription) : Subscription := { s with id := s.computeId }

/-- A path with a slash at its start. -/
def rooted (path : String) : String := if Text.beginsWith "/" path then path else "/" ++ path

/-- Whether some part of the settings is empty. -/
def lacksCors (s : Subscription) : Bool :=
  match s.cors with
  | none => false
  | some cors => cors.origins.isEmpty || cors.methods.isEmpty || cors.headers.isEmpty

/-- Fills in what may be left out and checks the fields one after another. With the first error
comes the subscription as far as it was filled in. -/
def normalize (s : Subscription) : Subscription × Option SubscriptionError :=
  if s.eventType.name.isEmpty then (s, some .noEventType)
  else if ¬ s.functionId.isValid then (s, some (.functionId s.functionId))
  else
    let s := { s with path := rooted s.path }
    if s.path.toList.any Text.isBlank then (s, some (.path s.path))
    else
      let method := Text.upper (s.method.getD "POST")
      if ¬ methods.contains method then (s, some (.method method))
      else
        let s := { s with method := some method }
        match s.kind with
        | .async =>
          if s.eventType.isHttpRequest then (s, some .httpRequestAsync)
          else ({ s with cors := none }.identified, none)
        | .sync => if s.lacksCors then (s, some .emptyCors) else (s.identified, none)

/-- The normalized subscription, or the first error. -/
def normalized (s : Subscription) : Except SubscriptionError Subscription :=
  match s.normalize with
  | (_, some e) => .error e
  | (s, none) => .ok s

end Subscription
end EventRelay
