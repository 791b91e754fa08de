import EventRelay.Http.Status
import EventRelay.Json.Printer
import EventRelay.Net.Call
set_option autoImplicit false

/-!
Registering the functions for users with a gateway, and the routes on which they answer. What is
there already does not count as a failure; the first failure ends the registration.
-/
namespace EventRelay.Users

inductive RegistrationError where
  | call (error : CallError)
  | refused (url : String) (status : Nat) (body : String)
deriving Repr

/-- The functions, each with its name in the URL of the service. -/
def served : List (String × String) :=
  [("users-get", "get"), ("users-create", "create"), ("users-delete", "delete")]

/-- The routes of the functions: method, path, function. -/
def routes : List (String × String × String) :=
  [("GET", "/users/:id", "users-get"), ("POST", "/users", "users-create"),
    ("DELETE", "/users/:id", "users-delete")]

def functionEntry (service : String) (entry : String × String) : Json :=
  Json.ofMembers [("functionId", .string entry.1),
    ("provider", Json.ofMembers [("type", .string "http"),
      ("url", .string (service ++ "/users/" ++ entry.2))])]

def routeEntry (entry : String × String × String) : Json :=
  Json.ofMembers [("type", .string "sync"), ("eventType", .string "http.request"),
    ("functionId", .string entry.2.2), ("method", .string entry.1), ("path", .string entry.2.1)]

/-- All that is registered, in order: the list that an entry goes to, and the entry. -/
def entries (service : String) : List (String × Json) :=
  (served.map fun entry => ("functions", functionEntry service entry))
    ++ routes.map fun entry => ("subscriptions", routeEntry entry)

/-- What the answer to an entry means. An entry that is there already is no failure. -/
def outcome (url : String) : Except CallError (Nat × Option Bytes) → Except RegistrationError Unit
  | .error e => .error (.call e)
  | .ok (status, body) =>
    if Status.isSuccess status ∨ status = 409 then .ok ()
    else .error (.refused url status (Text.decodeLossy (body.getD [])))

variable {σ : Type}

/-- Adds an entry to a list of a gateway. -/
def post (network : Network σ) (url : String) (entry : Json) :
    StateM σ (Except RegistrationError Unit) := do
  match Call.of? "POST" url with
  | .error e => return outcome url (.error e)
  | .ok call => return outcome url (← (call.withJson (Text.encode entry.compact)).send network)

def postAll (network : Network σ) (base : String) :
    List (String × Json) → StateM σ (Except RegistrationError Unit)
  | [] => pure (.ok ())
  | (list, entry) :: rest => do
    match ← post network (base ++ list) entry with
    | .ok () => postAll network base rest
    | .error e => return .error e

/-- Registers the service. The arguments are the URLs of the gateway and of the service. -/
def register (network : Network σ) (arguments : List String) :
    StateM σ (Except RegistrationError Unit) :=
  postAll network (arguments.getD 0 "http://localhost:4001" ++ "/v1/spaces/default/")
    (entries (arguments.getD 1 "http://localhost:3000"))

end EventRelay.Users
