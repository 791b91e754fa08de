import EventRelay.Event.Codec
import EventRelay.Function.Basic
import EventRelay.Text.Utf8
set_option autoImplicit false

/-!
Events by which the gateway tells of its own activity.
-/
namespace EventRelay.Event

/-- A result as it is told: JSON as such, anything else as text. -/
def resultJson (result : Bytes) : Json :=
  match Json.parse result with
  | .ok value => value
  | .error _ => .string (Text.decodeLossy result)

def system (stamp : Stamp) (name : String) (data : Json) : Event :=
  make stamp ⟨EventType.systemStart ++ name⟩ jsonType data

def received (stamp : Stamp) (path : String) (e : Event) (headers : List (String × String)) :
    Event :=
  system stamp "event.received"
    (Json.ofMembers
      [("path", .string path), ("event", e.toJson), ("headers", Json.ofTexts headers)])

/-- What is told of a function and the event it is called with. -/
def activity (space : String) (id : FunctionId) (e : Event) : List (String × Json) :=
  [("space", .string space), ("functionId", .string id.text), ("event", e.toJson)]

def invoking (stamp : Stamp) (space : String) (id : FunctionId) (e : Event) : Event :=
  system stamp "function.invoking" (Json.ofMembers (activity space id e))

def invoked (stamp : Stamp) (space : String) (id : FunctionId) (e : Event) (result : Bytes) :
    Event :=
  system stamp "function.invoked"
    (Json.ofMembers (activity space id e ++ [("result", resultJson result)]))

/-- A function could not be called, or failed. -/
def invocationFailed (stamp : Stamp) (space : String) (id : FunctionId) (e : Event)
    (message : String) :
    Event :=
  system stamp "function.invocationFailed"
    (Json.ofMembers (activity space id e ++ [("error", .string message)]))

end EventRelay.Event
