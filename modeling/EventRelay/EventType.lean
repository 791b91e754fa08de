import EventRelay.Text.Split
set_option autoImplicit false

/-!
Names of event types. Three kinds are built in: direct invocations, plain HTTP requests, and the
events that the gateway sends about its own activity.
-/
namespace EventRelay

/-- The name of an event type. -/
structure EventType where
  name : String
deriving DecidableEq, Ord, Repr, Inhabited

namespace EventType

/-- The event of calling one function and waiting for its result. -/
def invoke : EventType := ⟨"invoke"⟩

/-- The event of an HTTP request that carries no other event. -/
def httpRequest : EventType := ⟨"http.request"⟩

/-- What the names of the gateway's own events begin with. -/
def systemStart : String := "gateway."

def isInvoke (type : EventType) : Bool := type == invoke

def isHttpRequest (type : EventType) : Bool := type == httpRequest

def isSystem (type : EventType) : Bool := Text.beginsWith systemStart type.name

def isBuiltIn (type : EventType) : Bool := type.isHttpRequest || type.isSystem

end EventType
end EventRelay
