import EventRelay.EventType
import EventRelay.Json.Basic
import EventRelay.Time.Instant
import EventRelay.Url.Parser
import EventRelay.Text.Quoted
set_option autoImplicit false

/-!
Events, shaped after the first version of CloudEvents.
-/
namespace EventRelay

/-- An event on its way through the gateway. -/
structure Event where
  type : EventType
  typeVersion : Option String
  cloudEventsVersion : String
  source : String
  id : String
  time : Option Instant
  schemaUrl : Option String
  extensions : Option (List (String × Json))
  contentType : Option String
  data : Json
deriving DecidableEq, Repr, Inhabited

/-- Why an event is not valid. -/
inductive InvalidEvent where
  | missing (fields : List String)
  | source (text : String)
deriving DecidableEq, Repr

def InvalidEvent.message : InvalidEvent → String
  | .missing fields => "missing required field(s): " ++ ", ".intercalate fields
  | .source text => "source " ++ Text.quoted text ++ " is not a valid URI"

/-- Why a request or text is no event. -/
inductive EventError where
  | malformedJson
  | invalid (cause : InvalidEvent)
  | contentType (text : String)
deriving DecidableEq, Repr

def EventError.message : EventError → String
  | .malformedJson => "malformed JSON body"
  | .invalid cause => "CloudEvent doesn't validate: " ++ cause.message
  | .contentType text => "invalid content type " ++ Text.quoted text

/-- What tells a new event from all others: its id, and when it came to be. -/
structure Stamp where
  id : String
  time : Instant
deriving DecidableEq, Repr, Inhabited

namespace Event

def jsonType : String := "application/json"

def eventJsonType : String := "application/cloudevents+json"

def version : String := "0.1"

def gatewaySource : String := "https://serverless.com/event-gateway/#transformationVersion=0.1"

def gatewayMark : List (String × Json) :=
  [("eventgateway",
    Json.ofMembers [("transformed", .bool true), ("transformation-version", .string version)])]

def make (stamp : Stamp) (type : EventType) (contentType : String) (data : Json) : Event where
  type
  typeVersion := none
  cloudEventsVersion := version
  source := gatewaySource
  id := stamp.id
  time := some stamp.time
  schemaUrl := none
  extensions := some gatewayMark
  contentType := some contentType
  data

def missingFields (e : Event) : List String :=
  ([("eventType", e.type.name), ("cloudEventsVersion", e.cloudEventsVersion), ("source", e.source),
    ("eventID", e.id)].filter fun field => field.2.isEmpty).map (·.1)

def isSource (text : String) : Bool := Url.isUrl text || Text.beginsWith "/" text

def validate (e : Event) : Except InvalidEvent Unit :=
  if ¬ e.missingFields.isEmpty then .error (.missing e.missingFields)
  else if ¬ isSource e.source then .error (.source e.source)
  else .ok ()

end Event

/-- What an event of a plain HTTP request tells. -/
structure RequestData where
  headers : List (String × String)
  query : List (String × List String)
  body : Json
  host : String
  path : String
  method : String
  params : List (String × String)
deriving DecidableEq, Repr, Inhabited

def RequestData.blank : RequestData := ⟨[], [], .null, "", "", "", []⟩

end EventRelay
