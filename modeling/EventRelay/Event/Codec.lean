import EventRelay.Event.Basic
import EventRelay.Json.Reader
import EventRelay.Time.Rfc3339
set_option autoImplicit false

/-!
Events as JSON. What is not set is left out; what is left out is empty, and data is null.
-/
namespace EventRelay

open Json (Document Fault Reader Record)

namespace Event

def timeReader : Reader Instant := fun document => do
  match Rfc3339.parseLoose? (← Reader.text document) with
  | some time => return time
  | none => throw .mismatch

def blank : Event := ⟨⟨""⟩, none, "", "", "", none, none, none, none, .null⟩

def record : Record Event where
  names := ["eventType", "eventTypeVersion", "cloudEventsVersion", "source", "eventID", "eventTime",
    "schemaURL", "extensions", "contentType", "data"]
  required := []
  blank := blank
  take name document e :=
    match name with
    | "eventType" => do return { e with type := ⟨← Reader.text document⟩ }
    | "eventTypeVersion" => do
      return { e with typeVersion := ← Reader.optional Reader.text document }
    | "cloudEventsVersion" => do return { e with cloudEventsVersion := ← Reader.text document }
    | "source" => do return { e with source := ← Reader.text document }
    | "eventID" => do return { e with id := ← Reader.text document }
    | "eventTime" => do return { e with time := ← Reader.optional timeReader document }
    | "schemaURL" => do return { e with schemaUrl := ← Reader.optional Reader.text document }
    | "extensions" => do return { e with extensions := ← Reader.optional Reader.object document }
    | "contentType" => do return { e with contentType := ← Reader.optional Reader.text document }
    | _ => do return { e with data := ← Reader.value document }

def member? (name : String) (value : Option Json) : List (String × Json) :=
  (value.map fun value => (name, value)).toList

def toJson (e : Event) : Json :=
  Json.ofMembers ([("eventType", .string e.type.name),
      ("cloudEventsVersion", .string e.cloudEventsVersion), ("source", .string e.source),
      ("eventID", .string e.id), ("data", e.data)]
    ++ member? "eventTypeVersion" (e.typeVersion.map .string)
    ++ member? "eventTime" (e.time.map fun time => .string (Rfc3339.text time))
    ++ member? "schemaURL" (e.schemaUrl.map .string)
    ++ member? "extensions" (e.extensions.map .object)
    ++ member? "contentType" (e.contentType.map .string))

def ofJson? (value : Json) : Option Event := (Json.readValue record.read value).toOption

end Event

namespace RequestData

def record : Record RequestData where
  names := ["headers", "query", "body", "host", "path", "method", "params"]
  required := []
  blank := blank
  take name document d :=
    match name with
    | "headers" => do return { d with headers := ← Reader.map Reader.text document }
    | "query" => do return { d with query := ← Reader.map (Reader.list Reader.text) document }
    | "body" => do return { d with body := ← Reader.value document }
    | "host" => do return { d with host := ← Reader.text document }
    | "path" => do return { d with path := ← Reader.text document }
    | "method" => do return { d with method := ← Reader.text document }
    | _ => do return { d with params := ← Reader.map Reader.text document }

def toJson (d : RequestData) : Json :=
  Json.ofMembers [("headers", Json.ofTexts d.headers),
    ("query", .object (Keyed.mapValues Json.strings d.query)), ("body", d.body),
    ("host", .string d.host), ("path", .string d.path), ("method", .string d.method),
    ("params", Json.ofTexts d.params)]

def ofJson? (value : Json) : Option RequestData := (Json.readValue record.read value).toOption

end RequestData

def Event.httpRequest? (e : Event) : Option RequestData :=
  if e.type.isHttpRequest then RequestData.ofJson? e.data else none

end EventRelay
