import EventRelay.Base64
import EventRelay.Event.Codec
import EventRelay.Form
import EventRelay.Http.Message
import EventRelay.Text.Characters
set_option autoImplicit false

/-!
The event that a request carries. A structured one is the body; a binary one has its attributes in
header fields and its data in the body; a named one has its type in the field `Event`. Any other
request is an event itself.
-/
namespace EventRelay.Event

/-- The media type of bytes of unknown meaning. -/
def octetType : String := "application/octet-stream"

/-- The media type of a request, in lower case and without parameters. -/
def mediaType (headers : Headers) : Except EventError String :=
  match headers.first? "content-type" with
  | none => .ok octetType
  | some field =>
    match field.text? with
    | none => .error (.contentType "<non-ascii>")
    | some raw =>
      let essence := Text.trim (String.ofList (raw.toList.takeWhile (· ≠ ';')))
      if essence.isEmpty then .ok octetType
      else if ¬ essence.toList.contains '/' then .error (.contentType raw)
      else .ok (Text.lower essence)

def isJsonType (mime : String) : Bool := mime == jsonType || Text.endsWith "+json" mime

def isFormType (mime : String) : Bool :=
  Text.beginsWith "multipart/form-data" mime || mime == "application/x-www-form-urlencoded"

/-- A body as data: JSON as its value, a form and other text as a string, other bytes in base 64. -/
def decodeBody (mime : String) (body : Bytes) : Except EventError Json :=
  if body.isEmpty then .ok .null
  else if isJsonType mime then
    match Json.parse body with
    | .ok value => .ok value
    | .error _ => .error .malformedJson
  else if isFormType mime then .ok (.string (Text.decodeLossy body))
  else
    match Text.decode? body with
    | some text => .ok (.string text)
    | none => .ok (.string (Base64.encode Base64.standard body))

def checked (e : Event) : Except EventError Event :=
  match e.validate with
  | .ok () => .ok e
  | .error cause => .error (.invalid cause)

def ofStructured (body : Bytes) : Except EventError Event :=
  match Json.readBytes record.read body with
  | .ok e => checked e
  | .error _ => .error .malformedJson

/-- The header fields that a binary event has to have. -/
def binaryFields : List String :=
  ["ce-eventtype", "ce-cloudeventsversion", "ce-source", "ce-eventid"]

def isBinary (headers : Headers) : Bool :=
  binaryFields.all fun name => (headers.filled? name).isSome

/-- The extensions that header fields give. -/
def extensionsOf (headers : Headers) : List (String × Json) :=
  Keyed.ofList (headers.texts.filterMap fun entry =>
    (Text.after? "ce-x-" entry.1).map fun key => (key, Json.string entry.2))

def ofBinary (headers : Headers) (mime : String) (body : Bytes) : Except EventError Event := do
  let data ← decodeBody mime body
  checked {
    type := ⟨(headers.text? "ce-eventtype").getD ""⟩
    typeVersion := headers.text? "ce-eventtypeversion"
    cloudEventsVersion := (headers.text? "ce-cloudeventsversion").getD ""
    source := (headers.text? "ce-source").getD ""
    id := (headers.text? "ce-eventid").getD ""
    time := (headers.text? "ce-eventtime").bind Rfc3339.parse?
    schemaUrl := headers.filled? "ce-schemaurl"
    extensions := some (extensionsOf headers)
    contentType := headers.text? "content-type"
    data }

/-- A body that names its event. -/
structure Envelope where
  event : String
  data : Json
deriving DecidableEq, Repr

def Envelope.record : Json.Record Envelope where
  names := ["event", "data"]
  required := ["event"]
  blank := ⟨"", .null⟩
  take name document envelope :=
    match name with
    | "event" => do return { envelope with event := ← Json.Reader.text document }
    | _ => do return { envelope with data := ← Json.Reader.value document }

/-- The data of a body that names the given event. -/
def envelopeData? (type : EventType) (value : Json) : Option Json :=
  match Json.readValue Envelope.record.read value with
  | .ok envelope => if envelope.event = type.name then some envelope.data else none
  | .error _ => none

def validOfJson? (value : Json) : Option Event :=
  (ofJson? value).bind fun e => (checked e).toOption

/-- An event of a named type. JSON that names the type again holds the data, JSON that describes a
valid event is that event, and any other body is the data itself. -/
def ofNamed (stamp : Stamp) (type : EventType) (mime : String) (body : Bytes) :
    Except EventError Event := do
  let data ← decodeBody mime body
  if mime ≠ jsonType then return make stamp type mime data
  match envelopeData? type data with
  | some inner => return make stamp type mime inner
  | none =>
    match validOfJson? data with
    | some e => return e
    | none => return make stamp type mime data

def requestData (request : Request) (body : Json) : RequestData where
  headers := request.headers.lastTexts
  query := (request.uri.query.map Form.values).getD []
  body
  host := ((request.headers.text? "host").or request.uri.host?).getD ""
  path := request.uri.path
  method := request.method
  params := []

def ofPlain (stamp : Stamp) (request : Request) (mime : String) : Except EventError Event := do
  let body ← decodeBody mime request.body
  return make stamp EventType.httpRequest eventJsonType (requestData request body).toJson

def ofRequest (stamp : Stamp) (request : Request) : Except EventError Event := do
  let mime ← mediaType request.headers
  if mime = eventJsonType then ofStructured request.body
  else if isBinary request.headers then ofBinary request.headers mime request.body
  else
    match request.headers.text? "event" with
    | some name => ofNamed stamp ⟨name⟩ mime request.body
    | none => ofPlain stamp request mime

end EventRelay.Event
