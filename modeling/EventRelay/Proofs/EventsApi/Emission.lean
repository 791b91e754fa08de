import EventRelay.Client
import EventRelay.Proofs.EventsApi.Spaces
import EventRelay.Proofs.Http.Fields
import EventRelay.Proofs.Json.Canonical

set_option autoImplicit false

/-!
What a client emits arrives at the gateway as it was: the event has the name and the data that were
given, whatever the data looks like, and is handled in the space of the client.
-/
namespace EventRelay

section Envelopes
variable {stamp : Stamp} {event : String} {data : Json} {body : Bytes}

theorem Client.emitBody_eq (event : String) (data : Json) :
    emitBody event data = .object [("data", data), ("event", .string event)] := by
  have order : (compare "data" "event").isLT = true := by decide
  simp [emitBody, Json.ofMembers, Keyed.ofList, Keyed.insert, order]

theorem envelopeData?_emitBody (canonical : data.Canonical) :
    Event.envelopeData? ⟨event⟩ (Client.emitBody event data) = some data := by
  have inner : Json.Reader.value (Json.Document.ofJson data) = .ok data := canonical.toJson_ofJson
  have read : Json.readValue Event.Envelope.record.read (Client.emitBody event data) =
      .ok ⟨event, data⟩ := by
    rw [Client.emitBody_eq]
    simp only [Json.readValue, Json.Document.ofJson, Json.Document.ofMembers, Json.Record.read,
      Json.Record.takeMembers, Event.Envelope.record, inner]
    rfl
  rw [Event.envelopeData?, read]
  simp

theorem canonical_of_emitBody (canonical : (Client.emitBody event data).Canonical) :
    data.Canonical := by
  rw [Client.emitBody_eq] at canonical
  exact canonical.of_mem List.mem_cons_self

/-- A body that reads as an envelope of the named event carries the data of the envelope. -/
theorem ofNamed_of_parse (reads : Json.parse body = .ok (Client.emitBody event data)) :
    Event.ofNamed stamp ⟨event⟩ Event.jsonType body =
      .ok (Event.make stamp ⟨event⟩ Event.jsonType data) := by
  have canonical := canonical_of_emitBody (Json.canonical_of_parse reads)
  have filled : body.isEmpty = false := by
    cases body with
    | nil => cases reads
    | cons byte rest => rfl
  have decoded : Event.decodeBody Event.jsonType body = .ok (Client.emitBody event data) := by
    have json : Event.isJsonType Event.jsonType = true := by decide
    simp only [Event.decodeBody, filled, json, reads, Bool.false_eq_true, ↓reduceIte]
  simp only [Event.ofNamed, decoded, bind, Except.bind, envelopeData?_emitBody canonical]
  rfl

end Envelopes

section Calls
variable {client : Client} {base : Call} {event : String} {data : Json}

def Client.emitFields (client : Client) (event : String) : Headers :=
  [⟨"event", Text.encode event⟩, ⟨"content-type", Text.encode "application/json"⟩] ++
    (client.space.map fun space => (⟨"space", Text.encode space⟩ : HeaderField)).toList

theorem Call.withHeader_of_visible (call : Call) {name text : String}
    (lower : HeaderField.name? name = some name) (visible : text.toList.all isVisible = true) :
    call.withHeader name text =
      .ok { call with headers := call.headers ++ [⟨name, Text.encode text⟩] } := by
  rw [withHeader, HeaderField.of?, lower, isValue_of_visible visible]
  rfl

theorem Call.eq_ofUrl {method : String} {url : Url}
    (addressed : Call.ofUrl? method url = .ok base) : base = Call.ofUrl method url := by
  unfold Call.ofUrl? at addressed
  split at addressed
  · cases addressed
  · cases addressed
    rfl
  · cases addressed

/-- The fields of a call before any are added: at most its user and password. -/
theorem Call.ofUrl?_eq_ok {method : String} {url : Url}
    (addressed : Call.ofUrl? method url = .ok base) :
    base.method = method ∧ ∀ field ∈ base.headers, field.name = "authorization" := by
  rw [Call.eq_ofUrl addressed, Call.ofUrl]
  split
  · exact ⟨rfl, by simp [basicAuthorization]⟩
  · exact ⟨rfl, fun _ member => nomatch member⟩

/-- A call that a client addresses says of what type its body is, and for which space. -/
theorem Client.address_eq (call : Call) (body : Json)
    (spaced : ∀ space, client.space = some space → space.toList.all isVisible = true) :
    client.address body call = .ok { call with
      headers := call.headers ++ (⟨"content-type", Text.encode "application/json"⟩ ::
        (client.space.map fun space => (⟨"space", Text.encode space⟩ : HeaderField)).toList)
      body := Text.encode body.compact } := by
  have spaceName : HeaderField.name? "space" = some "space" := by decide +kernel
  cases addressee : client.space with
  | none => simp [address, addressee, Call.withJson, Headers.append]
  | some space =>
      have visible := spaced space addressee
      simp [address, addressee, Call.withJson, Headers.append,
        Call.withHeader_of_visible _ spaceName visible]

end Calls

/-- The names of the fields that tell a gateway which event a request carries, and to which
space. -/
def readFields : List String := ["content-type", "event", "space"] ++ Event.binaryFields

/-- A request brings a call to a gateway: fields that are added on the way tell nothing of the
event, and the JSON of the body is the same however it is written. -/
structure Carries (call : Call) (request : Request) : Prop where
  method : request.method = call.method
  fields : ∀ name ∈ readFields, request.headers.first? name = call.headers.first? name
  body : Json.parse request.body = Json.parse call.body

/-- The space in which a gateway handles what a client sends. -/
def Client.addressee (client : Client) (defaultSpace : String) : String :=
  (client.space.filter (!·.isEmpty)).getD defaultSpace

section Requests
variable {client : Client} {base call : Call} {event : String} {data : Json} {request : Request}

theorem first?_append_of_ne {headers others : Headers} {name : String}
    (absent : ∀ field ∈ headers, field.name ≠ name) :
    Headers.first? (headers ++ others) name = Headers.first? others name := by
  have none : headers.find? (·.name == name) = none := by
    rw [List.find?_eq_none]
    intro field member
    simpa using absent field member
  rw [Headers.first?, List.find?_append, none, Option.none_or, Headers.first?]

theorem mediaType_of_first? {headers : Headers}
    (typed : headers.first? "content-type" =
      some ⟨"content-type", Text.encode "application/json"⟩) :
    Event.mediaType headers = .ok Event.jsonType := by
  rw [Event.mediaType, typed]
  decide +kernel

theorem isBinary_eq_false {headers : Headers} (absent : headers.first? "ce-eventtype" = none) :
    Event.isBinary headers = false := by
  simp [Event.isBinary, Event.binaryFields, Headers.filled?, Headers.text?, absent]

/-- What a request that brings an emission says in the fields that are read. -/
structure Client.Announces (client : Client) (event : String) (headers : Headers) : Prop where
  contentType : headers.first? "content-type" =
    some ⟨"content-type", Text.encode "application/json"⟩
  event : headers.first? "event" = some ⟨"event", Text.encode event⟩
  space : headers.first? "space" =
    client.space.map fun space => (⟨"space", Text.encode space⟩ : HeaderField)
  binary : headers.first? "ce-eventtype" = none

theorem Client.announces_emitFields (client : Client) (event : String) :
    client.Announces event (client.emitFields event) := by
  cases addressee : client.space <;>
    constructor <;> simp [Headers.first?, Client.emitFields, addressee]

theorem Carries.announces_of (addressed : Call.ofUrl? "POST" client.url = .ok base)
    (carries : Carries call request) {added : Headers}
    (fields : call.headers = base.headers ++ added)
    (announces : client.Announces event added) : client.Announces event request.headers := by
  obtain ⟨-, plain⟩ := Call.ofUrl?_eq_ok addressed
  have said : ∀ name ∈ readFields, name ≠ "authorization" →
      request.headers.first? name = Headers.first? added name := by
    intro name read other
    rw [carries.fields name read, fields]
    refine first?_append_of_ne fun field member => ?_
    rw [plain field member]
    exact other.symm
  exact ⟨(said _ (by decide) (by decide)).trans announces.contentType,
    (said _ (by decide) (by decide)).trans announces.event,
    (said _ (by decide) (by decide)).trans announces.space,
    (said _ (by decide) (by decide)).trans announces.binary⟩

theorem Carries.announces (addressed : Call.ofUrl? "POST" client.url = .ok base)
    (carries : Carries call request)
    (fields : call.headers = base.headers ++ client.emitFields event) :
    client.Announces event request.headers :=
  carries.announces_of addressed fields (client.announces_emitFields event)

theorem Client.Announces.ofRequest_eq_ofNamed (announces : client.Announces event request.headers)
    (named : event.toList.all isVisible = true) (stamp : Stamp) :
    Event.ofRequest stamp request = Event.ofNamed stamp ⟨event⟩ Event.jsonType request.body := by
  have typed := mediaType_of_first? announces.contentType
  have unstructured : Event.jsonType ≠ Event.eventJsonType := by decide
  have plain := isBinary_eq_false announces.binary
  have name : request.headers.text? "event" = some event := by
    rw [Headers.text?, announces.event]
    exact text?_of_visible _ named
  simp only [Event.ofRequest, typed, bind, Except.bind, unstructured, ↓reduceIte, plain, name,
    Bool.false_eq_true]

theorem Client.Announces.ofRequest_eq (announces : client.Announces event request.headers)
    (named : event.toList.all isVisible = true)
    (reads : Json.parse request.body = .ok (Client.emitBody event data)) (stamp : Stamp) :
    Event.ofRequest stamp request = .ok (Event.make stamp ⟨event⟩ Event.jsonType data) := by
  rw [announces.ofRequest_eq_ofNamed named]
  exact ofNamed_of_parse reads

theorem Client.Announces.spaceOf_eq (announces : client.Announces event request.headers)
    (spaced : ∀ space, client.space = some space → space.toList.all isVisible = true)
    (defaultSpace : String) :
    EventsApi.spaceOf defaultSpace request.headers = client.addressee defaultSpace := by
  rw [EventsApi.spaceOf, Headers.filled?, Headers.text?, announces.space, Client.addressee]
  cases addressee : client.space with
  | none => rfl
  | some space =>
      rw [Option.map_some, Option.bind_some, text?_of_visible _ (spaced space addressee)]

theorem handle_eq_answer {ctx : EventsApi.Context} {e : Event} (posted : request.method = "POST")
    (fits : (request.bodyWithin? ctx.bodyLimit).isSome = true)
    (carried : Event.ofRequest (ctx.stamps 0) request = .ok e) :
    EventsApi.handle ctx false request = EventsApi.answer ctx request e := by
  obtain ⟨body, within⟩ := Option.isSome_iff_exists.mp fits
  have plain : Cors.isEventPreflight request.method request.headers = false := by
    simp [Cors.isEventPreflight, posted]
  simp only [EventsApi.handle, plain, within, carried, Bool.false_eq_true, ↓reduceIte]

end Requests

def exampleClient : Client where
  url := ⟨"http", "", none, some (.domain "localhost"), some 4000, .segments [""], none, none⟩
  space := some "acme"

/-- Data that looks like an envelope of its own event, with a valid event in it. -/
def exampleImitation : Json :=
  .object [("data", .object [("cloudEventsVersion", .string "0.1"), ("eventID", .string "1"),
    ("eventType", .string "user.deleted"), ("source", .string "/crm")]),
    ("event", .string "user.created")]

/-- The request of its emission, as it may come in. -/
def exampleArrival : Request where
  method := "POST"
  uri := ⟨none, none, "/", none⟩
  headers := [⟨"host", Text.encode "localhost:4000"⟩, ⟨"event", Text.encode "user.created"⟩,
    ⟨"content-type", Text.encode "application/json"⟩, ⟨"space", Text.encode "acme"⟩,
    ⟨"content-length", Text.encode "149"⟩]
  body := Text.encode (Json.object
    [("event", .string "user.created"), ("data", exampleImitation)]).compact

def exampleContext : EventsApi.Context := ⟨.empty, "default", 200, fun _ => default⟩

end EventRelay
