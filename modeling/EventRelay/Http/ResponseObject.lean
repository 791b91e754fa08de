import EventRelay.Http.Message
import EventRelay.Json.Printer
import EventRelay.Json.Reader
set_option autoImplicit false

/-!
The objects by which functions answer plain requests: a status, header fields and a body.
-/
namespace EventRelay

/-- A response as a function describes it. -/
structure ResponseObject where
  statusCode : Nat
  headers : List (String × String)
  body : Json
deriving DecidableEq, Repr

namespace ResponseObject

def ofStatus (statusCode : Nat) : ResponseObject := ⟨statusCode, [], .null⟩

/-- The response with a header field, in place of one that is spelled the same. -/
def withHeader (r : ResponseObject) (name value : String) : ResponseObject :=
  { r with headers := Keyed.insert r.headers name value }

/-- A response whose body is JSON text. -/
def json (statusCode : Nat) (body : Json) : ResponseObject :=
  { (ofStatus statusCode).withHeader "Content-Type" "application/json" with
    body := .string body.compact }

def record : Json.Record ResponseObject where
  names := ["statusCode", "headers", "body"]
  required := []
  blank := ofStatus 200
  take name document r :=
    match name with
    | "statusCode" => do return { r with statusCode := ← Json.Reader.nat 65535 document }
    | "headers" => do return { r with headers := ← Json.Reader.map Json.Reader.text document }
    | _ => do return { r with body := ← Json.Reader.value document }

def toJson (r : ResponseObject) : Json :=
  Json.ofMembers [("statusCode", Json.ofNat r.statusCode), ("headers", Json.ofTexts r.headers),
    ("body", r.body)]

/-- The response that a function's result describes; only an object does. -/
def decode? (result : Bytes) : Option ResponseObject :=
  match Json.parse result with
  | .ok (.object members) => (Json.readValue record.read (.object members)).toOption
  | _ => none

/-- The body as bytes: nothing for null, a string as it is, any other value as JSON. -/
def bodyBytes (r : ResponseObject) : Bytes :=
  match r.body with
  | .null => []
  | .string text => Text.encode text
  | value => Text.encode value.compact

def isStatus (n : Nat) : Bool := 100 ≤ n && n ≤ 999

/-- Adds a header field if it may be one; a later one of the same name replaces an earlier one. -/
def addHeader (headers : Headers) (entry : String × String) : Headers :=
  match HeaderField.of? entry.1 (Text.encode entry.2) with
  | some field => headers.set field.name field.value
  | none => headers

/-- The response of HTTP. A number that is no status counts as success. A list of header fields has
no limit here; the header map of a server has 32,768 slots, fills three quarters of them at most,
and fails beyond, so an object that sets more than 24,576 different names is outside of this
model. -/
def toResponse (r : ResponseObject) : Response where
  status := if isStatus r.statusCode then r.statusCode else 200
  headers := r.headers.foldl addHeader []
  body := r.bodyBytes

end ResponseObject
end EventRelay
