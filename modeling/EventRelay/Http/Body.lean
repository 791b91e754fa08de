import EventRelay.Http.MediaType
import EventRelay.Http.Message
import EventRelay.Json.Reader
set_option autoImplicit false

/-!
Bodies of requests: how much of one is read, and JSON read as a type.
-/
namespace EventRelay

namespace Request

def declaredLength? (request : Request) : Option Nat :=
  match request.headers.text? "content-length" with
  | none => none
  | some text =>
    let digits := (Text.after? "+" text).getD text
    if digits.isEmpty ∨ ¬ digits.toList.all Char.isDigit then none
    else
      let n := digits.toList.foldl (fun n c => 10 * n + (c.toNat - '0'.toNat)) 0
      if n < Nat.pow 2 64 then some n else none

def declaresOver (request : Request) (limit : Nat) : Bool :=
  match request.declaredLength? with
  | some n => limit < n
  | none => false

/-- The body, unless it is longer than a limit. -/
def bodyUpTo? (request : Request) (limit : Nat) : Option Bytes :=
  if request.body.length ≤ limit then some request.body else none

/-- The body, unless it is longer than a limit or than the request declares. -/
def bodyWithin? (request : Request) (limit : Nat) : Option Bytes :=
  match request.declaredLength? with
  | some n => request.bodyUpTo? (min n limit)
  | none => request.bodyUpTo? limit

end Request

/-- Why a body cannot be read as JSON of a type. -/
inductive BodyError where
  | contentType
  | tooLong
  | fault (fault : Json.Fault)
deriving DecidableEq, Repr

namespace BodyError

def message : BodyError → String
  | .contentType => "Expected request with \x60Content-Type: application/json\x60"
  | .tooLong => "Failed to buffer the request body: length limit exceeded"
  | .fault .malformed => "Failed to parse the request body as JSON"
  | .fault .mismatch => "Failed to deserialize the JSON body into the target type"

def status : BodyError → Nat
  | .contentType => 415
  | .tooLong => 413
  | .fault .malformed => 400
  | .fault .mismatch => 422

end BodyError

namespace Request

def jsonLimit : Nat := 2097152

/-- A body, if it is not too long, read as JSON of a type. -/
def readJson {α : Type} (request : Request) (body : Option Bytes) (reader : Json.Reader α) :
    Except BodyError α :=
  if ¬ request.headers.sayJson then .error .contentType
  else
    match body with
    | none => .error .tooLong
    | some bytes =>
      match Json.readBytes reader bytes with
      | .ok value => .ok value
      | .error fault => .error (.fault fault)

end Request

namespace Response

def methodNotAllowed (allowed : List String) : Response :=
  ⟨405, [⟨"allow", Text.encode (",".intercalate allowed)⟩], []⟩

/-- The response as it is sent: one to HEAD has no body. -/
def sentTo (response : Response) (method : String) : Response :=
  if method == "HEAD" then { response with body := [] } else response

end Response
end EventRelay
