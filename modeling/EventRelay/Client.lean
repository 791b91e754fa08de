import EventRelay.Http.Status
import EventRelay.Json.Printer
import EventRelay.Json.Reader
import EventRelay.Net.Call
import EventRelay.Text.Quoted
set_option autoImplicit false

/-!
A client of the events side: it emits events and invokes functions, each with a single call.
-/
namespace EventRelay

/-- A client, and the space that it addresses. -/
structure Client where
  url : Url
  space : Option String
deriving DecidableEq, Repr

inductive ClientError where
  | invalidUrl (url : String) (error : Url.Error)
  | call (error : CallError)
  | status (status : Nat) (body : String)
  /-- The answer is not JSON. -/
  | undecodable
deriving Repr

def ClientError.message : ClientError → String
  | .invalidUrl given error => "invalid gateway url " ++ Text.quoted given ++ ": " ++ error.message
  | .call cause => "request to event gateway failed: " ++ cause.message
  | .status code body => "event gateway returned status " ++ Status.text code ++ ": " ++ body
  | .undecodable => "failed to decode gateway response"

namespace Client

/-- A URL with its scheme; a bare host is reached over https. -/
def withScheme (url : String) : String :=
  if Text.contains "://" url then url else "https://" ++ url

def of (url : String) (space : Option String) : Except ClientError Client :=
  match Url.parse (withScheme url) with
  | .ok parsed => .ok ⟨parsed, space⟩
  | .error error => .error (.invalidUrl url error)

/-- A call to the gateway, with its header fields up to the body. -/
def prepare (client : Client) (fields : List (String × String)) : Except CallError Call := do
  let call ← Call.ofUrl? "POST" client.url
  fields.foldlM (fun (call : Call) field => call.withHeader field.1 field.2) call

/-- The call with a body, addressed to the client's space. -/
def address (client : Client) (body : Json) (call : Call) : Except CallError Call :=
  let call := call.withJson (Text.encode body.compact)
  match client.space with
  | some space => call.withHeader "space" space
  | none => .ok call

def emitBody (event : String) (data : Json) : Json :=
  Json.ofMembers [("event", .string event), ("data", data)]

def emitCall (client : Client) (event : String) (data : Json) : Except CallError Call :=
  match client.prepare [("event", event)] with
  | .ok call => client.address (emitBody event data) call
  | .error e => .error e

def invokeCall (client : Client) (functionId : String) (data : Json) : Except CallError Call :=
  match client.prepare [("event", "invoke"), ("function-id", functionId)] with
  | .ok call => client.address data call
  | .error e => .error e

variable {σ : Type}

/-- Sends a call that could be made. -/
def sendCall (network : Network σ) (call : Except CallError Call) :
    StateM σ (Except CallError (Nat × Option Bytes)) :=
  match call with
  | .error e => pure (.error e)
  | .ok call => call.send network

def emitted : Except CallError (Nat × Option Bytes) → Except ClientError Unit
  | .error e => .error (.call e)
  | .ok (status, body) =>
    if Status.isSuccess status then .ok ()
    else .error (.status status (Text.decodeLossy (body.getD [])))

def invoked : Except CallError (Nat × Option Bytes) → Except ClientError Json
  | .error e => .error (.call e)
  | .ok (_, none) => .error (.call .brokenOff)
  | .ok (status, some body) =>
    let text := Text.decodeLossy body
    if ¬ Status.isSuccess status then .error (.status status text)
    else if text.isEmpty then .ok .null
    else
      match Json.parse (Text.encode text) with
      | .ok value => .ok value
      | .error _ => .error .undecodable

def emit (network : Network σ) (client : Client) (event : String) (data : Json) :
    StateM σ (Except ClientError Unit) := do
  return emitted (← sendCall network (client.emitCall event data))

/-- Invokes a function and gives its result. -/
def invoke (network : Network σ) (client : Client) (functionId : String) (data : Json) :
    StateM σ (Except ClientError Json) := do
  return invoked (← sendCall network (client.invokeCall functionId data))

end Client
end EventRelay
