import EventRelay.Base64
import EventRelay.Http.Headers
import EventRelay.Percent
import EventRelay.Url.Parser
set_option autoImplicit false

/-!
Calls to URLs. A call may fail before it is sent, on the way, or while the body of its answer is
read.
-/
namespace EventRelay

/-- A call that is ready to be sent. -/
structure Call where
  method : String
  url : Url
  headers : Headers
  body : Bytes
deriving Repr

/-- What became of a call that was sent. -/
inductive Reply where
  /-- No answer came back. -/
  | lost
  /-- An answer with its status, and its body unless that broke off. -/
  | answered (status : Nat) (body : Option Bytes)
deriving DecidableEq, Repr

/-- A network: what becomes of a call, depending on what happened before. -/
abbrev Network (σ : Type) := Call → StateM σ Reply

/-- The network on which every call is lost. -/
def Network.silent {σ : Type} : Network σ := fun _ => pure .lost

inductive CallError where
  /-- Some part of it cannot be sent. -/
  | unsendable
  /-- Its URL is none that can be called. -/
  | uncallable (url : Url)
  | lost (url : Url)
  | brokenOff
deriving Repr

def CallError.message : CallError → String
  | .unsendable => "builder error"
  | .uncallable url => "builder error for url (" ++ url.text ++ ")"
  | .lost url => "error sending request for url (" ++ url.text ++ ")"
  | .brokenOff => "error decoding response body"

namespace Url

def decodedPart? (part : String) : Option String := Text.decode? (Percent.decode (Text.encode part))

/-- The user and the password that a URL carries. -/
def credentials? (url : Url) : Option (String × Option String) :=
  match decodedPart? url.username with
  | none => none
  | some user =>
    let password := url.password.bind decodedPart?
    if user.isEmpty ∧ password.isNone then none else some (user, password)

def withoutCredentials (url : Url) : Url := { url with username := "", password := none }

end Url

namespace Call

def basicAuthorization (user : String) (password : Option String) : HeaderField :=
  ⟨"authorization", Text.encode ("Basic " ++
    Base64.encode Base64.standard (Text.encode (user ++ ":" ++ password.getD "")))⟩

/-- A call of a method to a URL; its user and password are sent in a header field. -/
def ofUrl (method : String) (url : Url) : Call :=
  match url.credentials? with
  | some (user, password) =>
    ⟨method, url.withoutCredentials, [basicAuthorization user password], []⟩
  | none => ⟨method, url, [], []⟩

def ofUrl? (method : String) (url : Url) : Except CallError Call :=
  match url.host with
  | some (.domain "") => .error (.uncallable url)
  | some _ => .ok (ofUrl method url)
  | none => .error (.uncallable url)

def of? (method url : String) : Except CallError Call :=
  match Url.parse url with
  | .ok url => ofUrl? method url
  | .error _ => .error .unsendable

def withHeader (call : Call) (name value : String) : Except CallError Call :=
  match HeaderField.of? name (Text.encode value) with
  | some field => .ok { call with headers := call.headers ++ [field] }
  | none => .error .unsendable

def withJson (call : Call) (body : Bytes) : Call :=
  { call with headers := call.headers.append "content-type" (Text.encode "application/json"), body }

def send {σ : Type} (network : Network σ) (call : Call) :
    StateM σ (Except CallError (Nat × Option Bytes)) := do
  if ¬ call.url.isCallable then return .error (.uncallable call.url)
  match ← network call with
  | .lost => return .error (.lost call.url)
  | .answered status body => return .ok (status, body)

end Call
end EventRelay
