import EventRelay.Catalog.Basic
import EventRelay.Event.Codec
import EventRelay.Function.Weighted
import EventRelay.Json.Printer
import EventRelay.Net.Call
set_option autoImplicit false

/-!
Calling a function with an event. A weighted function stands for one of several others, chosen
anew for every call, which have to be backed by a URL.
-/
namespace EventRelay

namespace Catalog

def provider (c : Catalog) (space : String) (id : FunctionId) : Except FunctionError Provider :=
  match c.getFunction space id with
  | .ok entry => .ok entry.provider
  | .error _ => .error (.notFound id)

/-- The URL of a function that a weighted one chose. -/
def chosenUrl (c : Catalog) (space : String) (id : FunctionId) : Except FunctionError String :=
  match c.provider space id with
  | .error e => .error e
  | .ok (.http url) => .ok url
  | .ok (.weighted _) => .error (.nestedWeighted id)

/-- The URL that a call of a function goes to, and the random words left. -/
def targetUrl (c : Catalog) (space : String) (id : FunctionId) (words : Words) :
    Except FunctionError String × Words :=
  match c.provider space id with
  | .error e => (.error e, words)
  | .ok (.http url) => (.ok url, words)
  | .ok (.weighted functions) =>
    match WeightedFunction.choose functions words with
    | (.error e, words) => (.error e, words)
    | (.ok chosen, words) => (c.chosenUrl space chosen, words)

end Catalog

namespace Event

def callTo (e : Event) (url : Url) : Call :=
  (Call.ofUrl "POST" url).withJson (Text.encode e.toJson.compact)

end Event

/-- What a function makes of an event, told by what became of the call. -/
def functionResult : Except CallError (Nat × Option Bytes) → Except FunctionError Bytes
  | .error e => .error (.callFailed e.message)
  | .ok (status, body) =>
    if status = 500 then .error (.runtime status)
    else
      match body with
      | some bytes => .ok bytes
      | none => .error (.callFailed CallError.brokenOff.message)

/-- Sends an event to a URL and gives what comes back. -/
def callFunction {σ : Type} (network : Network σ) (url : String) (e : Event) :
    StateM σ (Except FunctionError Bytes) := do
  match Url.parse url with
  | .error _ => return functionResult (.error .unsendable)
  | .ok url => return functionResult (← (e.callTo url).send network)

end EventRelay
