import EventRelay.Client
import EventRelay.CommandLine.Command
set_option autoImplicit false

/-!
Carrying out a command: one call to the gateway, whose answer is shown. An answer that means
failure is told beside the output and does not count as a failure of the command.
-/
namespace EventRelay.CommandLine

structure Report where
  exit : Nat
  output : String
  /-- What is told beside the output. -/
  notes : String
deriving DecidableEq, Repr

def Report.shown (output : String) : Report := ⟨0, output ++ "\n", ""⟩

def Report.failed (message : String) : Report := ⟨1, "", "Error: " ++ message ++ "\n"⟩

/-- What is asked of the configuration side. -/
structure Inquiry where
  method : String
  url : String
  body : Option Json

namespace Inquiry

def call (inquiry : Inquiry) (fields : Headers) : Except CallError Call := do
  let call ← Call.of? inquiry.method inquiry.url
  let headers := fields.foldl (fun headers field => headers.set field.name field.value) call.headers
  let call := { call with headers }
  return match inquiry.body with
    | some body => call.withJson (Text.encode body.compact)
    | none => call

def report : Except CallError (Nat × Option Bytes) → Report
  | .error e => .failed e.message
  | .ok (status, body) =>
    if ¬ Status.isSuccess status then
      ⟨0, "", "Error: Config API returned status " ++ Status.text status ++ "\n"
        ++ (body.elim "" fun bytes => "Response: " ++ Text.decodeLossy bytes ++ "\n")⟩
    else
      match body with
      | none => .failed CallError.brokenOff.message
      | some [] => .shown (Status.text status)
      | some bytes =>
        match Json.parse (Text.encode (Text.decodeLossy bytes)) with
        | .ok value => .shown value.pretty
        | .error _ => .failed "the answer is not JSON"

end Inquiry

/-- The kinds of calls that commands make. -/
inductive Task where
  | ask (inquiry : Inquiry)
  | emit (event data : String)
  | invoke (functionId data : String)

namespace Order

def base (order : Order) : String := order.url ++ "/v1/spaces/" ++ order.space ++ "/"

def task (order : Order) : Task :=
  let get := fun (path : String) => Task.ask ⟨"GET", order.base ++ path, none⟩
  let delete := fun (path : String) => Task.ask ⟨"DELETE", order.base ++ path, none⟩
  let post := fun (path : String) (members : List (String × Json)) =>
    Task.ask ⟨"POST", order.base ++ path, some (Json.ofMembers members)⟩
  match order.command with
  | .status => .ask ⟨"GET", order.url ++ "/v1/status", none⟩
  | .eventTypes => get "eventtypes"
  | .createEventType name => post "eventtypes" [("name", .string name)]
  | .functions => get "functions"
  | .registerFunction id url =>
    post "functions" [("functionId", .string id),
      ("provider", Json.ofMembers [("type", .string "http"), ("url", .string url)])]
  | .deleteFunction id => delete ("functions/" ++ id)
  | .subscriptions => get "subscriptions"
  | .subscribe eventType functionId path =>
    post "subscriptions" [("type", .string "async"), ("eventType", .string eventType),
      ("functionId", .string functionId), ("path", .string path)]
  | .subscribeHttp method path functionId =>
    post "subscriptions" [("type", .string "sync"), ("eventType", .string "http.request"),
      ("functionId", .string functionId), ("method", .string method), ("path", .string path)]
  | .unsubscribe id => delete ("subscriptions/" ++ id)
  | .emit event data => .emit event data
  | .invoke functionId data => .invoke functionId data

/-- The header field that carries the key. -/
def authorization? (order : Order) : Option Headers :=
  match order.key with
  | none => some []
  | some key => (HeaderField.of? "authorization" (Text.encode ("Bearer " ++ key))).map ([·])

/-- The client of the events side with the data of a command. -/
def clientWith (order : Order) (data : String) : Except String (Client × Json) :=
  match Client.of order.eventsUrl (some order.space) with
  | .error e => .error e.message
  | .ok client =>
    match Json.parse (Text.encode data) with
    | .ok value => .ok (client, value)
    | .error _ => .error "the data is not JSON"

def run {σ : Type} (network : Network σ) (order : Order) : StateM σ Report := do
  let some fields := order.authorization? | return .failed "the key cannot be sent"
  match order.task with
  | .ask inquiry => return Inquiry.report (← Client.sendCall network (inquiry.call fields))
  | .emit event data =>
    match order.clientWith data with
    | .error message => return .failed message
    | .ok (client, data) =>
      match ← client.emit network event data with
      | .ok () => return .shown ("Emitted " ++ event ++ " event!")
      | .error e => return .failed e.message
  | .invoke functionId data =>
    match order.clientWith data with
    | .error message => return .failed message
    | .ok (client, data) =>
      match ← client.invoke network functionId data with
      | .ok value => return .shown value.pretty
      | .error e => return .failed e.message

end Order

def run {σ : Type} (network : Network σ) (arguments : List String) : StateM σ Report :=
  match Order.read arguments with
  | .ok order => order.run network
  | .error .help | .error .version => pure ⟨0, "", ""⟩
  | .error .misuse => pure ⟨2, "", ""⟩

end EventRelay.CommandLine
