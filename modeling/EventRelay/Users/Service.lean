import EventRelay.Http.Body
import EventRelay.Users.Basic
set_option autoImplicit false

/-!
The functions for users served over HTTP, each on a path of its own.
-/
namespace EventRelay.Users

inductive Handler where
  | get
  | create
  | delete
deriving DecidableEq, Repr

def Handler.ofName? (name : String) : Option Handler :=
  match name with
  | "get" => some .get
  | "create" => some .create
  | "delete" => some .delete
  | _ => none

def Handler.answer (handler : Handler) (e : Event) (words : Words) : ResponseObject :=
  match handler with
  | .get => Users.get e words
  | .create => Users.create e words
  | .delete => Users.delete e

def Handler.ofPath? (path : String) : Option Handler := (Text.after? "/users/" path).bind ofName?

def respond (request : Request) (words : Words) : Response :=
  let response := match Handler.ofPath? request.uri.path with
    | none => Response.ofStatus 404
    | some handler =>
      if request.method ≠ "POST" then .methodNotAllowed ["POST"]
      else
        match request.readJson (request.bodyUpTo? Request.jsonLimit) Event.record.read with
        | .error e => .plain e.status e.message
        | .ok event => .json 200 (handler.answer event words).toJson.compact
  response.sentTo request.method

end EventRelay.Users
