import EventRelay.Draw
import EventRelay.Event.Codec
import EventRelay.Http.ResponseObject
import EventRelay.Text.Characters
set_option autoImplicit false

/-!
Functions that answer for users nobody stores: each takes the event of a request and gives a
response. Details of users are made up, drawn from short tables.
-/
namespace EventRelay.Users

def firstNames : List String :=
  ["Ada", "Bill", "Carmen", "Dmitri", "Elena", "Farah", "Grace", "Hiro", "Ines", "Jonas", "Kwame",
    "Lena"]

def lastNames : List String :=
  ["Jones", "Okafor", "Lindqvist", "Moreau", "Nakamura", "Patel", "Quinn", "Rossi", "Santos",
    "Tanaka"]

def domains : List String := ["example.com", "mail.test", "bigcorp.com", "inbox.dev"]

def name (words : Words) : String × Words :=
  let (first, words) := Draw.pick firstNames words
  let (last, words) := Draw.pick lastNames words
  (first ++ " " ++ last, words)

/-- The first part of a mail address: a name in lower case, with points for spaces. -/
def mailbox (name : String) : String :=
  String.ofList ((Text.lower name).toList.map fun c => if c = ' ' then '.' else c)

/-- A mail address for a name. -/
def email (name : String) (words : Words) : String × Words :=
  let (domain, words) := Draw.pick domains words
  let (number, words) := Draw.below 32 99 words
  (mailbox name ++ toString (number + 1) ++ "@" ++ domain, words)

def id (words : Words) : Nat × Words :=
  let (number, words) := Draw.below 32 99999 words
  (number + 1, words)

def missingId : ResponseObject :=
  .json 400 (Json.ofMembers [("message", .string "missing path parameter id")])

/-- The parameter `id` of the request that an event tells of. -/
def pathId? (e : Event) : Option String :=
  e.httpRequest?.bind fun data => Keyed.get? data.params "id"

def details (id : Json) (name email : String) : ResponseObject :=
  .json 200 (Json.ofMembers [("id", id), ("name", .string name), ("email", .string email)])

def get (e : Event) (words : Words) : ResponseObject :=
  match pathId? e with
  | none => missingId
  | some id =>
    let (name, words) := name words
    let (email, _) := email name words
    details (.string id) name email

def create (_ : Event) (words : Words) : ResponseObject :=
  let (name, words) := name words
  let (email, words) := email name words
  let (id, _) := id words
  details (Json.ofNat id) name email

/-- Answers that the user of the path is gone. -/
def delete (e : Event) : ResponseObject :=
  match pathId? e with
  | none => missingId
  | some id =>
    .json 200 (Json.ofMembers [("message", .string ("Deleted user with id " ++ id))])

end EventRelay.Users
