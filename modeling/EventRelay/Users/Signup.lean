import EventRelay.Client
set_option autoImplicit false

/-!
A user who signs up, and the event by which others learn of it.
-/
namespace EventRelay.Users

/-- A user as others learn of one. -/
structure User where
  username : String
  firstName : String
  lastName : String
  company : String
  email : String
deriving DecidableEq, Repr

def User.toJson (user : User) : Json :=
  Json.ofMembers [("username", .string user.username), ("firstname", .string user.firstName),
    ("lastname", .string user.lastName), ("company", .string user.company),
    ("email", .string user.email)]

def User.example : User :=
  ⟨"sls-fan", "Bill", "Jones", "Big Corp, Inc.", "bjones12@bigcorp.com"⟩

/-- The space to which a sign-up goes if no other is given. -/
def standardSpace : String := "examplestest"

def hostedUrl (space : String) : String := "https://" ++ space ++ ".slsgateway.com"

/-- Tells of a user who has signed up. The arguments are a space and the URL of a gateway. -/
def announce {σ : Type} (network : Network σ) (arguments : List String) :
    StateM σ (Except ClientError Unit) := do
  let space := arguments.getD 0 standardSpace
  match Client.of (arguments.getD 1 (hostedUrl space)) (some space) with
  | .error e => return .error e
  | .ok client => client.emit network "user.created" User.example.toJson

end EventRelay.Users
