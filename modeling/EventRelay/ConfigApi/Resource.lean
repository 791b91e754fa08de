import EventRelay.Percent
import EventRelay.Text.Split
set_option autoImplicit false

/-!
The resources of the configuration side, by their paths, and the methods that each has.
-/
namespace EventRelay.ConfigApi

/-- The sorts of entries that a space has. -/
inductive Kind where
  | eventTypes
  | functions
  | subscriptions
deriving DecidableEq, Repr

/-- A resource; spaces and names are as the path writes them. -/
inductive Resource where
  | status
  | entries (kind : Kind) (space : String)
  | entry (kind : Kind) (space name : String)
deriving DecidableEq, Repr

def Kind.ofPart? (part : String) : Option Kind :=
  match part with
  | "eventtypes" => some .eventTypes
  | "functions" => some .functions
  | "subscriptions" => some .subscriptions
  | _ => none

def Kind.nameLabel : Kind → String
  | .eventTypes => "name"
  | .functions => "id"
  | .subscriptions => "id"

namespace Resource

/-- The resource of a path; names are not empty. -/
def ofPath? (path : String) : Option Resource :=
  match Text.pieces '/' path with
  | ["", "v1", "status"] => some .status
  | ["", "v1", "spaces", space, part] =>
    if space.isEmpty then none else (Kind.ofPart? part).map (.entries · space)
  | ["", "v1", "spaces", space, part, name] =>
    if space.isEmpty ∨ name.isEmpty then none else (Kind.ofPart? part).map (.entry · space name)
  | _ => none

def methods : Resource → List String
  | .status => ["GET", "HEAD"]
  | .entries _ _ => ["GET", "HEAD", "POST"]
  | .entry .eventTypes _ _ => ["GET", "HEAD", "DELETE"]
  | .entry _ _ _ => ["GET", "HEAD", "PUT", "DELETE"]

end Resource

/-- A part of a path that cannot be read. -/
structure BadPart where
  label : String
deriving DecidableEq, Repr

def BadPart.message (part : BadPart) : String :=
  "Invalid URL: Invalid UTF-8 in \x60" ++ part.label ++ "\x60"

def decodePart (label part : String) : Except BadPart String :=
  match Text.decode? (Percent.decode (Text.encode part)) with
  | some text => .ok text
  | none => .error ⟨label⟩

end EventRelay.ConfigApi
