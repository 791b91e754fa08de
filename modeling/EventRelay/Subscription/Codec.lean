import EventRelay.Function.Codec
import EventRelay.Subscription.Basic
set_option autoImplicit false

/-!
Subscriptions as JSON.
-/
namespace EventRelay

open Json (Document Fault Reader Record)

def SubscriptionKind.ofName? (name : String) : Option SubscriptionKind :=
  match name with
  | "async" => some .async
  | "sync" => some .sync
  | _ => none

/-- Whether a document stands for nothing: null and, where `loose` holds, an object without
members. -/
def Json.Document.isNothing (loose : Bool) : Document → Bool
  | .null => true
  | .object [] true => loose
  | _ => false

/-- Reads a kind: its name, or an object with nothing under its name. -/
def SubscriptionKind.reader (loose : Bool) : Reader SubscriptionKind
  | .string name =>
    match ofName? name with
    | some kind => .ok kind
    | none => .error .mismatch
  | .object ((some name, document) :: rest) closed => do
    let some kind := ofName? name | throw .mismatch
    if ¬ document.isNothing loose then
      let _ ← Reader.misfit (α := Unit) document
    if rest.isEmpty ∧ closed then pure kind else throw .malformed
  | _ => .error .malformed

namespace CorsSettings

def record : Record CorsSettings where
  names := ["origins", "methods", "headers", "allowCredentials"]
  required := ["origins", "methods", "headers"]
  blank := ⟨[], [], [], false⟩
  take name document cors :=
    match name with
    | "origins" => do return { cors with origins := ← Reader.list Reader.text document }
    | "methods" => do return { cors with methods := ← Reader.list Reader.text document }
    | "headers" => do return { cors with headers := ← Reader.list Reader.text document }
    | _ => do return { cors with allowCredentials := ← Reader.bool document }

def toJson (cors : CorsSettings) : Json :=
  Json.ofMembers [("origins", Json.strings cors.origins), ("methods", Json.strings cors.methods),
    ("headers", Json.strings cors.headers), ("allowCredentials", .bool cors.allowCredentials)]

end CorsSettings

namespace Subscription

def record (loose : Bool) : Record Subscription where
  names := ["space", "subscriptionId", "type", "eventType", "functionId", "path", "method", "cors"]
  required := ["eventType", "functionId"]
  blank := ofAsync "" "" ""
  take name document s :=
    match name with
    | "space" => do return { s with space := ← Reader.text document }
    | "subscriptionId" => do return { s with id := ⟨← Reader.text document⟩ }
    | "type" => do return { s with kind := ← SubscriptionKind.reader loose document }
    | "eventType" => do return { s with eventType := ⟨← Reader.text document⟩ }
    | "functionId" => do return { s with functionId := ← FunctionId.reader document }
    | "path" => do return { s with path := ← Reader.text document }
    | "method" => do return { s with method := ← Reader.optional Reader.text document }
    | _ => do return { s with cors := ← Reader.optional CorsSettings.record.read document }

/-- The JSON of a subscription; what is not set is left out. -/
def toJson (s : Subscription) : Json :=
  Json.ofMembers ([("space", .string s.space), ("subscriptionId", .string s.id.text),
      ("type", .string s.kind.name), ("eventType", .string s.eventType.name),
      ("functionId", .string s.functionId.text), ("path", .string s.path)]
    ++ (s.method.map fun method => ("method", Json.string method)).toList
    ++ (s.cors.map fun cors => ("cors", cors.toJson)).toList)

end Subscription
end EventRelay
