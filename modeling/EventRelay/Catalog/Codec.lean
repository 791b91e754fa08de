import EventRelay.Catalog.Seed
import EventRelay.Subscription.Codec
set_option autoImplicit false

/-!
Event types, seeds and entry counts as JSON.
-/
namespace EventRelay

open Json (Reader Record)

namespace EventTypeEntry

def record : Record EventTypeEntry where
  names := ["space", "name"]
  required := ["name"]
  blank := ⟨"", ⟨""⟩⟩
  take name document entry :=
    match name with
    | "space" => do return { entry with space := ← Reader.text document }
    | _ => do return { entry with type := ⟨← Reader.text document⟩ }

def toJson (entry : EventTypeEntry) : Json :=
  Json.ofMembers [("space", .string entry.space), ("name", .string entry.type.name)]

end EventTypeEntry

namespace Seed

def names : List String := ["event_types", "functions", "subscriptions"]

/-- How a seed is read; `loose` holds where the text was set aside before its type was known,
`numbered` where a kind may be given by its place. -/
def record (loose numbered : Bool) : Record Seed where
  names := names
  required := []
  blank := .empty
  take name document seed :=
    match name with
    | "event_types" => do
      return { seed with eventTypes := ← Reader.list EventTypeEntry.record.read document }
    | "functions" => do
      return { seed with functions := ← Reader.list (FunctionEntry.record numbered).read document }
    | _ => do
      return { seed with subscriptions := ← Reader.list (Subscription.record loose).read document }

def members (seed : Seed) : List (String × Json) :=
  [("event_types", .array (seed.eventTypes.map EventTypeEntry.toJson)),
    ("functions", .array (seed.functions.map FunctionEntry.toJson)),
    ("subscriptions", .array (seed.subscriptions.map Subscription.toJson))]

end Seed

def Catalog.Stats.toJson (stats : Catalog.Stats) : Json :=
  Json.ofMembers [("eventTypes", Json.ofNat stats.eventTypes),
    ("functions", Json.ofNat stats.functions), ("subscriptions", Json.ofNat stats.subscriptions)]

end EventRelay
