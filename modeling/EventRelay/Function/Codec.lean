import EventRelay.Function.Basic
import EventRelay.Json.Reader
set_option autoImplicit false

/-!
Functions as JSON. A provider names its kind in the member `type`, wherever that stands.
-/
namespace EventRelay

open Json (Document Fault Reader Record)

def FunctionId.reader : Reader FunctionId := fun document => (Reader.text document).map (⟨·⟩)

namespace WeightedFunction

def record : Record WeightedFunction where
  names := ["functionId", "weight"]
  required := ["functionId", "weight"]
  blank := ⟨⟨""⟩, 0⟩
  take name document entry :=
    match name with
    | "functionId" => do return { entry with functionId := ← FunctionId.reader document }
    | _ => do
      return { entry with weight := UInt32.ofNat (← Reader.nat (Nat.pow 2 32 - 1) document) }

def toJson (entry : WeightedFunction) : Json :=
  Json.ofMembers [("functionId", .string entry.functionId.text),
    ("weight", Json.ofNat entry.weight.toNat)]

end WeightedFunction

namespace Provider

inductive Kind where
  | http
  | weighted
deriving DecidableEq

/-- Reads a kind; where `numbered` holds it may be given by its place. -/
def Kind.reader (numbered : Bool) : Reader Kind
  | .string "http" => .ok .http
  | .string "weighted" => .ok .weighted
  | .number (.integer n) =>
    if numbered ∧ n = 0 then .ok .http else if numbered ∧ n = 1 then .ok .weighted
    else .error .mismatch
  | document => Reader.misfit document

def record : Kind → Record Provider
  | .http =>
    { names := ["url"], required := ["url"], blank := .http ""
      take := fun _ document _ => (Reader.text document).map .http }
  | .weighted =>
    { names := ["functions"], required := ["functions"], blank := .weighted []
      take := fun _ document _ =>
        (Reader.list WeightedFunction.record.read document).map .weighted }

/-- The kind among members, and the members without it; every part has to have a value. -/
def splitKind (numbered : Bool) : List (Option String × Document) → Option Kind →
    Except Fault (Option Kind × List (Option String × Document))
  | [], kind => .ok (kind, [])
  | (none, _) :: _, _ => .error .malformed
  | (some "type", document) :: rest, kind => do
    if kind.isSome then throw .mismatch
    splitKind numbered rest (some (← Kind.reader numbered document))
  | (some name, document) :: rest, kind => do
    let _ ← document.toJson
    let (kind, others) ← splitKind numbered rest kind
    return (kind, (some name, document) :: others)

def content (kind : Kind) (document : Document) : Except Fault Provider :=
  match (record kind).read document with
  | .ok provider => .ok provider
  | .error _ => .error .mismatch

def reader (numbered : Bool) : Reader Provider
  | .object members closed => do
    let (kind, others) ← splitKind numbered members none
    if ¬ closed then throw .malformed
    match kind with
    | some kind => content kind (.object others true)
    | none => throw .mismatch
  | .array [] closed => .error (if closed then .mismatch else .malformed)
  | .array (first :: rest) closed => do
    let kind ← Kind.reader numbered first
    let _ ← Document.itemsToJson rest
    if ¬ closed then throw .malformed
    content kind (.array rest true)
  | document => Reader.misfit document

def toJson : Provider → Json
  | .http url => Json.ofMembers [("type", .string "http"), ("url", .string url)]
  | .weighted functions =>
    Json.ofMembers [("type", .string "weighted"),
      ("functions", .array (functions.map WeightedFunction.toJson))]

end Provider

namespace FunctionEntry

def record (numbered : Bool) : Record FunctionEntry where
  names := ["space", "functionId", "provider"]
  required := ["functionId", "provider"]
  blank := ⟨"", ⟨""⟩, .http ""⟩
  take name document entry :=
    match name with
    | "space" => do return { entry with space := ← Reader.text document }
    | "functionId" => do return { entry with id := ← FunctionId.reader document }
    | _ => do return { entry with provider := ← Provider.reader numbered document }

def toJson (entry : FunctionEntry) : Json :=
  Json.ofMembers [("space", .string entry.space), ("functionId", .string entry.id.text),
    ("provider", entry.provider.toJson)]

end FunctionEntry
end EventRelay
