import EventRelay.Proofs.Event.Sources
import EventRelay.Proofs.Json.Exact

set_option autoImplicit false

/-!
The data of a request, read from an object and written again with what a route captured. It has
seven members: those that the object has stay as they are, and blank ones stand in for those that it
lacks. An object with a member that is no such thing is left alone.
-/
namespace EventRelay

open Json (Document Reader Record Canonical)

namespace RequestData

def member (d : RequestData) : String → Json
  | "headers" => Json.ofTexts d.headers
  | "query" => .object (Keyed.mapValues Json.strings d.query)
  | "body" => d.body
  | "host" => .string d.host
  | "path" => .string d.path
  | "method" => .string d.method
  | _ => Json.ofTexts d.params

/-- What a member may be: a map of texts, a map of lists of texts, a text, or for the body
anything. -/
def isMember : String → Json → Bool
  | "headers" => Json.isMapOf Json.isText
  | "query" => Json.isMapOf (Json.isListOf Json.isText)
  | "body" => fun _ => true
  | "host" => Json.isText
  | "path" => Json.isText
  | "method" => Json.isText
  | _ => Json.isMapOf Json.isText

/-- Each of the seven members that an object has is what it may be. -/
def Fits (members : List (String × Json)) : Prop :=
  ∀ member ∈ members, member.1 ∈ record.names → isMember member.1 member.2 = true

instance (members : List (String × Json)) : Decidable (Fits members) :=
  inferInstanceAs (Decidable (∀ member ∈ members, _ → _))

section
variable {d : RequestData} {members : List (String × Json)} {params : Route.Params}

theorem exact_texts :
    Reader.Exact (Reader.map Reader.text) (Json.isMapOf Json.isText) Json.ofTexts :=
  Reader.exact_text.map

theorem exact_lists : Reader.Exact (Reader.map (Reader.list Reader.text))
    (Json.isMapOf (Json.isListOf Json.isText))
    fun found => .object (Keyed.mapValues Json.strings found) :=
  Reader.exact_text.list.map

theorem shows : Record.Shows record isMember member := by
  refine .of_fields fun name listed => ?_
  simp only [record, List.mem_cons, List.not_mem_nil, or_false] at listed
  rcases listed with rfl | rfl | rfl | rfl | rfl | rfl | rfl
  · refine ⟨_, _, _, fun d found => { d with headers := found }, exact_texts, fun _ _ => rfl, ?_⟩
    simp [record, member]
  · refine ⟨_, _, _, fun d found => { d with query := found }, exact_lists, fun _ _ => rfl, ?_⟩
    simp [record, member]
  · refine ⟨_, _, _, fun d found => { d with body := found },
      Reader.exact_value, fun _ _ => rfl, ?_⟩
    simp [record, member]
  · refine ⟨_, _, _, fun d found => { d with host := found }, Reader.exact_text, fun _ _ => rfl, ?_⟩
    simp [record, member]
  · refine ⟨_, _, _, fun d found => { d with path := found }, Reader.exact_text, fun _ _ => rfl, ?_⟩
    simp [record, member]
  · refine ⟨_, _, _, fun d found => { d with method := found },
      Reader.exact_text, fun _ _ => rfl, ?_⟩
    simp [record, member]
  · refine ⟨_, _, _, fun d found => { d with params := found }, exact_texts, fun _ _ => rfl, ?_⟩
    simp [record, member]

theorem toJson_eq (d : RequestData) :
    d.toJson = Json.ofMembers (record.names.map fun name => (name, d.member name)) := rfl

theorem isMember_member (d : RequestData) (name : String) :
    isMember name (d.member name) = true := by
  unfold member
  split <;> simp [isMember, Json.ofTexts, Json.isMapOf, Json.isListOf, Json.isText, Json.strings,
    Keyed.mapValues]

theorem get?_toJson (written : d.toJson = .object members) (name : String) :
    Keyed.get? members name = if name ∈ record.names then some (d.member name) else none := by
  rw [toJson_eq, Json.ofMembers, Json.object.injEq] at written
  rw [← written, Keyed.get?_ofList_map]

end
end RequestData

namespace EventsApi

variable {e : Event} {members : List (String × Json)} {params : Route.Params}

end EventsApi
end EventRelay
