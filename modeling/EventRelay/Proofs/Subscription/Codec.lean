import EventRelay.Proofs.Json.Records
import EventRelay.Proofs.Json.Texts
import EventRelay.Subscription.Codec

set_option autoImplicit false

/-!
Subscriptions as JSON and back. A method and CORS settings are written where there are any, and a
subscription is read from what is written for it.
-/
namespace EventRelay

open Json (Document Legible Reader)

namespace CorsSettings

def members (cors : CorsSettings) : List (String × Json) :=
  [("allowCredentials", .bool cors.allowCredentials), ("headers", Json.strings cors.headers),
    ("methods", Json.strings cors.methods), ("origins", Json.strings cors.origins)]

theorem perm_members (cors : CorsSettings) :
    [("origins", Json.strings cors.origins), ("methods", Json.strings cors.methods),
      ("headers", Json.strings cors.headers),
      ("allowCredentials", .bool cors.allowCredentials)].Perm cors.members :=
  (List.reverse_perm _).symm

theorem list_strings (texts : List String) :
    Reader.list Reader.text (Document.ofJson (Json.strings texts)) = .ok texts :=
  Reader.list_ofJson fun _ _ => rfl

theorem readValue_toJson (cors : CorsSettings) :
    Json.readValue record.read cors.toJson = .ok cors := by
  have taken : cors.members.foldlM record.takeMember record.blank = .ok cors := by
    simp only [members, List.foldlM_cons, List.foldlM_nil, Json.Record.takeMember, record,
      list_strings, bind, Except.bind]
    rfl
  have complete : ∀ name ∈ record.required,
      name ∈ ["allowCredentials", "headers", "methods", "origins"] := by decide
  exact Json.Record.readValue_ofMembers cors.perm_members
    (.refl ["allowCredentials", "headers", "methods", "origins"]) (by decide) (by decide) complete
    taken

theorem legible_toJson {depth : Nat} (shallow : depth + 1 < Document.maxDepth)
    (cors : CorsSettings) : Legible depth cors.toJson := by
  refine Json.legible_ofMembers (by omega) fun member listed => ?_
  simp only [List.mem_cons, List.not_mem_nil, or_false] at listed
  rcases listed with rfl | rfl | rfl | rfl
  · exact Json.legible_strings shallow _
  · exact Json.legible_strings shallow _
  · exact Json.legible_strings shallow _
  · exact .bool _ _

end CorsSettings

namespace Subscription

def members (s : Subscription) : List (String × Json) :=
  (s.cors.map fun cors => ("cors", cors.toJson)).toList
    ++ ([("eventType", .string s.eventType.name), ("functionId", .string s.functionId.text)]
    ++ ((s.method.map fun method => ("method", Json.string method)).toList
    ++ [("path", .string s.path), ("space", .string s.space),
      ("subscriptionId", .string s.id.text), ("type", .string s.kind.name)]))

def memberNames : List String :=
  ["cors", "eventType", "functionId", "method", "path", "space", "subscriptionId", "type"]

theorem map_members (s : Subscription) : (s.members.map (·.1)).Sublist memberNames := by
  simp only [members, List.map_append]
  refine (Json.Record.map_optional s.cors "cors" CorsSettings.toJson).append ?_
  refine (List.Sublist.refl ["eventType", "functionId"]).append ?_
  exact (Json.Record.map_optional s.method "method" Json.string).append (.refl _)

theorem perm_members (s : Subscription) :
    ([("space", Json.string s.space), ("subscriptionId", .string s.id.text),
        ("type", .string s.kind.name), ("eventType", .string s.eventType.name),
        ("functionId", .string s.functionId.text), ("path", .string s.path)]
      ++ (s.method.map fun method => ("method", Json.string method)).toList
      ++ (s.cors.map fun cors => ("cors", cors.toJson)).toList).Perm s.members := by
  rw [List.perm_iff_count]
  intro member
  simp only [members, List.count_append, List.count_cons, List.count_nil]
  omega

theorem reader_kind (loose : Bool) (kind : SubscriptionKind) :
    SubscriptionKind.reader loose (.string kind.name) = .ok kind := by
  cases kind <;> rfl

theorem foldlM_members (loose : Bool) (s : Subscription) :
    s.members.foldlM (record loose).takeMember (record loose).blank = .ok s := by
  let s₁ : Subscription := { (record loose).blank with cors := s.cors }
  let s₂ : Subscription := { s₁ with eventType := s.eventType, functionId := s.functionId }
  let s₃ : Subscription := { s₂ with method := s.method }
  have cors : (s.cors.map fun cors => ("cors", cors.toJson)).toList.foldlM
      (record loose).takeMember (record loose).blank = .ok s₁ := by
    refine Json.Record.foldlM_optional (fun field => { (record loose).blank with cors := field })
      rfl fun cors _ => ?_
    have read := cors.readValue_toJson
    rw [Json.readValue, CorsSettings.toJson, Json.ofMembers, Document.ofJson] at read
    simp only [record, CorsSettings.toJson, Json.ofMembers, Document.ofJson, Reader.optional, read]
    rfl
  have method : (s.method.map fun method => ("method", Json.string method)).toList.foldlM
      (record loose).takeMember s₂ = .ok s₃ :=
    Json.Record.foldlM_optional (fun field => { s₂ with method := field }) rfl fun _ _ => rfl
  have rest : [("path", Json.string s.path), ("space", .string s.space),
      ("subscriptionId", .string s.id.text), ("type", .string s.kind.name)].foldlM
        (record loose).takeMember s₃ = .ok s := by
    have kind : (record loose).takeMember
        { s₃ with path := s.path, space := s.space, id := s.id } ("type", .string s.kind.name) =
          .ok s := by
      simp only [Json.Record.takeMember, record, Document.ofJson, reader_kind]
      rfl
    simp only [List.foldlM_cons, List.foldlM_nil]
    exact (congrArg (· >>= pure) kind).trans rfl
  rw [members]
  refine Json.Record.foldlM_append_ok cors ?_
  refine Json.Record.foldlM_append_ok (rfl : _ = Except.ok s₂) ?_
  exact Json.Record.foldlM_append_ok method rest

theorem readValue_toJson (loose : Bool) (s : Subscription) :
    Json.readValue (record loose).read s.toJson = .ok s := by
  have known : ∀ name ∈ memberNames, (record false).names.contains name = true := by decide
  have required : (record false).required ⊆ ["eventType", "functionId"] := by decide
  have written : ["eventType", "functionId"] ⊆ s.members.map (·.1) := by
    simp [members]
  exact Json.Record.readValue_ofMembers s.perm_members s.map_members (by decide) known
    (fun name needed => written (required needed)) (foldlM_members loose s)

theorem readsBack_toJson (s : Subscription) : s.toJson.ReadsBack := by
  apply Legible.readsBack
  refine Json.legible_ofMembers (by decide) fun member listed => ?_
  simp only [List.mem_append, List.mem_cons, List.not_mem_nil, or_false, Option.mem_toList,
    Option.map_eq_some_iff] at listed
  rcases listed with ((rfl | rfl | rfl | rfl | rfl | rfl) | method) | cors
  · exact .string _ _
  · exact .string _ _
  · exact .string _ _
  · exact .string _ _
  · exact .string _ _
  · exact .string _ _
  · obtain ⟨method, -, rfl⟩ := method
    exact .string _ _
  · obtain ⟨cors, -, rfl⟩ := cors
    exact cors.legible_toJson (by decide)

end Subscription
end EventRelay
