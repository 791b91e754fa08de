import EventRelay.Function.Codec
import EventRelay.Proofs.Json.Numbers
import EventRelay.Proofs.Json.Records

set_option autoImplicit false

/-!
Functions as JSON and back. The kind of a provider is read wherever it stands among the members, and
the rest as this kind has it; so each provider is read from what is written for it.
-/
namespace EventRelay

open Json (Canonical Document Legible Reader)

namespace WeightedFunction

theorem nat_weight (weight : UInt32) :
    Reader.nat (Nat.pow 2 32 - 1) (Document.ofJson (Json.ofNat weight.toNat)) =
      .ok weight.toNat := by
  have bound := weight.toNat_lt
  have most : weight.toNat ≤ Nat.pow 2 32 - 1 := by
    show weight.toNat ≤ 2 ^ 32 - 1
    omega
  rw [Json.ofNat, Document.ofJson, Reader.nat, if_pos ⟨Int.natCast_nonneg _, Int.ofNat_le.mpr most⟩,
    Int.toNat_natCast]

theorem readValue_toJson (entry : WeightedFunction) :
    Json.readValue record.read entry.toJson = .ok entry := by
  have id : record.takeMember record.blank ("functionId", .string entry.functionId.text) =
      .ok ⟨entry.functionId, 0⟩ := rfl
  have weight : record.takeMember ⟨entry.functionId, 0⟩
      ("weight", Json.ofNat entry.weight.toNat) = .ok entry := by
    simp only [Json.Record.takeMember, record, nat_weight]
    show Except.ok (⟨entry.functionId, UInt32.ofNat entry.weight.toNat⟩ : WeightedFunction) = _
    rw [UInt32.ofNat_toNat]
  have taken : [("functionId", Json.string entry.functionId.text),
      ("weight", Json.ofNat entry.weight.toNat)].foldlM record.takeMember record.blank =
        .ok entry := by
    simp only [List.foldlM_cons, List.foldlM_nil, id, weight, bind, Except.bind]
    rfl
  exact Json.Record.readValue_ofMembers (.refl _) (.refl record.names) (by decide) (by decide)
    (fun _ required => required) taken

theorem canonical_toJson (entry : WeightedFunction) : Canonical entry.toJson := by
  refine Json.canonical_ofMembers fun member listed => ?_
  simp only [List.mem_cons, List.not_mem_nil, or_false] at listed
  rcases listed with rfl | rfl
  · exact .string _
  · exact .number _

theorem legible_toJson {depth : Nat} (shallow : depth < Document.maxDepth)
    (entry : WeightedFunction) : Legible depth entry.toJson := by
  have bound := entry.weight.toNat_lt
  have word : 2 ^ 32 ≤ Json.maxDigits := by decide
  refine Json.legible_ofMembers shallow fun member listed => ?_
  simp only [List.mem_cons, List.not_mem_nil, or_false] at listed
  rcases listed with rfl | rfl
  · exact .string _ _
  · exact Json.legible_ofNat (by omega) _

end WeightedFunction

namespace Provider

def members : Provider → List (String × Json)
  | .http url => [("type", .string "http"), ("url", .string url)]
  | .weighted functions =>
    [("functions", .array (functions.map WeightedFunction.toJson)), ("type", .string "weighted")]

theorem toJson_eq (provider : Provider) : provider.toJson = .object provider.members := by
  cases provider with
  | http url =>
      exact Json.Record.ofMembers_eq_of_perm (.refl _) (.refl ["type", "url"]) (by decide)
  | weighted functions =>
      exact Json.Record.ofMembers_eq_of_perm (.swap ..) (.refl ["functions", "type"]) (by decide)

theorem canonical_functions (functions : List WeightedFunction) :
    Canonical (.array (functions.map WeightedFunction.toJson)) := by
  refine .array fun item member => ?_
  obtain ⟨entry, -, rfl⟩ := List.mem_map.mp member
  exact entry.canonical_toJson

theorem splitKind_of_ne {name : String} (other : name ≠ "type") {document : Document}
    {value : Json} (has : document.toJson = .ok value)
    {rest others : List (Option String × Document)} {kind found : Option Kind}
    (split : splitKind false rest kind = .ok (found, others)) :
    splitKind false ((some name, document) :: rest) kind =
      .ok (found, (some name, document) :: others) := by
  rw [splitKind, has, split]
  · rfl
  · exact other

theorem readValue_toJson (provider : Provider) :
    Json.readValue (reader false) provider.toJson = .ok provider := by
  rw [toJson_eq]
  cases provider with
  | http url => rfl
  | weighted functions =>
      have list : Reader.list WeightedFunction.record.read
          (Document.ofJson (.array (functions.map WeightedFunction.toJson))) = .ok functions :=
        Reader.list_ofJson fun entry _ => entry.readValue_toJson
      have split := splitKind_of_ne (by decide : "functions" ≠ "type")
        (canonical_functions functions).toJson_ofJson
        (rfl : splitKind false [(some "type", .string "weighted")] none = .ok (some .weighted, []))
      have content : content .weighted (.object
          [(some "functions", Document.ofJson (.array (functions.map WeightedFunction.toJson)))]
            true) = .ok (.weighted functions) := by
        have read : (record .weighted).read (.object
            [(some "functions", Document.ofJson (.array (functions.map WeightedFunction.toJson)))]
              true) = .ok (.weighted functions) := by
          show (((Reader.list WeightedFunction.record.read
            (Document.ofJson (.array (functions.map WeightedFunction.toJson)))).map
              Provider.weighted) >>= _) = _
          rw [list]
          rfl
        rw [Provider.content, read]
      show (splitKind false _ none >>= _) = _
      exact (congrArg (· >>= _) split).trans content

theorem legible_toJson {depth : Nat} (shallow : depth + 2 < Document.maxDepth)
    (provider : Provider) : Legible depth provider.toJson := by
  cases provider with
  | http url =>
      refine Json.legible_ofMembers (by omega) fun member listed => ?_
      simp only [List.mem_cons, List.not_mem_nil, or_false] at listed
      rcases listed with rfl | rfl
      · exact .string _ _
      · exact .string _ _
  | weighted functions =>
      refine Json.legible_ofMembers (by omega) fun member listed => ?_
      simp only [List.mem_cons, List.not_mem_nil, or_false] at listed
      rcases listed with rfl | rfl
      · exact .string _ _
      · refine .array (by omega) fun item member => ?_
        obtain ⟨entry, -, rfl⟩ := List.mem_map.mp member
        exact entry.legible_toJson (by omega)

end Provider

namespace FunctionEntry

def members (entry : FunctionEntry) : List (String × Json) :=
  [("functionId", .string entry.id.text), ("provider", entry.provider.toJson),
    ("space", .string entry.space)]

theorem toJson_eq (entry : FunctionEntry) : entry.toJson = .object entry.members := by
  have sorted : [("space", Json.string entry.space), ("functionId", .string entry.id.text),
      ("provider", entry.provider.toJson)].Perm entry.members :=
    (List.perm_append_singleton _ _).symm
  exact Json.Record.ofMembers_eq_of_perm sorted (.refl ["functionId", "provider", "space"])
    (by decide)

theorem readsBack_toJson (entry : FunctionEntry) : entry.toJson.ReadsBack := by
  apply Legible.readsBack
  refine Json.legible_ofMembers (by decide) fun member listed => ?_
  simp only [List.mem_cons, List.not_mem_nil, or_false] at listed
  rcases listed with rfl | rfl | rfl
  · exact .string _ _
  · exact .string _ _
  · exact entry.provider.legible_toJson (by decide)

end FunctionEntry
end EventRelay
