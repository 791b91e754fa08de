import EventRelay.Proofs.Json.Canonical

set_option autoImplicit false

/-!
The values that a value holds. A record that is read from a value takes its fields from these parts;
a part is smaller than the whole, so no field is the value itself.
-/
namespace EventRelay.Json

/-- The items of an array, the values of an object's members. -/
def parts : Json → List Json
  | .array items => items
  | .object members => members.map (·.2)
  | _ => []

section Parts
variable {value part : Json}

theorem sizeOf_lt_of_mem_parts (member : part ∈ value.parts) : sizeOf part < sizeOf value := by
  cases value with
  | array items =>
      have smaller : sizeOf part < sizeOf items := List.sizeOf_lt_of_mem member
      simp only [array.sizeOf_spec]
      omega
  | object members =>
      obtain ⟨⟨name, found⟩, listed, rfl⟩ := List.mem_map.mp member
      have smaller := List.sizeOf_lt_of_mem listed
      simp only [Prod.mk.sizeOf_spec] at smaller
      simp only [object.sizeOf_spec]
      omega
  | null => cases member
  | bool => cases member
  | number => cases member
  | string => cases member

theorem ne_of_mem_parts (member : part ∈ value.parts) : part ≠ value := by
  rintro rfl
  exact absurd (sizeOf_lt_of_mem_parts member) (Nat.lt_irrefl _)

theorem Canonical.of_mem_parts (canonical : value.Canonical) (member : part ∈ value.parts) :
    part.Canonical := by
  cases canonical with
  | array all => exact all part member
  | object _ all =>
      obtain ⟨entry, listed, rfl⟩ := List.mem_map.mp member
      exact all entry listed
  | null => cases member
  | bool => cases member
  | number => cases member
  | string => cases member

end Parts

namespace Document

def parts : Document → List Document
  | .array items _ => items
  | .object members _ => members.map (·.2)
  | _ => []

theorem ofItems_eq_map (items : List Json) : ofItems items = items.map ofJson := by
  induction items with
  | nil => rfl
  | cons item rest ih => rw [ofItems, ih, List.map_cons]

theorem ofMembers_eq_map (members : List (String × Json)) :
    ofMembers members = members.map fun member => (some member.1, ofJson member.2) := by
  induction members with
  | nil => rfl
  | cons member rest ih => rw [ofMembers, ih, List.map_cons]

theorem parts_ofJson (value : Json) : (ofJson value).parts = value.parts.map ofJson := by
  cases value with
  | array items => exact ofItems_eq_map items
  | object members =>
      show (ofMembers members).map (·.2) = (members.map (·.2)).map ofJson
      rw [ofMembers_eq_map, List.map_map, List.map_map]
      rfl
  | null => rfl
  | bool => rfl
  | number => rfl
  | string => rfl

end Document

namespace Record

variable {σ : Type} {record : Record σ} {P : σ → Prop} {found : σ}

theorem takeMembers_keeps {members : List (Option String × Document)} {closed : Bool}
    (keeps : ∀ name, ∀ member ∈ members, ∀ state after, P state →
      record.take name member.2 state = .ok after → P after)
    {seen : List String} {state : σ} (holds : P state)
    (read : record.takeMembers members closed seen state = .ok found) : P found := by
  induction members generalizing seen state with
  | nil =>
      unfold takeMembers at read
      split at read
      · cases read
      · split at read
        · cases read
          exact holds
        · cases read
  | cons member rest ih =>
      obtain ⟨name, document⟩ := member
      have keepsRest : ∀ name, ∀ member ∈ rest, ∀ state after, P state →
          record.take name member.2 state = .ok after → P after :=
        fun name member listed => keeps name member (List.mem_cons_of_mem _ listed)
      cases name with
      | none => cases read
      | some name =>
          unfold takeMembers at read
          split at read
          · split at read
            · cases read
            · obtain ⟨next, taken, goesOn⟩ := (bind_eq_ok_iff ..).mp read
              exact ih keepsRest (keeps name _ List.mem_cons_self state next holds taken) goesOn
          · obtain ⟨_, -, goesOn⟩ := (bind_eq_ok_iff ..).mp read
            exact ih keepsRest holds goesOn

theorem takeItems_keeps {items : List Document} {closed : Bool}
    (keeps : ∀ name, ∀ item ∈ items, ∀ state after, P state →
      record.take name item state = .ok after → P after)
    {names seen : List String} {state : σ} (holds : P state)
    (read : record.takeItems names items closed seen state = .ok found) : P found := by
  induction items generalizing names seen state with
  | nil =>
      cases names with
      | nil =>
          unfold takeItems at read
          split at read
          · cases read
            exact holds
          · cases read
      | cons name names =>
          unfold takeItems at read
          split at read
          · cases read
          · split at read
            · cases read
              exact holds
            · cases read
  | cons item rest ih =>
      cases names with
      | nil => cases read
      | cons name names =>
          obtain ⟨next, taken, goesOn⟩ := (bind_eq_ok_iff ..).mp read
          refine ih ?_ (keeps name item List.mem_cons_self state next holds taken) goesOn
          exact fun name other listed => keeps name other (List.mem_cons_of_mem _ listed)

theorem read_keeps {document : Document} (blank : P record.blank)
    (keeps : ∀ name, ∀ part ∈ document.parts, ∀ state after, P state →
      record.take name part state = .ok after → P after)
    (read : record.read document = .ok found) : P found := by
  cases document with
  | array items closed => exact takeItems_keeps keeps blank read
  | object members closed =>
      refine takeMembers_keeps (fun name member listed => ?_) blank read
      exact keeps name member.2 (List.mem_map_of_mem listed)
  | _ => cases read

theorem readValue_keeps {value : Json} (blank : P record.blank)
    (keeps : ∀ name, ∀ part ∈ value.parts, ∀ state after, P state →
      record.take name (Document.ofJson part) state = .ok after → P after)
    (read : readValue record.read value = .ok found) : P found := by
  refine read_keeps blank (fun name document listed => ?_) read
  rw [Document.parts_ofJson] at listed
  obtain ⟨part, member, rfl⟩ := List.mem_map.mp listed
  exact keeps name part member

theorem ne_null_of_readValue {value : Json} (read : readValue record.read value = .ok found) :
    value ≠ .null := by
  rintro rfl
  cases read

end Record
end EventRelay.Json
