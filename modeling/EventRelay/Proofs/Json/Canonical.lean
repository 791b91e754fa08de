import EventRelay.Json.Reader
import EventRelay.Proofs.Except
import EventRelay.Proofs.Keyed

set_option autoImplicit false

/-!
Values in their one form: the members of every object ascend. All values that are read are of this
form, and a value of this form, looked through again, is read as it is.
-/
namespace EventRelay.Json

/-- In every object of a value the names of the members ascend. -/
inductive Canonical : Json → Prop
  | null : Canonical .null
  | bool (b : Bool) : Canonical (.bool b)
  | number (n : Number) : Canonical (.number n)
  | string (s : String) : Canonical (.string s)
  | array {items : List Json} (all : ∀ item ∈ items, Canonical item) : Canonical (.array items)
  | object {members : List (String × Json)} (ascending : Keyed.Ascending members)
      (all : ∀ member ∈ members, Canonical member.2) : Canonical (.object members)

namespace Document

mutual

theorem canonical_of_toJson {document : Document} {value : Json}
    (read : document.toJson = .ok value) : Canonical value := by
  cases document with
  | null =>
      cases read
      exact .null
  | bool b =>
      cases read
      exact .bool b
  | number n =>
      cases read
      exact .number n
  | string s =>
      cases read
      exact .string s
  | array items closed =>
      obtain ⟨values, found, rest⟩ := (bind_eq_ok_iff ..).mp read
      cases closed with
      | false => cases rest
      | true =>
          cases rest
          exact .array (canonical_of_itemsToJson found)
  | object members closed =>
      obtain ⟨values, found, rest⟩ := (bind_eq_ok_iff ..).mp read
      cases closed with
      | false => cases rest
      | true =>
          cases rest
          refine .object (Keyed.ascending_ofList values) fun member listed => ?_
          exact canonical_of_membersToJson found member (Keyed.mem_of_mem_ofList listed)
  | unreadable => cases read
  | broken => cases read

theorem canonical_of_itemsToJson {documents : List Document} {values : List Json}
    (read : itemsToJson documents = .ok values) : ∀ value ∈ values, Canonical value := by
  cases documents with
  | nil =>
      cases read
      exact fun _ member => nomatch member
  | cons document rest =>
      obtain ⟨first, found, next⟩ := (bind_eq_ok_iff ..).mp read
      obtain ⟨others, foundOthers, same⟩ := (bind_eq_ok_iff ..).mp next
      cases same
      exact List.forall_mem_cons.mpr
        ⟨canonical_of_toJson found, canonical_of_itemsToJson foundOthers⟩

theorem canonical_of_membersToJson {documents : List (Option String × Document)}
    {members : List (String × Json)} (read : membersToJson documents = .ok members) :
    ∀ member ∈ members, Canonical member.2 := by
  match documents with
  | [] =>
      cases read
      exact fun _ member => nomatch member
  | (none, _) :: _ => cases read
  | (some name, document) :: rest =>
      obtain ⟨first, found, next⟩ := (bind_eq_ok_iff ..).mp read
      obtain ⟨others, foundOthers, same⟩ := (bind_eq_ok_iff ..).mp next
      cases same
      exact List.forall_mem_cons.mpr
        ⟨canonical_of_toJson found, canonical_of_membersToJson foundOthers⟩

end

theorem itemsToJson_ofItems {items : List Json}
    (read : ∀ item ∈ items, (ofJson item).toJson = .ok item) :
    itemsToJson (ofItems items) = .ok items := by
  induction items with
  | nil => rfl
  | cons item rest ih =>
      obtain ⟨first, others⟩ := List.forall_mem_cons.mp read
      rw [ofItems, itemsToJson, first, ih others]
      rfl

theorem membersToJson_ofMembers {members : List (String × Json)} {value : String × Json → Json}
    (read : ∀ member ∈ members, (ofJson member.2).toJson = .ok (value member)) :
    membersToJson (ofMembers members) =
      .ok (members.map fun member => (member.1, value member)) := by
  induction members with
  | nil => rfl
  | cons member rest ih =>
      obtain ⟨first, others⟩ := List.forall_mem_cons.mp read
      rw [ofMembers, membersToJson, first, ih others]
      rfl

theorem toJson_object {members : List (String × Json)} {value : String × Json → Json}
    (read : ∀ member ∈ members, (ofJson member.2).toJson = .ok (value member)) :
    (ofJson (.object members)).toJson =
      .ok (Json.ofMembers (members.map fun member => (member.1, value member))) := by
  rw [ofJson, toJson, membersToJson_ofMembers read]
  rfl

end Document

/-- A value in its one form is read as it is. -/
theorem Canonical.toJson_ofJson {value : Json} (canonical : Canonical value) :
    (Document.ofJson value).toJson = .ok value := by
  induction canonical with
  | null => rfl
  | bool b => rfl
  | number n => rfl
  | string s => rfl
  | @array items all read =>
      rw [Document.ofJson, Document.toJson, Document.itemsToJson_ofItems read]
      rfl
  | @object members ascending all read =>
      rw [Document.toJson_object read, List.map_id', Json.ofMembers, ascending.ofList_eq]

/-- Texts are read as their map in whatever order they are written. -/
theorem toJson_of_texts {entries sorted : List (String × String)} (perm : entries.Perm sorted)
    (ascending : Keyed.Ascending sorted) :
    (Document.ofJson (.object (Keyed.mapValues .string entries))).toJson =
      .ok (ofTexts sorted) := by
  have reads : ∀ member ∈ Keyed.mapValues Json.string entries,
      (Document.ofJson member.2).toJson = .ok member.2 := by
    intro member listed
    obtain ⟨entry, -, rfl⟩ := List.mem_map.mp listed
    rfl
  have shuffled : (Keyed.mapValues Json.string entries).Perm (Keyed.mapValues Json.string sorted) :=
    perm.map _
  have ordered : Keyed.Ascending (Keyed.mapValues Json.string sorted) :=
    List.pairwise_map.mpr ascending
  rw [Document.toJson_object reads, List.map_id', ofMembers, ofTexts,
    Keyed.ofList_eq_of_perm shuffled ordered]

theorem canonical_of_parse {bytes : Bytes} {value : Json} (read : parse bytes = .ok value) :
    Canonical value := by
  unfold parse readBytes at read
  generalize Document.ofBytes bytes = whole at read
  obtain ⟨document, ended⟩ := whole
  obtain ⟨found, reads, rest⟩ := (bind_eq_ok_iff ..).mp read
  cases ended with
  | false => cases rest
  | true =>
      cases rest
      exact Document.canonical_of_toJson reads

theorem Canonical.of_mem {members : List (String × Json)} (canonical : Canonical (.object members))
    {member : String × Json} (listed : member ∈ members) : Canonical member.2 := by
  cases canonical with
  | object ascending all => exact all member listed

theorem canonical_ofMembers {members : List (String × Json)}
    (all : ∀ member ∈ members, Canonical member.2) : Canonical (Json.ofMembers members) :=
  .object (Keyed.ascending_ofList members) fun member listed =>
    all member (Keyed.mem_of_mem_ofList listed)

theorem canonical_strings (texts : List String) : Canonical (strings texts) := by
  refine .array fun item member => ?_
  obtain ⟨text, -, rfl⟩ := List.mem_map.mp member
  exact .string text

theorem canonical_mapValues {ν : Type} {entries : List (String × ν)} {f : ν → Json}
    (ascending : Keyed.Ascending entries) (canonical : ∀ value, Canonical (f value)) :
    Canonical (.object (Keyed.mapValues f entries)) := by
  refine .object (List.pairwise_map.mpr ascending) fun member listed => ?_
  obtain ⟨entry, -, rfl⟩ := List.mem_map.mp listed
  exact canonical entry.2

end EventRelay.Json
