import EventRelay.Proofs.Json.Canonical

set_option autoImplicit false

/-!
Records in objects. Where no name stands twice and none is wanting, reading an object takes its
members of known names one after another in ascending order, and passes over the others.
-/
namespace EventRelay.Json

namespace Reader

theorem entries_value (documents : List (Option String × Document)) :
    entries value documents = Document.membersToJson documents := by
  induction documents with
  | nil => rfl
  | cons first rest ih =>
      obtain ⟨name, document⟩ := first
      cases name with
      | none => rfl
      | some name =>
          rw [entries, ih]
          rfl

theorem object_ofJson {members : List (String × Json)} (canonical : Canonical (.object members)) :
    object (Document.ofJson (.object members)) = .ok members := by
  cases canonical with
  | object ascending all =>
      have listed :=
        Document.membersToJson_ofMembers fun member found => (all member found).toJson_ofJson
      rw [List.map_id'] at listed
      rw [Document.ofJson, object, map, entries_value, listed]
      exact congrArg Except.ok ascending.ofList_eq

theorem canonical_of_object {document : Document} {members : List (String × Json)}
    (read : object document = .ok members) : Canonical (.object members) := by
  cases document with
  | object documents closed =>
      obtain ⟨found, entries, rest⟩ := (bind_eq_ok_iff ..).mp read
      rw [entries_value] at entries
      cases closed with
      | false => cases rest
      | true =>
          cases rest
          refine .object (Keyed.ascending_ofList found) fun member listed => ?_
          exact Document.canonical_of_membersToJson entries member (Keyed.mem_of_mem_ofList listed)
  | _ => cases read

theorem eq_ok_of_optional {α : Type} {reader : Reader α} {document : Document} {field : Option α}
    (read : optional reader document = .ok field) :
    ∀ found ∈ field, reader document = .ok found := by
  rintro found ⟨⟩
  unfold optional at read
  split at read
  · cases read
  · cases outcome : reader _ with
    | error fault => simp [outcome, Except.map] at read
    | ok value =>
        rw [outcome] at read
        cases read
        rfl

theorem items_ofItems {α : Type} {reader : Reader α} {write : α → Json} {values : List α}
    (reads : ∀ value ∈ values, reader (Document.ofJson (write value)) = .ok value) :
    items reader (Document.ofItems (values.map write)) = .ok values := by
  induction values with
  | nil => rfl
  | cons value rest ih =>
      obtain ⟨first, others⟩ := List.forall_mem_cons.mp reads
      rw [List.map_cons, Document.ofItems, items, first, ih others]
      rfl

theorem list_ofJson {α : Type} {reader : Reader α} {write : α → Json} {values : List α}
    (reads : ∀ value ∈ values, reader (Document.ofJson (write value)) = .ok value) :
    list reader (Document.ofJson (.array (values.map write))) = .ok values := by
  rw [Document.ofJson, list, items_ofItems reads]
  rfl

theorem ascending_of_map {α : Type} {reader : Reader α} {document : Document}
    {found : List (String × α)} (read : map reader document = .ok found) :
    Keyed.Ascending found := by
  cases document with
  | object members closed =>
      obtain ⟨listed, -, rest⟩ := (bind_eq_ok_iff ..).mp read
      cases closed with
      | false => cases rest
      | true =>
          cases rest
          exact Keyed.ascending_ofList listed
  | _ => cases read

end Reader

namespace Document

mutual

theorem skip_ofJson (value : Json) : (ofJson value).skip = .ok () := by
  cases value with
  | array items =>
      rw [ofJson, skip, skipItems_ofItems items]
      rfl
  | object members =>
      rw [ofJson, skip, skipMembers_ofMembers members]
      rfl
  | _ => rfl

theorem skipItems_ofItems (items : List Json) : skipItems (ofItems items) = .ok () := by
  match items with
  | [] => rfl
  | item :: rest =>
      rw [ofItems, skipItems, skip_ofJson item]
      exact skipItems_ofItems rest

theorem skipMembers_ofMembers (members : List (String × Json)) :
    skipMembers (ofMembers members) = .ok () := by
  match members with
  | [] => rfl
  | (_, value) :: rest =>
      rw [ofMembers, skipMembers, skip_ofJson value]
      exact skipMembers_ofMembers rest

end
end Document

namespace Record

section Fold
variable {σ : Type} (record : Record σ)

def takeMember (state : σ) (member : String × Json) : Except Fault σ :=
  record.take member.1 (Document.ofJson member.2) state

variable {record} {members : List (String × Json)} {state found : σ}

section Steps
variable {name : String} {document : Document} {rest : List (Option String × Document)}
  {closed : Bool} {seen : List String}

theorem takeMembers_of_known (known : record.names.contains name = true)
    (fresh : seen.contains name = false) {next : σ}
    (taken : record.take name document state = .ok next) :
    record.takeMembers ((some name, document) :: rest) closed seen state =
      record.takeMembers rest closed (name :: seen) next := by
  rw [takeMembers, if_pos known, fresh, if_neg Bool.false_ne_true, taken]
  rfl

theorem takeMembers_of_unknown (unknown : record.names.contains name = false)
    (skips : document.skip = .ok ()) :
    record.takeMembers ((some name, document) :: rest) closed seen state =
      record.takeMembers rest closed seen state := by
  rw [takeMembers, unknown, if_neg Bool.false_ne_true, skips]
  rfl

end Steps

/-- Of an object in which no name stands twice the members of known names are taken one after
another. -/
theorem takeMembers_eq_foldlM {seen : List String} (distinct : (members.map (·.1)).Nodup)
    (fresh : ∀ member ∈ members, member.1 ∉ seen)
    (complete : ∀ name ∈ record.required,
      name ∈ seen ∨ ∃ member ∈ members, record.names.contains member.1 = true ∧ member.1 = name) :
    record.takeMembers (Document.ofMembers members) true seen state =
      (members.filter fun member => record.names.contains member.1).foldlM record.takeMember
        state := by
  induction members generalizing seen state with
  | nil =>
      have all : record.complete seen = true := by
        rw [Record.complete, List.all_eq_true]
        intro name required
        exact List.contains_iff_mem.mpr ((complete name required).resolve_right (by simp))
      rw [Document.ofMembers, takeMembers, all]
      rfl
  | cons member rest ih =>
      obtain ⟨name, value⟩ := member
      obtain ⟨unlike, distinctRest⟩ := List.nodup_cons.mp distinct
      obtain ⟨freshFirst, freshRest⟩ := List.forall_mem_cons.mp fresh
      cases known : record.names.contains name with
      | false =>
          rw [Document.ofMembers, takeMembers_of_unknown known (Document.skip_ofJson value),
            List.filter_cons_of_neg (by rw [known]; decide)]
          refine ih distinctRest freshRest fun required wanted => ?_
          refine (complete required wanted).imp_right fun ⟨other, listed, taken, named⟩ => ?_
          rcases List.mem_cons.mp listed with rfl | later
          · cases known.symm.trans taken
          · exact ⟨other, later, taken, named⟩
      | true =>
          have unseen : seen.contains name = false :=
            Bool.eq_false_iff.mpr fun listed => freshFirst (List.contains_iff_mem.mp listed)
          rw [List.filter_cons_of_pos (a := (name, value)) known, List.foldlM_cons,
            Document.ofMembers, takeMembers, if_pos known, unseen, if_neg Bool.false_ne_true]
          refine bind_congr fun next => ih distinctRest (fun other listed => ?_)
            fun required wanted => ?_
          · rw [List.mem_cons, not_or]
            refine ⟨?_, freshRest other listed⟩
            intro (same : other.1 = name)
            have again : other.1 ∈ rest.map (·.1) := List.mem_map_of_mem listed
            exact unlike (same ▸ again)
          · rcases complete required wanted with before | ⟨other, listed, taken, named⟩
            · exact Or.inl (List.mem_cons_of_mem _ before)
            · rcases List.mem_cons.mp listed with rfl | later
              · exact Or.inl (named ▸ List.mem_cons_self)
              · exact Or.inr ⟨other, later, taken, named⟩

theorem ofMembers_eq_of_perm {sorted : List (String × Json)} {names : List String}
    (perm : members.Perm sorted) (named : (sorted.map (·.1)).Sublist names)
    (ascending : names.Pairwise fun first second => compare first second = .lt) :
    Json.ofMembers members = .object sorted := by
  have ordered : Keyed.Ascending sorted := List.pairwise_map.mp (ascending.sublist named)
  rw [Json.ofMembers, Keyed.ofList_eq_of_perm perm ordered]

/-- An object is read member by member in ascending order if names are known, and each stands only
once. -/
theorem readValue_ofMembers {sorted : List (String × Json)} {names : List String}
    (perm : members.Perm sorted) (named : (sorted.map (·.1)).Sublist names)
    (ascending : names.Pairwise fun first second => compare first second = .lt)
    (known : ∀ name ∈ names, record.names.contains name = true)
    (complete : ∀ name ∈ record.required, name ∈ sorted.map (·.1))
    (taken : sorted.foldlM record.takeMember record.blank = .ok found) :
    readValue record.read (Json.ofMembers members) = .ok found := by
  have ordered : Keyed.Ascending sorted := List.pairwise_map.mp (ascending.sublist named)
  have all : ∀ member ∈ sorted, record.names.contains member.1 = true := fun member listed =>
    known _ (named.subset (List.mem_map_of_mem listed))
  have whole : ∀ name ∈ record.required, name ∈ ([] : List String) ∨
      ∃ member ∈ sorted, record.names.contains member.1 = true ∧ member.1 = name := by
    intro name required
    obtain ⟨member, listed, same⟩ := List.mem_map.mp (complete name required)
    exact Or.inr ⟨member, listed, all member listed, same⟩
  rw [ofMembers_eq_of_perm perm named ascending, readValue, Document.ofJson, read,
    takeMembers_eq_foldlM ordered.nodup (fun _ _ => List.not_mem_nil) whole,
    List.filter_eq_self.mpr all, taken]

theorem foldlM_append_ok {first rest : List (String × Json)} {middle : σ}
    (taken : first.foldlM record.takeMember state = .ok middle)
    (takenRest : rest.foldlM record.takeMember middle = .ok found) :
    (first ++ rest).foldlM record.takeMember state = .ok found := by
  rw [List.foldlM_append, taken]
  exact takenRest

/-- An optional member is taken where there is one, and nothing changes where there is none. -/
theorem foldlM_optional {α : Type} {field : Option α} {name : String} {write : α → Json}
    (put : Option α → σ) (absent : put none = state)
    (present : ∀ value, field = some value →
      record.take name (Document.ofJson (write value)) state = .ok (put (some value))) :
    (field.map fun value => (name, write value)).toList.foldlM record.takeMember state =
      .ok (put field) := by
  cases field with
  | none =>
      rw [absent]
      rfl
  | some value =>
      have taken : record.takeMember state (name, write value) = .ok (put (some value)) :=
        present value rfl
      simp only [Option.map_some, Option.toList_some, List.foldlM_cons, taken]
      rfl

/-- There is at most one member for an optional field, and it has the field's name. -/
theorem map_optional {α : Type} (field : Option α) (name : String) (write : α → Json) :
    ((field.map fun value => (name, write value)).toList.map (·.1)).Sublist [name] := by
  cases field with
  | none => exact List.nil_sublist _
  | some value => exact List.Sublist.refl _

end Fold

end Record
end EventRelay.Json
