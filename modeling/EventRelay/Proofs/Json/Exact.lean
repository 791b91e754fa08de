import EventRelay.Proofs.Json.Records

set_option autoImplicit false

/-!
Readers that take a value as it is or not at all, so that what they return writes the value again. A
record with such fields, read from any object, shows the members of the object under the names it
knows. It keeps its first value where there is no such member, and passes over all other members.
-/
namespace EventRelay.Json

def isText : Json → Bool
  | .string _ => true
  | _ => false

/-- A whole number of at most the given size. -/
def isNatUpTo (most : Nat) : Json → Bool
  | .number (.integer n) => 0 ≤ n && n ≤ most
  | _ => false

def isListOf (test : Json → Bool) : Json → Bool
  | .array items => items.all test
  | _ => false

/-- An object whose members' values all pass a test. -/
def isMapOf (test : Json → Bool) : Json → Bool
  | .object members => members.all fun member => test member.2
  | _ => false

namespace Reader

/-- Of the values in their one form a reader takes those that pass a test, and each of them is what
is written for what is read. -/
structure Exact {α : Type} (reader : Reader α) (test : Json → Bool) (write : α → Json) : Prop where
  reads {value : Json} : value.Canonical → test value = true →
    ∃ found, reader (Document.ofJson value) = .ok found
  eq_write {value : Json} {found : α} : value.Canonical →
    reader (Document.ofJson value) = .ok found → test value = true ∧ value = write found

section Exact
variable {α : Type} {reader : Reader α} {test : Json → Bool} {write : α → Json}

theorem exact_text : Exact text isText .string where
  reads {value} _ passes := by
    cases value with
    | string s => exact ⟨s, rfl⟩
    | _ => cases passes
  eq_write {value found} _ read := by
    cases value with
    | string s =>
        cases read
        exact ⟨rfl, rfl⟩
    | _ => cases read

theorem exact_nat (most : Nat) : Exact (nat most) (isNatUpTo most) ofNat where
  reads {value} _ passes := by
    cases value with
    | number n =>
        cases n with
        | integer n =>
            have small : 0 ≤ n ∧ n ≤ most := by simpa [isNatUpTo] using passes
            exact ⟨n.toNat, if_pos small⟩
        | double x => cases passes
    | _ => cases passes
  eq_write {value found} _ read := by
    cases value with
    | number n =>
        cases n with
        | integer n =>
            rw [Document.ofJson, nat] at read
            split at read
            · rename_i small
              cases read
              exact ⟨by simpa [isNatUpTo] using small, by rw [ofNat, Int.toNat_of_nonneg small.1]⟩
            · cases read
        | double x => cases read
    | _ => cases read

theorem exact_value : Exact value (fun _ => true) id where
  reads canonical _ := ⟨_, canonical.toJson_ofJson⟩
  eq_write canonical read := ⟨rfl, Except.ok.inj (canonical.toJson_ofJson.symm.trans read)⟩

theorem Exact.items (exact : Exact reader test write) {items : List Json}
    (canonical : ∀ item ∈ items, Canonical item) :
    (items.all test = true → ∃ found, Reader.items reader (Document.ofItems items) = .ok found) ∧
      ∀ found, Reader.items reader (Document.ofItems items) = .ok found →
        items.all test = true ∧ items = found.map write := by
  induction items with
  | nil =>
      refine ⟨fun _ => ⟨[], rfl⟩, fun found read => ?_⟩
      cases read
      exact ⟨rfl, rfl⟩
  | cons item rest ih =>
      obtain ⟨first, others⟩ := List.forall_mem_cons.mp canonical
      obtain ⟨reads, written⟩ := ih others
      rw [List.all_cons, Bool.and_eq_true]
      constructor
      · rintro ⟨passes, passRest⟩
        obtain ⟨value, read⟩ := exact.reads first passes
        obtain ⟨values, readRest⟩ := reads passRest
        refine ⟨value :: values, ?_⟩
        rw [Document.ofItems, Reader.items, read, readRest]
        rfl
      · intro found read
        obtain ⟨value, readFirst, next⟩ := (bind_eq_ok_iff ..).mp read
        obtain ⟨values, readRest, same⟩ := (bind_eq_ok_iff ..).mp next
        cases same
        obtain ⟨passes, eq⟩ := exact.eq_write first readFirst
        obtain ⟨passRest, eqRest⟩ := written values readRest
        exact ⟨⟨passes, passRest⟩, congrArg₂ List.cons eq eqRest⟩

theorem Exact.list (exact : Exact reader test write) :
    Exact (Reader.list reader) (isListOf test) fun found => .array (found.map write) where
  reads {value} canonical passes := by
    cases canonical with
    | array all =>
        obtain ⟨found, read⟩ := (exact.items all).1 passes
        exact ⟨found, by rw [Document.ofJson, Reader.list, read]; rfl⟩
    | _ => cases passes
  eq_write {value found} canonical read := by
    cases canonical with
    | array all =>
        obtain ⟨_, readItems, same⟩ := (bind_eq_ok_iff ..).mp read
        cases same
        obtain ⟨passes, eq⟩ := (exact.items all).2 found readItems
        exact ⟨passes, by rw [← eq]⟩
    | _ => cases read

theorem Exact.entries (exact : Exact reader test write) {members : List (String × Json)}
    (canonical : ∀ member ∈ members, Canonical member.2) :
    ((members.all fun member => test member.2) = true →
      ∃ found, Reader.entries reader (Document.ofMembers members) = .ok found) ∧
      ∀ found, Reader.entries reader (Document.ofMembers members) = .ok found →
        (members.all fun member => test member.2) = true ∧
          members = Keyed.mapValues write found := by
  induction members with
  | nil =>
      refine ⟨fun _ => ⟨[], rfl⟩, fun found read => ?_⟩
      cases read
      exact ⟨rfl, rfl⟩
  | cons member rest ih =>
      obtain ⟨name, value⟩ := member
      obtain ⟨first, others⟩ := List.forall_mem_cons.mp canonical
      obtain ⟨reads, written⟩ := ih others
      rw [List.all_cons, Bool.and_eq_true]
      constructor
      · rintro ⟨passes, passRest⟩
        obtain ⟨field, read⟩ := exact.reads first passes
        obtain ⟨fields, readRest⟩ := reads passRest
        refine ⟨(name, field) :: fields, ?_⟩
        rw [Document.ofMembers, Reader.entries, read, readRest]
        rfl
      · intro found read
        obtain ⟨field, readFirst, next⟩ := (bind_eq_ok_iff ..).mp read
        obtain ⟨fields, readRest, same⟩ := (bind_eq_ok_iff ..).mp next
        cases same
        obtain ⟨passes, eq⟩ := exact.eq_write first readFirst
        obtain ⟨passRest, eqRest⟩ := written fields readRest
        exact ⟨⟨passes, passRest⟩, congrArg₂ List.cons (congrArg (name, ·) eq) eqRest⟩

theorem Exact.map (exact : Exact reader test write) :
    Exact (Reader.map reader) (isMapOf test) fun found =>
      .object (Keyed.mapValues write found) where
  reads {value} canonical passes := by
    cases canonical with
    | object _ all =>
        obtain ⟨found, read⟩ := (exact.entries all).1 passes
        exact ⟨Keyed.ofList found, by rw [Document.ofJson, Reader.map, read]; rfl⟩
    | _ => cases passes
  eq_write {value found} canonical read := by
    cases canonical with
    | object ascending all =>
        obtain ⟨fields, readMembers, same⟩ := (bind_eq_ok_iff ..).mp read
        cases same
        obtain ⟨passes, eq⟩ := (exact.entries all).2 fields readMembers
        -- the names ascend in the object, so nothing is put in another place
        have ordered : Keyed.Ascending fields := by
          rw [eq] at ascending
          exact List.pairwise_map.mp ascending
        exact ⟨passes, by rw [ordered.ofList_eq, ← eq]⟩
    | _ => cases read

end Exact
end Reader

namespace Record

variable {σ : Type} {record : Record σ} {members : List (String × Json)} {state after : σ}

theorem readValue_object (optional : record.required = [])
    (canonical : Canonical (.object members)) :
    readValue record.read (.object members) =
      (members.filter fun member => record.names.contains member.1).foldlM record.takeMember
        record.blank := by
  cases canonical with
  | object ascending all =>
      refine takeMembers_eq_foldlM ascending.nodup (fun _ _ => List.not_mem_nil) ?_
      rw [optional]
      exact nofun

/-- A record shows what it has taken: it takes a value under a name that it knows if the value
passes the test for this name, and then shows the value there and the same as before elsewhere. -/
structure Shows (record : Record σ) (test : String → Json → Bool) (view : σ → String → Json) :
    Prop where
  takes {name : String} {value : Json} : name ∈ record.names → value.Canonical →
    test name value = true → ∀ state, ∃ after,
      record.take name (Document.ofJson value) state = .ok after
  view_eq {name : String} {value : Json} {state after : σ} : name ∈ record.names →
    value.Canonical → record.take name (Document.ofJson value) state = .ok after →
    test name value = true ∧
      ∀ other ∈ record.names, view after other = if other = name then value else view state other

/-- A record shows what it takes if every name has an exact reader, and what is read is put where it
shows under this name alone. -/
theorem Shows.of_fields {test : String → Json → Bool} {view : σ → String → Json}
    (fields : ∀ name ∈ record.names, ∃ (α : Type) (reader : Reader α) (write : α → Json)
      (put : σ → α → σ), reader.Exact (test name) write ∧
        (∀ document state, record.take name document state = put state <$> reader document) ∧
        ∀ state found, view (put state found) name = write found ∧
          ∀ other ∈ record.names, other ≠ name → view (put state found) other = view state other) :
    Shows record test view where
  takes {name value} listed canonical passes state := by
    obtain ⟨α, reader, write, put, exact, take, -⟩ := fields name listed
    obtain ⟨found, read⟩ := exact.reads canonical passes
    exact ⟨put state found, by rw [take, read]; rfl⟩
  view_eq {name value state after} listed canonical taken := by
    obtain ⟨α, reader, write, put, exact, take, shown⟩ := fields name listed
    rw [take, map_eq_pure_bind] at taken
    obtain ⟨found, read, same⟩ := (bind_eq_ok_iff ..).mp taken
    cases same
    obtain ⟨passes, written⟩ := exact.eq_write canonical read
    obtain ⟨here, elsewhere⟩ := shown state found
    refine ⟨passes, fun other known => ?_⟩
    split
    · rename_i same
      rw [same, here, written]
    · rename_i unlike
      exact elsewhere other known unlike

section Shows
variable {test : String → Json → Bool} {view : σ → String → Json} (shows : Shows record test view)
include shows

theorem Shows.exists_foldlM (known : ∀ member ∈ members, member.1 ∈ record.names)
    (canonical : ∀ member ∈ members, Canonical member.2)
    (passes : ∀ member ∈ members, test member.1 member.2 = true) :
    ∃ after, members.foldlM record.takeMember state = .ok after := by
  induction members generalizing state with
  | nil => exact ⟨state, rfl⟩
  | cons member rest ih =>
      obtain ⟨knownFirst, knownRest⟩ := List.forall_mem_cons.mp known
      obtain ⟨canonicalFirst, canonicalRest⟩ := List.forall_mem_cons.mp canonical
      obtain ⟨passesFirst, passesRest⟩ := List.forall_mem_cons.mp passes
      obtain ⟨next, taken⟩ := shows.takes knownFirst canonicalFirst passesFirst state
      obtain ⟨after, takenRest⟩ := @ih next knownRest canonicalRest passesRest
      refine ⟨after, ?_⟩
      rw [List.foldlM_cons, takeMember, taken]
      exact takenRest

theorem Shows.of_foldlM (known : ∀ member ∈ members, member.1 ∈ record.names)
    (ascending : Keyed.Ascending members) (canonical : ∀ member ∈ members, Canonical member.2)
    (taken : members.foldlM record.takeMember state = .ok after) :
    (∀ member ∈ members, test member.1 member.2 = true) ∧
      ∀ name ∈ record.names,
        view after name = (Keyed.get? members name).getD (view state name) := by
  induction members generalizing state with
  | nil =>
      cases taken
      exact ⟨nofun, fun _ _ => rfl⟩
  | cons member rest ih =>
      obtain ⟨first, value⟩ := member
      obtain ⟨knownFirst, knownRest⟩ := List.forall_mem_cons.mp known
      obtain ⟨canonicalFirst, canonicalRest⟩ := List.forall_mem_cons.mp canonical
      obtain ⟨next, taking, takenRest⟩ := (bind_eq_ok_iff ..).mp taken
      obtain ⟨passes, seen⟩ := shows.view_eq knownFirst canonicalFirst taking
      obtain ⟨passesRest, seenRest⟩ :=
        ih knownRest (List.pairwise_cons.mp ascending).2 canonicalRest takenRest
      refine ⟨List.forall_mem_cons.mpr ⟨passes, passesRest⟩, fun name listed => ?_⟩
      rw [seenRest name listed, seen name listed]
      by_cases same : first = name
      · subst same
        -- later members have other names
        have absent : Keyed.get? rest first = none := by
          rw [Option.eq_none_iff_forall_ne_some]
          intro other found
          exact ascending.ne (Keyed.mem_of_get? found) rfl
        simp [Keyed.get?, absent]
      · simp [Keyed.get?, same, Ne.symm same]

/-- An object is read if its members of known names pass their tests. -/
theorem Shows.exists_readValue (optional : record.required = [])
    (canonical : Canonical (.object members))
    (passes : ∀ member ∈ members, member.1 ∈ record.names → test member.1 member.2 = true) :
    ∃ found, readValue record.read (.object members) = .ok found := by
  simp only [readValue_object optional canonical]
  refine shows.exists_foldlM (fun member listed => ?_) (fun member listed => ?_)
    fun member listed => ?_
  · exact List.contains_iff_mem.mp (List.mem_filter.mp listed).2
  · exact canonical.of_mem (List.mem_filter.mp listed).1
  · obtain ⟨there, known⟩ := List.mem_filter.mp listed
    exact passes member there (List.contains_iff_mem.mp known)

/-- What is read of an object shows the members of known names, and is blank where there is none. -/
theorem Shows.of_readValue (optional : record.required = [])
    (canonical : Canonical (.object members)) {found : σ}
    (read : readValue record.read (.object members) = .ok found) :
    (∀ member ∈ members, member.1 ∈ record.names → test member.1 member.2 = true) ∧
      ∀ name ∈ record.names,
        view found name = (Keyed.get? members name).getD (view record.blank name) := by
  rw [readValue_object optional canonical] at read
  cases canonical with
  | object ascending all =>
      obtain ⟨passes, seen⟩ := shows.of_foldlM
        (fun member listed => List.contains_iff_mem.mp (List.mem_filter.mp listed).2)
        (ascending.filter _) (fun member listed => all member (List.mem_filter.mp listed).1) read
      constructor
      · intro member listed known
        exact passes member (List.mem_filter.mpr ⟨listed, List.contains_iff_mem.mpr known⟩)
      · intro name known
        rw [seen name known, Keyed.get?_filter, if_pos (List.contains_iff_mem.mpr known)]

end Shows
end Record
end EventRelay.Json
