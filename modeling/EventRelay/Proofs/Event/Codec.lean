import EventRelay.Event.Codec
import EventRelay.Proofs.Json.Parts
import EventRelay.Proofs.Json.Records
import EventRelay.Proofs.Time.Rfc3339

set_option autoImplicit false

/-!
Events as JSON and back. Members are written in ascending order of their names, whichever of them
there are, and an event is read from what is written for it if clocks can show its time and its
values are in their one form. All events that are read are such events.
-/
namespace EventRelay

open Json (Document Reader Canonical)

namespace Event

/-- The time is one that clocks show, and all values are in their one form. -/
structure WellFormed (e : Event) : Prop where
  time : ∀ time ∈ e.time, time.WellFormed
  extensions : ∀ members ∈ e.extensions, Canonical (.object members)
  data : e.data.Canonical

section Written
variable {e : Event} {name : String} {value : Option Json}

theorem map_member? : (((member? name value).map (·.1)).Sublist [name]) := by
  cases value with
  | none => exact List.nil_sublist _
  | some value => exact List.Sublist.refl _

def memberNames : List String :=
  ["cloudEventsVersion", "contentType", "data", "eventID", "eventTime", "eventType",
    "eventTypeVersion", "extensions", "schemaURL", "source"]

/-- What is written for an event, in ascending order of the names. -/
def members (e : Event) : List (String × Json) :=
  [("cloudEventsVersion", .string e.cloudEventsVersion)]
    ++ (member? "contentType" (e.contentType.map .string)
    ++ ([("data", e.data), ("eventID", .string e.id)]
    ++ (member? "eventTime" (e.time.map fun time => .string (Rfc3339.text time))
    ++ ([("eventType", .string e.type.name)]
    ++ (member? "eventTypeVersion" (e.typeVersion.map .string)
    ++ (member? "extensions" (e.extensions.map .object)
    ++ (member? "schemaURL" (e.schemaUrl.map .string)
    ++ [("source", .string e.source)])))))))

theorem map_members : ((members e).map (·.1)).Sublist memberNames := by
  simp only [members, List.map_append]
  refine (List.Sublist.refl ["cloudEventsVersion"]).append ?_
  refine .append map_member? ?_
  refine (List.Sublist.refl ["data", "eventID"]).append ?_
  refine .append map_member? ?_
  refine (List.Sublist.refl ["eventType"]).append ?_
  refine .append map_member? ?_
  refine .append map_member? ?_
  exact .append map_member? (.refl _)

theorem foldlM_member? {α : Type} {field : Option α} {write : α → Json} {state : Event}
    (put : Option α → Event) (absent : put none = state)
    (present : ∀ found, field = some found →
      record.take name (Document.ofJson (write found)) state = .ok (put (some found))) :
    (member? name (field.map write)).foldlM record.takeMember state = .ok (put field) := by
  have taken := Json.Record.foldlM_optional put absent present
  rwa [member?, Option.map_map]

theorem foldlM_members (wellFormed : e.WellFormed) :
    (members e).foldlM record.takeMember blank = .ok e := by
  let s₁ : Event := { blank with cloudEventsVersion := e.cloudEventsVersion }
  let s₂ : Event := { s₁ with contentType := e.contentType }
  let s₃ : Event := { s₂ with data := e.data, id := e.id }
  let s₄ : Event := { s₃ with time := e.time }
  let s₅ : Event := { s₄ with type := e.type }
  let s₆ : Event := { s₅ with typeVersion := e.typeVersion }
  let s₇ : Event := { s₆ with extensions := e.extensions }
  have contentType : (member? "contentType" (e.contentType.map .string)).foldlM
      record.takeMember s₁ = .ok s₂ :=
    foldlM_member? (fun field => { s₁ with contentType := field }) rfl fun _ _ => rfl
  have dataAndId : [("data", e.data), ("eventID", Json.string e.id)].foldlM
      record.takeMember s₂ = .ok s₃ := by
    have data : record.takeMember s₂ ("data", e.data) = .ok { s₂ with data := e.data } := by
      have read : Reader.value (Document.ofJson e.data) = .ok e.data :=
        wellFormed.data.toJson_ofJson
      simp only [Json.Record.takeMember, record, read]
      rfl
    simp only [List.foldlM_cons, data]
    rfl
  have time : (member? "eventTime" (e.time.map fun time => .string (Rfc3339.text time))).foldlM
      record.takeMember s₃ = .ok s₄ := by
    refine foldlM_member? (fun field => { s₃ with time := field }) rfl fun time given => ?_
    have read := Rfc3339.parseLoose?_text (wellFormed.time time given)
    simp only [record, Document.ofJson, Reader.optional, timeReader, Reader.text, bind, Except.bind,
      read]
    rfl
  have typeVersion : (member? "eventTypeVersion" (e.typeVersion.map .string)).foldlM
      record.takeMember s₅ = .ok s₆ :=
    foldlM_member? (fun field => { s₅ with typeVersion := field }) rfl fun _ _ => rfl
  have extensions : (member? "extensions" (e.extensions.map .object)).foldlM
      record.takeMember s₆ = .ok s₇ := by
    refine foldlM_member? (fun field => { s₆ with extensions := field }) rfl fun members given => ?_
    have read := Reader.object_ofJson (wellFormed.extensions members given)
    rw [Document.ofJson] at read ⊢
    simp only [record, Reader.optional, read]
    rfl
  have schemaUrl : (member? "schemaURL" (e.schemaUrl.map .string)).foldlM
      record.takeMember s₇ = .ok { s₇ with schemaUrl := e.schemaUrl } :=
    foldlM_member? (fun field => { s₇ with schemaUrl := field }) rfl fun _ _ => rfl
  rw [members]
  refine Json.Record.foldlM_append_ok (rfl : _ = Except.ok s₁) ?_
  refine Json.Record.foldlM_append_ok contentType (Json.Record.foldlM_append_ok dataAndId ?_)
  refine Json.Record.foldlM_append_ok time
    (Json.Record.foldlM_append_ok (rfl : _ = Except.ok s₅) ?_)
  refine Json.Record.foldlM_append_ok typeVersion (Json.Record.foldlM_append_ok extensions ?_)
  exact Json.Record.foldlM_append_ok schemaUrl rfl

theorem perm_members :
    ([("eventType", Json.string e.type.name), ("cloudEventsVersion", .string e.cloudEventsVersion),
        ("source", .string e.source), ("eventID", .string e.id), ("data", e.data)]
      ++ member? "eventTypeVersion" (e.typeVersion.map .string)
      ++ member? "eventTime" (e.time.map fun time => .string (Rfc3339.text time))
      ++ member? "schemaURL" (e.schemaUrl.map .string)
      ++ member? "extensions" (e.extensions.map .object)
      ++ member? "contentType" (e.contentType.map .string)).Perm (members e) := by
  rw [List.perm_iff_count]
  intro member
  simp only [members, List.count_append, List.count_cons, List.count_nil]
  omega

theorem readValue_toJson (wellFormed : e.WellFormed) :
    Json.readValue record.read e.toJson = .ok e :=
  Json.Record.readValue_ofMembers perm_members map_members (by decide) (by decide)
    (fun _ required => nomatch required) (foldlM_members wellFormed)

theorem mem_member? {α : Type} {field : Option α} {write : α → Json} {member : String × Json}
    (listed : member ∈ member? name (field.map write)) : ∃ x ∈ field, member.2 = write x := by
  cases field with
  | none => cases listed
  | some x =>
      rw [List.mem_singleton.mp listed]
      exact ⟨x, rfl, rfl⟩

theorem canonical_toJson (wellFormed : e.WellFormed) : e.toJson.Canonical := by
  refine Json.canonical_ofMembers fun member listed => ?_
  simp only [List.mem_append, List.mem_cons, List.not_mem_nil, or_false] at listed
  rcases listed with
    (((((rfl | rfl | rfl | rfl | rfl) | version) | time) | schema) | extensions) | contentType
  · exact .string _
  · exact .string _
  · exact .string _
  · exact .string _
  · exact wellFormed.data
  · obtain ⟨text, -, same⟩ := mem_member? version
    exact same ▸ .string text
  · obtain ⟨time, -, same⟩ := mem_member? time
    exact same ▸ .string _
  · obtain ⟨text, -, same⟩ := mem_member? schema
    exact same ▸ .string text
  · obtain ⟨found, given, same⟩ := mem_member? extensions
    exact same ▸ wellFormed.extensions found given
  · obtain ⟨text, -, same⟩ := mem_member? contentType
    exact same ▸ .string text

end Written

section Read
variable {document : Document} {e : Event}

theorem wellFormed_of_timeReader {time : Instant} (read : timeReader document = .ok time) :
    time.WellFormed := by
  obtain ⟨text, -, found⟩ := (bind_eq_ok_iff ..).mp read
  split at found
  · rename_i instant parsed
    cases found
    exact Rfc3339.wellFormed_of_parseLoose? parsed
  · cases found

theorem WellFormed.take {name : String} {after : Event} (wellFormed : e.WellFormed)
    (taken : record.take name document e = .ok after) : after.WellFormed := by
  obtain ⟨time, extensions, data⟩ := wellFormed
  simp only [record] at taken
  split at taken
  all_goals
    obtain ⟨field, read, same⟩ := (bind_eq_ok_iff ..).mp taken
    cases same
  case h_6 =>
    exact ⟨fun _ given => wellFormed_of_timeReader (Reader.eq_ok_of_optional read _ given),
      extensions, data⟩
  case h_8 =>
    exact ⟨time, fun _ given => Reader.canonical_of_object (Reader.eq_ok_of_optional read _ given),
      data⟩
  case h_10 => exact ⟨time, extensions, Document.canonical_of_toJson read⟩
  all_goals exact ⟨time, extensions, data⟩

/-- Every event that is read is well-formed. -/
theorem wellFormed_of_read (read : record.read document = .ok e) : e.WellFormed := by
  refine Json.Record.read_keeps ?_ (fun _ _ _ _ _ kept taken => kept.take taken) read
  exact ⟨nofun, nofun, .null⟩

end Read
end Event
end EventRelay
