import EventRelay.Event.OfRequest
import EventRelay.Json.Printer
import EventRelay.Proofs.Event.Codec
import EventRelay.Proofs.Http.Fields
import EventRelay.Proofs.Json.Texts
import EventRelay.Proofs.Text.Split
import Mathlib

set_option autoImplicit false

/-!
Two modes of carrying an event: in the body, as JSON, or with its attributes in header fields and
its data in the body. An event that header fields can tell of is read alike from both.
-/
namespace EventRelay

namespace Rfc3339

theorem isFieldChar_of_isDigit {c : Char} (digit : c.isDigit = true) : isFieldChar c = true := by
  have number : c.val.toNat = c.toNat := rfl
  simp only [Char.isDigit, Bool.and_eq_true, decide_eq_true_eq, ge_iff_le, UInt32.le_iff_toNat_le,
    number] at digit
  obtain ⟨low, high⟩ : 48 ≤ c.toNat ∧ c.toNat ≤ 57 := digit
  simp only [isFieldChar, Bool.or_eq_true, Bool.and_eq_true, decide_eq_true_eq]
  omega

theorem all_padded (width n : Nat) : (padded width n).all isFieldChar = true :=
  List.all_eq_true.mpr fun _ member => isFieldChar_of_isDigit (isDigit_of_mem_padded member)

theorem isFieldText_text (i : Instant) : isFieldText (text i) = true := by
  have year : (yearText i.date.year).all isFieldChar = true := by
    unfold yearText
    split
    · exact all_padded _ _
    · rw [List.all_cons, all_padded, Bool.and_true]
      split <;> rfl
  have fraction : (fractionText i.timeOfDay.nanos).all isFieldChar = true := by
    unfold fractionText
    split
    · rfl
    · repeat' split
      all_goals rw [List.all_cons, all_padded, Bool.and_true]; rfl
  simp only [isFieldText, text, String.toList_ofList, List.all_append, List.all_cons, List.all_nil,
    year, fraction, all_padded, Bool.and_true, Bool.true_and]
  rfl

end Rfc3339

namespace Event

/-- The text of an event is read as the event if its extensions and its data are. -/
theorem readsBack_toJson {e : Event}
    (extensions : ∀ members ∈ e.extensions, Json.Legible 1 (.object members))
    (data : Json.Legible 1 e.data) : e.toJson.ReadsBack := by
  refine Json.Legible.readsBack (Json.legible_ofMembers (by decide) fun member listed => ?_)
  simp only [List.mem_append, List.mem_cons, List.not_mem_nil, or_false] at listed
  rcases listed with
    (((((rfl | rfl | rfl | rfl | rfl) | version) | time) | schema) | found) | contentType
  · exact .string _ _
  · exact .string _ _
  · exact .string _ _
  · exact .string _ _
  · exact data
  · obtain ⟨text, -, same⟩ := mem_member? version
    exact same ▸ .string _ text
  · obtain ⟨time, -, same⟩ := mem_member? time
    exact same ▸ .string _ _
  · obtain ⟨text, -, same⟩ := mem_member? schema
    exact same ▸ .string _ text
  · obtain ⟨members, given, same⟩ := mem_member? found
    exact same ▸ extensions members given
  · obtain ⟨text, -, same⟩ := mem_member? contentType
    exact same ▸ .string _ text

/-- A text that is not empty and can be told in a field. -/
def IsAttribute (text : String) : Prop := text ≠ "" ∧ isFieldText text = true

/-- A text under a name that may stand in that of a field, and is in lower case. -/
structure IsExtension (member : String × Json) : Prop where
  token : member.1.toList.all isTokenChar = true
  lower : Text.lower member.1 = member.1
  text : ∃ text, member.2 = .string text ∧ isFieldText text = true

/-- A valid event of JSON data whose attributes and extensions can be told in header fields, in a
year that is written without a sign. -/
structure Portable (e : Event) : Prop where
  type : IsAttribute e.type.name
  typeVersion : ∀ text ∈ e.typeVersion, isFieldText text = true
  cloudEventsVersion : IsAttribute e.cloudEventsVersion
  source : IsAttribute e.source
  accepted : isSource e.source = true
  id : IsAttribute e.id
  time : ∀ time ∈ e.time, time.WellFormed ∧ 0 ≤ time.date.year ∧ time.date.year ≤ 9999
  schemaUrl : ∀ url ∈ e.schemaUrl, IsAttribute url
  ascending : Keyed.Ascending (e.extensions.getD [])
  extensions : ∀ member ∈ e.extensions.getD [], IsExtension member
  contentType : e.contentType = some jsonType
  data : e.data.Canonical

/-- The names and texts of the fields for the attributes. -/
def attributes (e : Event) : List (String × Option String) :=
  [("Content-Type", e.contentType), ("CE-EventType", some e.type.name),
    ("CE-EventTypeVersion", e.typeVersion), ("CE-CloudEventsVersion", some e.cloudEventsVersion),
    ("CE-Source", some e.source), ("CE-EventID", some e.id),
    ("CE-EventTime", e.time.map Rfc3339.text), ("CE-SchemaURL", e.schemaUrl)]

/-- The names and texts of the fields for the extensions. -/
def extensionTexts (e : Event) : List (String × Option String) :=
  (e.extensions.getD []).map fun member => ("CE-X-" ++ member.1, member.2.text?)

def fields (e : Event) : Headers :=
  (e.attributes ++ e.extensionTexts).filterMap fun entry =>
    entry.2.bind fun text => HeaderField.of? entry.1 (Text.encode text)

def attributeNames : List String := (blank.attributes).map fun entry => Text.lower entry.1

/-- The body is the event as JSON, and is said to be. -/
structure Structured (e : Event) (request : Request) : Prop where
  typed : request.headers.text? "content-type" = some eventJsonType
  body : request.body = Text.encode e.toJson.compact

/-- The fields of the event are there, in any order and among others that tell nothing of an event,
and the body is the data as JSON. -/
structure Binary (e : Event) (request : Request) (others : Headers) : Prop where
  fields : request.headers.Perm (e.fields ++ others)
  others : ∀ field ∈ others,
    field.name ∉ attributeNames ∧ Text.beginsWith "ce-x-" field.name = false
  body : request.body = Text.encode e.data.compact

section Fields
variable {e : Event} {field : HeaderField} {entry : String × Option String} {member : String × Json}
  {text name : String}

theorem mem_fields : field ∈ e.fields ↔ ∃ entry ∈ e.attributes ++ e.extensionTexts, ∃ text,
    entry.2 = some text ∧ HeaderField.of? entry.1 (Text.encode text) = some field := by
  simp only [fields, List.mem_filterMap, Option.bind_eq_some_iff]

theorem of?_of_isFieldText (token : name.toList.all isTokenChar = true) (filled : name ≠ "")
    (fits : isFieldText text = true) :
    HeaderField.of? name (Text.encode text) = some ⟨Text.lower name, Text.encode text⟩ := by
  simp [HeaderField.of?, HeaderField.name?, token, filled, isValue_of_isFieldText fits]

theorem attribute_named (listed : entry ∈ e.attributes) :
    entry.1.toList.all isTokenChar = true ∧ entry.1 ≠ "" := by
  have name : entry.1 ∈ (e.attributes).map (·.1) := List.mem_map_of_mem listed
  have all : ∀ name ∈ (e.attributes).map (·.1), name.toList.all isTokenChar = true ∧ name ≠ "" := by
    change ∀ name ∈ (blank.attributes).map (·.1), _
    decide
  exact all entry.1 name

theorem attributeNames_eq : attributeNames =
    ["content-type", "ce-eventtype", "ce-eventtypeversion", "ce-cloudeventsversion", "ce-source",
      "ce-eventid", "ce-eventtime", "ce-schemaurl"] := by
  cbv

theorem lower_mem_attributeNames (listed : entry ∈ e.attributes) :
    Text.lower entry.1 ∈ attributeNames :=
  List.mem_map_of_mem (f := fun entry => Text.lower entry.1) listed

theorem eq_of_lower_eq {other : String × Option String} (listed : entry ∈ e.attributes)
    (listedOther : other ∈ e.attributes) (same : Text.lower entry.1 = Text.lower other.1) :
    entry = other := by
  have distinct : ((e.attributes).map fun entry => Text.lower entry.1).Nodup := by
    change attributeNames.Nodup
    rw [attributeNames_eq]
    decide
  exact List.inj_on_of_nodup_map distinct listed listedOther same

theorem after?_attributeName (listed : name ∈ attributeNames) :
    Text.after? "ce-x-" name = none := by
  have all : attributeNames.all (fun name => (Text.after? "ce-x-" name).isNone) = true := by
    rw [attributeNames_eq]
    cbv
  exact Option.isNone_iff_eq_none.mp (List.all_eq_true.mp all name listed)

theorem extension_named (extension : IsExtension member) :
    ("CE-X-" ++ member.1).toList.all isTokenChar = true ∧ "CE-X-" ++ member.1 ≠ "" ∧
      Text.lower ("CE-X-" ++ member.1) = "ce-x-" ++ member.1 := by
  refine ⟨?_, ?_, ?_⟩
  · rw [String.toList_append, List.all_append, extension.token]
    rfl
  · intro empty
    have longer := congrArg String.toList empty
    simp at longer
  · have lowered : (Text.lower ("CE-X-" ++ member.1)).toList = ("ce-x-" ++ member.1).toList := by
      have kept := congrArg String.toList extension.lower
      rw [Text.toList_lower] at kept
      rw [Text.toList_lower, String.toList_append, List.map_append, kept, String.toList_append]
      rfl
    exact String.toList_inj.mp lowered

theorem Portable.isFieldText_attribute (portable : e.Portable) (listed : entry ∈ e.attributes)
    (given : entry.2 = some text) : isFieldText text = true := by
  simp only [attributes, List.mem_cons, List.not_mem_nil, or_false] at listed
  rcases listed with rfl | rfl | rfl | rfl | rfl | rfl | rfl | rfl
  · rw [portable.contentType] at given
    cases given
    rfl
  · cases given
    exact portable.type.2
  · exact portable.typeVersion text given
  · cases given
    exact portable.cloudEventsVersion.2
  · cases given
    exact portable.source.2
  · cases given
    exact portable.id.2
  · obtain ⟨time, -, rfl⟩ := Option.map_eq_some_iff.mp given
    exact Rfc3339.isFieldText_text time
  · exact (portable.schemaUrl text given).2

theorem Portable.of?_attribute (portable : e.Portable) (listed : entry ∈ e.attributes)
    (given : entry.2 = some text) : HeaderField.of? entry.1 (Text.encode text) =
      some ⟨Text.lower entry.1, Text.encode text⟩ :=
  of?_of_isFieldText (attribute_named listed).1 (attribute_named listed).2
    (portable.isFieldText_attribute listed given)

theorem of?_extension (extension : IsExtension member) (given : member.2.text? = some text) :
    HeaderField.of? ("CE-X-" ++ member.1) (Text.encode text) =
      some ⟨"ce-x-" ++ member.1, Text.encode text⟩ := by
  obtain ⟨token, filled, lowered⟩ := extension_named extension
  obtain ⟨told, same, fits⟩ := extension.text
  rw [same] at given
  cases given
  rw [of?_of_isFieldText token filled fits, lowered]

end Fields

section Binary
variable {e : Event} {request : Request} {others : Headers}

/-- A field under the name of an attribute tells that attribute. -/
theorem Binary.tells (binary : e.Binary request others) (portable : e.Portable)
    {entry : String × Option String} (listed : entry ∈ e.attributes) {field : HeaderField}
    (member : field ∈ request.headers) (named : field.name = Text.lower entry.1) :
    ∃ text, entry.2 = some text ∧ field = ⟨Text.lower entry.1, Text.encode text⟩ := by
  have known := lower_mem_attributeNames listed
  rcases List.mem_append.mp (binary.fields.mem_iff.mp member) with own | other
  · obtain ⟨told, toldListed, text, given, made⟩ := mem_fields.mp own
    rcases List.mem_append.mp toldListed with again | extension
    · rw [portable.of?_attribute again given] at made
      cases made
      cases eq_of_lower_eq again listed named
      exact ⟨text, given, rfl⟩
    · obtain ⟨found, foundListed, rfl⟩ := List.mem_map.mp extension
      rw [of?_extension (portable.extensions found foundListed) given] at made
      cases made
      have prefixed := after?_attributeName (named ▸ known)
      rw [Text.after?_append] at prefixed
      cases prefixed
  · exact absurd (named ▸ known) (binary.others field other).1

/-- Every attribute is read as it is, and one that is not there is not found. -/
theorem Binary.text?_eq (binary : e.Binary request others) (portable : e.Portable)
    (written : String) {name : String} {value : Option String}
    (listed : (written, value) ∈ e.attributes)
    (lowered : Text.lower written = name) : request.headers.text? name = value := by
  subst lowered
  cases value with
  | none =>
      refine Headers.text?_eq_none fun field member named => ?_
      obtain ⟨text, told, -⟩ := binary.tells portable listed member named
      cases told
  | some text =>
      refine Headers.text?_eq_some (portable.isFieldText_attribute listed rfl) ?_ ?_
      · refine binary.fields.mem_iff.mpr (List.mem_append_left _ (mem_fields.mpr ?_))
        exact ⟨_, List.mem_append_left _ listed, text, rfl, portable.of?_attribute listed rfl⟩
      · intro field member named
        obtain ⟨told, ⟨⟩, same⟩ := binary.tells portable listed member named
        exact same

def extension? (entry : String × String) : Option (String × Json) :=
  (Text.after? "ce-x-" entry.1).map fun key => (key, Json.string entry.2)

theorem extension?_attributes (portable : e.Portable) :
    (Headers.texts ((e.attributes).filterMap fun entry =>
      entry.2.bind fun text => HeaderField.of? entry.1 (Text.encode text))).filterMap
        extension? = [] := by
  rw [List.filterMap_eq_nil_iff]
  intro told listed
  obtain ⟨field, member, read⟩ := List.mem_filterMap.mp listed
  obtain ⟨text, -, rfl⟩ := Option.map_eq_some_iff.mp read
  obtain ⟨entry, known, made⟩ := List.mem_filterMap.mp member
  obtain ⟨given, same, made⟩ := Option.bind_eq_some_iff.mp made
  rw [portable.of?_attribute known same] at made
  cases made
  rw [extension?, after?_attributeName (lower_mem_attributeNames known)]
  rfl

theorem extension?_extensions {members : List (String × Json)}
    (extensions : ∀ member ∈ members, IsExtension member) :
    (Headers.texts ((members.map fun member => ("CE-X-" ++ member.1, member.2.text?)).filterMap
      fun entry => entry.2.bind fun text => HeaderField.of? entry.1 (Text.encode text))).filterMap
        extension? = members := by
  induction members with
  | nil => rfl
  | cons member rest ih =>
      obtain ⟨first, others⟩ := List.forall_mem_cons.mp extensions
      obtain ⟨text, same, fits⟩ := first.text
      have given : member.2.text? = some text := by rw [same]; rfl
      have told : extension? ("ce-x-" ++ member.1, text) = some member := by
        rw [extension?, Text.after?_append, Option.map_some, ← same]
      have tail := ih others
      simp only [Headers.texts] at tail ⊢
      simp only [List.map_cons, List.filterMap_cons, given, Option.bind_some,
        of?_extension first given, text?_of_isFieldText _ fits, Option.map_some, told, tail]

theorem Binary.extensionsOf_eq (binary : e.Binary request others) (portable : e.Portable) :
    extensionsOf request.headers = e.extensions.getD [] := by
  refine Keyed.ofList_eq_of_perm ?_ portable.ascending
  have perm : (request.headers.texts.filterMap extension?).Perm
      ((e.fields ++ others).texts.filterMap extension?) :=
    (binary.fields.filterMap _).filterMap _
  refine perm.trans (.of_eq ?_)
  have none : others.texts.filterMap extension? = [] := by
    rw [List.filterMap_eq_nil_iff]
    intro told listed
    obtain ⟨field, member, read⟩ := List.mem_filterMap.mp listed
    obtain ⟨text, -, rfl⟩ := Option.map_eq_some_iff.mp read
    have unlike := (binary.others field member).2
    rw [Text.beginsWith, Option.isSome_eq_false_iff, Option.isNone_iff_eq_none] at unlike
    rw [extension?, unlike]
    rfl
  have split : (e.fields ++ others).texts.filterMap extension? =
      e.fields.texts.filterMap extension? ++ others.texts.filterMap extension? := by
    rw [Headers.texts, List.filterMap_append, List.filterMap_append]
    rfl
  have own : e.fields.texts.filterMap extension? = e.extensions.getD [] := by
    have attributes := extension?_attributes portable
    have extensions := extension?_extensions portable.extensions
    rw [Event.fields, List.filterMap_append, Headers.texts, List.filterMap_append,
      List.filterMap_append]
    rw [Headers.texts] at attributes extensions
    rw [attributes, extensionTexts, extensions, List.nil_append]
  rw [split, own, none, List.append_nil]

/-- What is read from the fields of a request. -/
structure Told (e : Event) (headers : Headers) : Prop where
  contentType : headers.text? "content-type" = e.contentType
  type : headers.text? "ce-eventtype" = some e.type.name
  typeVersion : headers.text? "ce-eventtypeversion" = e.typeVersion
  cloudEventsVersion : headers.text? "ce-cloudeventsversion" = some e.cloudEventsVersion
  source : headers.text? "ce-source" = some e.source
  id : headers.text? "ce-eventid" = some e.id
  time : headers.text? "ce-eventtime" = e.time.map Rfc3339.text
  schemaUrl : headers.text? "ce-schemaurl" = e.schemaUrl
  extensions : extensionsOf headers = e.extensions.getD []

theorem Binary.told (binary : e.Binary request others) (portable : e.Portable) :
    e.Told request.headers where
  contentType := binary.text?_eq portable "Content-Type" (by simp [attributes]) (by cbv)
  type := binary.text?_eq portable "CE-EventType" (by simp [attributes]) (by cbv)
  typeVersion :=
    binary.text?_eq portable "CE-EventTypeVersion" (by simp [attributes]) (by cbv)
  cloudEventsVersion :=
    binary.text?_eq portable "CE-CloudEventsVersion" (by simp [attributes]) (by cbv)
  source := binary.text?_eq portable "CE-Source" (by simp [attributes]) (by cbv)
  id := binary.text?_eq portable "CE-EventID" (by simp [attributes]) (by cbv)
  time := binary.text?_eq portable "CE-EventTime" (by simp [attributes]) (by cbv)
  schemaUrl := binary.text?_eq portable "CE-SchemaURL" (by simp [attributes]) (by cbv)
  extensions := binary.extensionsOf_eq portable

end Binary

section Modes
variable {e : Event} {request : Request} {others : Headers} {stamp : Stamp}

theorem Portable.wellFormed (portable : e.Portable) : e.WellFormed where
  time time given := (portable.time time given).1
  extensions members given := by
    have ascending := portable.ascending
    have extensions := portable.extensions
    rw [Option.mem_def.mp given] at ascending extensions
    refine .object ascending fun member listed => ?_
    obtain ⟨text, same, -⟩ := (extensions member listed).text
    exact same ▸ .string text
  data := portable.data

theorem Portable.checked_eq (portable : e.Portable) (extensions : Option (List (String × Json))) :
    checked { e with extensions } = .ok { e with extensions } := by
  have complete : ({ e with extensions } : Event).missingFields = [] := by
    simp [missingFields, portable.type.1, portable.cloudEventsVersion.1, portable.source.1,
      portable.id.1]
  have valid : ({ e with extensions } : Event).validate = .ok () := by
    simp [validate, complete, portable.accepted]
  rw [checked, valid]

theorem mediaType_congr {headers : Headers} {raw : String} (others : Headers)
    (typed : headers.text? "content-type" = some raw)
    (same : others.text? "content-type" = some raw) : mediaType headers = mediaType others := by
  obtain ⟨field, found, read⟩ := Option.bind_eq_some_iff.mp typed
  obtain ⟨other, foundOther, readOther⟩ := Option.bind_eq_some_iff.mp same
  simp only [mediaType, found, foundOther, read, readOther]

/-- The event is read from the body and checked, whatever its attributes are. -/
theorem Structured.ofRequest_eq_checked (structured : e.Structured request)
    (wellFormed : e.WellFormed) (back : e.toJson.ReadsBack) :
    ofRequest stamp request = checked e := by
  have type : mediaType request.headers = .ok eventJsonType := by
    rw [mediaType_congr [⟨"content-type", Text.encode eventJsonType⟩] structured.typed
      (by cbv)]
    cbv
  have read : Json.readBytes record.read request.body = .ok e := by
    rw [structured.body, back.readBytes_eq, readValue_toJson wellFormed]
  simp only [ofRequest, type, bind, Except.bind, ↓reduceIte, ofStructured, read]

theorem Structured.ofRequest_eq (structured : e.Structured request) (portable : e.Portable)
    (back : e.toJson.ReadsBack) : ofRequest stamp request = .ok e := by
  rw [structured.ofRequest_eq_checked portable.wellFormed back]
  exact portable.checked_eq e.extensions

/-- Attributes that are not empty are enough to take the fields for those of an event. -/
theorem Told.isBinary {headers : Headers} (told : e.Told headers) (portable : e.Portable) :
    isBinary headers = true := by
  have filled (name text : String) (read : headers.text? name = some text)
      (fit : IsAttribute text) : headers.filled? name = some text := by
    rw [Headers.filled?, read, Option.filter_some, if_pos (by simp [fit.1])]
  simp [Event.isBinary, binaryFields, filled _ _ told.type portable.type,
    filled _ _ told.cloudEventsVersion portable.cloudEventsVersion,
    filled _ _ told.source portable.source, filled _ _ told.id portable.id]

theorem Told.time_eq {headers : Headers} (told : e.Told headers) (portable : e.Portable) :
    (headers.text? "ce-eventtime").bind Rfc3339.parse? = e.time := by
  rw [told.time]
  cases given : e.time with
  | none => rfl
  | some time =>
      obtain ⟨wellFormed, unsigned⟩ := portable.time time given
      rw [Option.map_some, Option.bind_some, Rfc3339.parse?_text wellFormed unsigned]

theorem Told.schemaUrl_eq {headers : Headers} (told : e.Told headers) (portable : e.Portable) :
    headers.filled? "ce-schemaurl" = e.schemaUrl := by
  rw [Headers.filled?, told.schemaUrl]
  cases given : e.schemaUrl with
  | none => rfl
  | some url => rw [Option.filter_some, if_pos (by simp [(portable.schemaUrl url given).1])]

theorem Binary.ofRequest_eq (binary : e.Binary request others) (portable : e.Portable)
    (back : e.data.ReadsBack) :
    ofRequest stamp request = .ok { e with extensions := some (e.extensions.getD []) } := by
  have told := binary.told portable
  have typed : request.headers.text? "content-type" = some jsonType :=
    told.contentType.trans portable.contentType
  have type : mediaType request.headers = .ok jsonType := by
    rw [mediaType_congr [⟨"content-type", Text.encode jsonType⟩] typed (by cbv)]
    cbv
  have other : jsonType ≠ eventJsonType := by decide
  have data : decodeBody jsonType request.body = .ok e.data := by
    have json : isJsonType jsonType = true := by decide
    have read : Json.parse (Text.encode e.data.compact) = .ok e.data := by
      rw [Json.parse, back.readBytes_eq]
      exact portable.data.toJson_ofJson
    simp only [decodeBody, binary.body, back.isEmpty_eq_false, json, read, Bool.false_eq_true,
      ↓reduceIte]
  simp only [ofRequest, type, bind, Except.bind, other, ↓reduceIte, told.isBinary portable,
    ofBinary, data, told.contentType, told.type, told.typeVersion, told.cloudEventsVersion,
    told.source, told.id, told.extensions, told.time_eq portable, told.schemaUrl_eq portable,
    Option.getD_some]
  exact portable.checked_eq _

/-- An event is read alike from both modes, except that extensions which are not there are read from
fields as none. In the body it stands as JSON, and in fields its attributes and extensions are told
in any order and among others, with the data as the body. Of the JSON text that is written no more
is taken for granted than that it is read as the value it was written for. -/
theorem ofRequest_structured_and_binary (portable : e.Portable) {structured binary : Request}
    (body : e.Structured structured) {others : Headers} (fields : e.Binary binary others)
    (written : e.toJson.ReadsBack) (data : e.data.ReadsBack) (first second : Stamp) :
    ofRequest first structured = .ok e ∧
      ofRequest second binary = .ok { e with extensions := some (e.extensions.getD []) } :=
  ⟨body.ofRequest_eq portable written, fields.ofRequest_eq portable data⟩

end Modes

/-- An event with a time, a schema and an extension. -/
def exampleEvent : Event where
  type := ⟨"user.created"⟩
  typeVersion := none
  cloudEventsVersion := "0.1"
  source := "/crm"
  id := "7"
  time := some ⟨1522949460, 250000000⟩
  schemaUrl := some "https://example.com/user"
  extensions := some [("region", .string "eu west")]
  contentType := some jsonType
  data := .object [("id", .number (.integer 10)), ("tags", .array [.string "a", .string "b"])]

def exampleStructured : Request where
  method := "POST"
  uri := ⟨none, none, "/", none⟩
  headers := [⟨"content-type", Text.encode eventJsonType⟩]
  body := Text.encode exampleEvent.toJson.compact

def exampleBinary : Request where
  method := "POST"
  uri := ⟨none, none, "/", none⟩
  headers := [⟨"ce-x-region", Text.encode "eu west"⟩, ⟨"host", Text.encode "localhost:4000"⟩,
    ⟨"ce-eventid", Text.encode "7"⟩, ⟨"ce-source", Text.encode "/crm"⟩,
    ⟨"ce-cloudeventsversion", Text.encode "0.1"⟩, ⟨"ce-eventtype", Text.encode "user.created"⟩,
    ⟨"ce-eventtime", Text.encode "2018-04-05T17:31:00.250Z"⟩,
    ⟨"ce-schemaurl", Text.encode "https://example.com/user"⟩,
    ⟨"content-type", Text.encode "application/json"⟩]
  body := Text.encode "\x7b\"id\":10,\"tags\":[\"a\",\"b\"]\x7d"

theorem exampleEvent_portable : exampleEvent.Portable where
  type := ⟨by decide, rfl⟩
  typeVersion := nofun
  cloudEventsVersion := ⟨by decide, rfl⟩
  source := ⟨by decide, rfl⟩
  accepted := by decide +kernel
  id := ⟨by decide, rfl⟩
  time := by
    rintro time ⟨⟩
    refine ⟨⟨?_, ?_, ?_, ?_⟩, ?_, ?_⟩
    all_goals decide
  schemaUrl := by
    rintro url ⟨⟩
    exact ⟨by decide, rfl⟩
  ascending := List.pairwise_singleton _ _
  extensions := by
    intro member listed
    rw [List.mem_singleton.mp listed]
    exact ⟨rfl, by cbv, "eu west", rfl, rfl⟩
  contentType := rfl
  data := by
    refine .object (by unfold Keyed.Ascending; decide) fun member listed => ?_
    simp only [List.mem_cons, List.not_mem_nil, or_false] at listed
    rcases listed with rfl | rfl
    · exact .number _
    · exact Json.canonical_strings ["a", "b"]

set_option maxRecDepth 20000 in
/-- Both requests carry the event, though one has its fields in another order and one more. -/
theorem exampleEvent_is_read_alike :
    ofRequest default exampleStructured = .ok exampleEvent ∧
      ofRequest default exampleBinary = .ok exampleEvent := by
  have binary : exampleEvent.Binary exampleBinary [⟨"host", Text.encode "localhost:4000"⟩] :=
    ⟨by decide +kernel, by decide +kernel, by decide +kernel⟩
  exact ofRequest_structured_and_binary exampleEvent_portable ⟨by decide +kernel, rfl⟩ binary
    rfl rfl _ _

end Event
end EventRelay
