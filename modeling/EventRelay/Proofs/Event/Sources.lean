import EventRelay.EventsApi
import EventRelay.Proofs.Event.Codec

set_option autoImplicit false

/-!
All sources of events: JSON that is read, requests, routes that capture parts of a path, and the
gateway itself, which tells of events in events of its own. None gives an event that is not read
again from what is written for it.
-/
namespace EventRelay

open Json (Document Reader Canonical)

namespace RequestData

/-- All maps ascend, and the body is in its one form. -/
structure WellFormed (d : RequestData) : Prop where
  headers : Keyed.Ascending d.headers
  query : Keyed.Ascending d.query
  params : Keyed.Ascending d.params
  body : d.body.Canonical

section
variable {d : RequestData}

theorem canonical_toJson (wellFormed : d.WellFormed) : d.toJson.Canonical := by
  have texts (entries : List (String × String)) (ascending : Keyed.Ascending entries) :
      (Json.ofTexts entries).Canonical := Json.canonical_mapValues ascending .string
  refine Json.canonical_ofMembers fun member listed => ?_
  simp only [List.mem_cons, List.not_mem_nil, or_false] at listed
  rcases listed with rfl | rfl | rfl | rfl | rfl | rfl | rfl
  · exact texts _ wellFormed.headers
  · exact Json.canonical_mapValues wellFormed.query Json.canonical_strings
  · exact wellFormed.body
  · exact .string _
  · exact .string _
  · exact .string _
  · exact texts _ wellFormed.params

theorem WellFormed.take {document : Document} {name : String} {after : RequestData}
    (wellFormed : d.WellFormed) (taken : record.take name document d = .ok after) :
    after.WellFormed := by
  obtain ⟨headers, query, params, body⟩ := wellFormed
  simp only [record] at taken
  split at taken
  all_goals
    obtain ⟨field, read, same⟩ := (bind_eq_ok_iff ..).mp taken
    cases same
  · exact ⟨Reader.ascending_of_map read, query, params, body⟩
  · exact ⟨headers, Reader.ascending_of_map read, params, body⟩
  · exact ⟨headers, query, params, Document.canonical_of_toJson read⟩
  · exact ⟨headers, query, params, body⟩
  · exact ⟨headers, query, params, body⟩
  · exact ⟨headers, query, params, body⟩
  · exact ⟨headers, query, Reader.ascending_of_map read, body⟩

theorem wellFormed_of_ofJson? {value : Json} (described : ofJson? value = some d) :
    d.WellFormed := by
  have read := (toOption_eq_some_iff ..).mp described
  refine Json.Record.read_keeps ?_ (fun _ _ _ _ _ kept taken => kept.take taken) read
  exact ⟨.nil, .nil, .nil, .null⟩

end
end RequestData

theorem Headers.ascending_joinedTexts (headers : Headers) :
    Keyed.Ascending headers.joinedTexts := by
  refine List.foldlRecOn _ _ Keyed.ascending_nil fun found ascending entry _ => ?_
  split
  · exact ascending.insert _ _
  · exact ascending.insert _ _

theorem Form.ascending_values (query : String) : Keyed.Ascending (values query) :=
  List.foldlRecOn _ _ Keyed.ascending_nil fun _ ascending _ _ => ascending.insert _ _

theorem Route.Tree.ascending_follow {α : Type} {path : List String} {tree : Tree α}
    {params captured : Params} {target : α} (ascending : Keyed.Ascending params)
    (found : follow path tree params = some (target, captured)) : Keyed.Ascending captured := by
  induction path generalizing tree params with
  | nil =>
      obtain ⟨value, -, same⟩ := Option.map_eq_some_iff.mp found
      cases same
      exact ascending
  | cons segment rest ih =>
      cases tree with
      | branch value children =>
          obtain ⟨child, -, below⟩ := Option.bind_eq_some_iff.mp found
          exact ih ascending below
      | param value name child => exact ih (ascending.insert _ _) found
      | wildcard value name target =>
          cases found
          exact ascending.insert _ _

theorem RoutingTable.ascending_of_syncTarget {routes : RoutingTable} {space method path : String}
    {type : EventType} {target : SyncTarget} {params : Route.Params}
    (found : routes.syncTarget space method path type = some (target, params)) :
    Keyed.Ascending params := by
  obtain ⟨tree, -, resolved⟩ := Option.bind_eq_some_iff.mp found
  exact Route.Tree.ascending_follow Keyed.ascending_nil resolved

namespace Event

section Made
variable {stamp : Stamp} {type : EventType} {contentType : String} {data : Json} {e : Event}

theorem canonical_gatewayMark : Canonical (.object gatewayMark) := by
  refine .object (List.pairwise_singleton _ _) fun member listed => ?_
  rw [List.mem_singleton.mp listed]
  refine Json.canonical_ofMembers fun member listed => ?_
  simp only [List.mem_cons, List.not_mem_nil, or_false] at listed
  rcases listed with rfl | rfl
  · exact .bool true
  · exact .string version

theorem wellFormed_make (stamped : stamp.time.WellFormed) (canonical : data.Canonical) :
    (make stamp type contentType data).WellFormed where
  time := by
    rintro time ⟨⟩
    exact stamped
  extensions := by
    rintro members ⟨⟩
    exact canonical_gatewayMark
  data := canonical

theorem canonical_activity (wellFormed : e.WellFormed) (space : String) (id : FunctionId)
    {member : String × Json} (listed : member ∈ activity space id e) : member.2.Canonical := by
  simp only [activity, List.mem_cons, List.not_mem_nil, or_false] at listed
  rcases listed with rfl | rfl | rfl
  · exact .string space
  · exact .string id.text
  · exact canonical_toJson wellFormed

theorem canonical_resultJson (result : Bytes) : (resultJson result).Canonical := by
  unfold resultJson
  split
  · rename_i value read
    exact Json.canonical_of_parse read
  · exact .string _

theorem wellFormed_received (stamped : stamp.time.WellFormed) (wellFormed : e.WellFormed)
    (path : String) (headers : Headers) :
    (received stamp path e headers.joinedTexts).WellFormed := by
  refine wellFormed_make stamped (Json.canonical_ofMembers fun member listed => ?_)
  simp only [List.mem_cons, List.not_mem_nil, or_false] at listed
  rcases listed with rfl | rfl | rfl
  · exact .string path
  · exact canonical_toJson wellFormed
  · exact Json.canonical_mapValues headers.ascending_joinedTexts .string

theorem wellFormed_invoking (stamped : stamp.time.WellFormed) (wellFormed : e.WellFormed)
    (space : String) (id : FunctionId) : (invoking stamp space id e).WellFormed :=
  wellFormed_make stamped (Json.canonical_ofMembers fun _ listed =>
    canonical_activity wellFormed space id listed)

theorem wellFormed_invoked (stamped : stamp.time.WellFormed) (wellFormed : e.WellFormed)
    (space : String) (id : FunctionId) (result : Bytes) :
    (invoked stamp space id e result).WellFormed := by
  refine wellFormed_make stamped (Json.canonical_ofMembers fun member listed => ?_)
  rcases List.mem_append.mp listed with told | last
  · exact canonical_activity wellFormed space id told
  · rw [List.mem_singleton.mp last]
    exact canonical_resultJson result

theorem wellFormed_invocationFailed (stamped : stamp.time.WellFormed) (wellFormed : e.WellFormed)
    (space : String) (id : FunctionId) (message : String) :
    (invocationFailed stamp space id e message).WellFormed := by
  refine wellFormed_make stamped (Json.canonical_ofMembers fun member listed => ?_)
  rcases List.mem_append.mp listed with told | last
  · exact canonical_activity wellFormed space id told
  · rw [List.mem_singleton.mp last]
    exact .string message

end Made

section Carried
variable {stamp : Stamp} {request : Request} {mime : String} {body : Bytes} {data : Json}
  {e : Event}

theorem canonical_of_decodeBody (decoded : decodeBody mime body = .ok data) : data.Canonical := by
  unfold decodeBody at decoded
  split at decoded
  · cases decoded
    exact .null
  · split at decoded
    · split at decoded
      · rename_i value read
        cases decoded
        exact Json.canonical_of_parse read
      · cases decoded
    · split at decoded
      · cases decoded
        exact .string _
      · split at decoded
        · cases decoded
          exact .string _
        · cases decoded
          exact .string _

theorem eq_of_checked {read : Event} (ok : checked read = .ok e) : read = e := by
  unfold checked at ok
  split at ok
  · cases ok
    rfl
  · cases ok

theorem wellFormed_of_readBytes (read : Json.readBytes record.read body = .ok e) :
    e.WellFormed := by
  unfold Json.readBytes at read
  generalize Document.ofBytes body = whole at read
  obtain ⟨document, ended⟩ := whole
  obtain ⟨found, described, rest⟩ := (bind_eq_ok_iff ..).mp read
  cases ended with
  | false => cases rest
  | true =>
      cases rest
      exact wellFormed_of_read described

theorem wellFormed_of_ofStructured (ok : ofStructured body = .ok e) : e.WellFormed := by
  unfold ofStructured at ok
  split at ok
  · rename_i found read
    exact eq_of_checked ok ▸ wellFormed_of_readBytes read
  · cases ok

theorem canonical_extensionsOf (headers : Headers) :
    Canonical (.object (extensionsOf headers)) := by
  refine Json.canonical_ofMembers fun member listed => ?_
  obtain ⟨entry, -, named⟩ := List.mem_filterMap.mp listed
  obtain ⟨key, -, same⟩ := Option.map_eq_some_iff.mp named
  exact same ▸ .string entry.2

theorem wellFormed_of_ofBinary {headers : Headers} (ok : ofBinary headers mime body = .ok e) :
    e.WellFormed := by
  obtain ⟨data, decoded, accepted⟩ := (bind_eq_ok_iff ..).mp ok
  rw [← eq_of_checked accepted]
  refine ⟨fun time given => ?_, ?_, canonical_of_decodeBody decoded⟩
  · obtain ⟨text, -, read⟩ := Option.bind_eq_some_iff.mp given
    exact Rfc3339.wellFormed_of_parse? read
  · rintro members ⟨⟩
    exact canonical_extensionsOf headers

theorem wellFormed_of_ofJson? {value : Json} (described : ofJson? value = some e) :
    e.WellFormed :=
  wellFormed_of_read ((toOption_eq_some_iff ..).mp described)

theorem canonical_of_envelopeData? {type : EventType} {value : Json}
    (named : envelopeData? type value = some data) : data.Canonical := by
  unfold envelopeData? at named
  split at named
  · rename_i envelope read
    split at named
    · cases named
      refine Json.Record.read_keeps (P := fun envelope => envelope.data.Canonical) .null ?_ read
      intro name document _ state after canonical taken
      simp only [Envelope.record] at taken
      split at taken
      all_goals
        obtain ⟨field, found, same⟩ := (bind_eq_ok_iff ..).mp taken
        cases same
      · exact canonical
      · exact Document.canonical_of_toJson found
    · cases named
  · cases named

theorem wellFormed_of_validOfJson? {value : Json} (described : validOfJson? value = some e) :
    e.WellFormed := by
  obtain ⟨found, read, accepted⟩ := Option.bind_eq_some_iff.mp described
  have same := eq_of_checked ((toOption_eq_some_iff ..).mp accepted)
  exact same ▸ wellFormed_of_ofJson? read

/-- An event of a named type is made of data in its one form, or was described by the body. -/
theorem eq_make_or_wellFormed_of_ofNamed {type : EventType}
    (ok : ofNamed stamp type mime body = .ok e) :
    (∃ data : Json, data.Canonical ∧ e = make stamp type mime data) ∨ e.WellFormed := by
  obtain ⟨data, decoded, made⟩ := (bind_eq_ok_iff ..).mp ok
  have canonical := canonical_of_decodeBody decoded
  split at made
  · cases made
    exact Or.inl ⟨data, canonical, rfl⟩
  · split at made
    · rename_i inner named
      cases made
      exact Or.inl ⟨inner, canonical_of_envelopeData? named, rfl⟩
    · split at made
      · rename_i found described
        cases made
        exact Or.inr (wellFormed_of_validOfJson? described)
      · cases made
        exact Or.inl ⟨data, canonical, rfl⟩

theorem wellFormed_requestData {body : Json} (canonical : body.Canonical) :
    (requestData request body).WellFormed where
  headers := Keyed.ascending_ofList _
  query := by
    unfold requestData
    cases request.uri.query with
    | none => exact Keyed.ascending_nil
    | some query => exact Form.ascending_values query
  params := Keyed.ascending_nil
  body := canonical

/-- An event that a request carries is made of data in its one form, or was described by it. -/
theorem eq_make_or_wellFormed_of_ofRequest (ok : ofRequest stamp request = .ok e) :
    (∃ type contentType, ∃ data : Json, data.Canonical ∧ e = make stamp type contentType data) ∨
      e.WellFormed := by
  obtain ⟨mime, -, carried⟩ := (bind_eq_ok_iff ..).mp ok
  split at carried
  · exact Or.inr (wellFormed_of_ofStructured carried)
  · split at carried
    · exact Or.inr (wellFormed_of_ofBinary carried)
    · split at carried
      · rename_i name _
        exact (eq_make_or_wellFormed_of_ofNamed carried).imp_left fun made => ⟨⟨name⟩, mime, made⟩
      · obtain ⟨body, decoded, made⟩ := (bind_eq_ok_iff ..).mp carried
        cases made
        have told : (requestData request body).WellFormed :=
          wellFormed_requestData (canonical_of_decodeBody decoded)
        exact Or.inl ⟨_, _, _, RequestData.canonical_toJson told, rfl⟩

theorem wellFormed_of_ofRequest (stamped : stamp.time.WellFormed)
    (ok : ofRequest stamp request = .ok e) : e.WellFormed := by
  rcases eq_make_or_wellFormed_of_ofRequest ok with ⟨type, contentType, data, canonical, rfl⟩ | read
  · exact wellFormed_make stamped canonical
  · exact read

/-- What a route captures is put into well-formed data. -/
theorem wellFormed_withParams (wellFormed : e.WellFormed) {params : Route.Params}
    (ascending : Keyed.Ascending params) : (EventsApi.withParams e params).WellFormed := by
  unfold EventsApi.withParams
  split
  · rename_i data described
    have found : data.WellFormed := by
      unfold httpRequest? at described
      split at described
      · exact RequestData.wellFormed_of_ofJson? described
      · cases described
    refine ⟨wellFormed.time, wellFormed.extensions, RequestData.canonical_toJson ?_⟩
    exact ⟨found.headers, found.query, ascending, found.body⟩
  · exact wellFormed

end Carried

/-- Where events come from. New ones are stamped with a time that clocks show. -/
inductive Arises : Event → Prop
  /-- An event is read from a value or from a text. -/
  | described {document : Document} {e : Event} (read : record.read document = .ok e) : Arises e
  /-- A request carries an event. -/
  | carried {stamp : Stamp} {request : Request} {e : Event} (stamped : stamp.time.WellFormed)
      (ok : ofRequest stamp request = .ok e) : Arises e
  /-- A plain request gets what its route captures. -/
  | routed {routes : RoutingTable} {space method path : String} {type : EventType}
      {target : SyncTarget} {params : Route.Params} {e : Event} (arises : Arises e)
      (found : routes.syncTarget space method path type = some (target, params)) :
      Arises (EventsApi.withParams e params)
  | made {stamp : Stamp} {data : Json} (stamped : stamp.time.WellFormed)
      (canonical : data.Canonical) (type : EventType) (contentType : String) :
      Arises (make stamp type contentType data)
  | received {stamp : Stamp} {e : Event} (stamped : stamp.time.WellFormed) (arises : Arises e)
      (path : String) (headers : Headers) : Arises (received stamp path e headers.joinedTexts)
  | invoking {stamp : Stamp} {e : Event} (stamped : stamp.time.WellFormed) (arises : Arises e)
      (space : String) (id : FunctionId) : Arises (invoking stamp space id e)
  | invoked {stamp : Stamp} {e : Event} (stamped : stamp.time.WellFormed) (arises : Arises e)
      (space : String) (id : FunctionId) (result : Bytes) :
      Arises (invoked stamp space id e result)
  | invocationFailed {stamp : Stamp} {e : Event} (stamped : stamp.time.WellFormed)
      (arises : Arises e) (space : String) (id : FunctionId) (message : String) :
      Arises (invocationFailed stamp space id e message)

section All
variable {e : Event}

theorem Arises.wellFormed (arises : e.Arises) : e.WellFormed := by
  induction arises with
  | described read => exact wellFormed_of_read read
  | carried stamped ok => exact wellFormed_of_ofRequest stamped ok
  | routed _ found wellFormed =>
      exact wellFormed_withParams wellFormed (RoutingTable.ascending_of_syncTarget found)
  | made stamped canonical => exact wellFormed_make stamped canonical
  | received stamped _ path headers wellFormed =>
      exact wellFormed_received stamped wellFormed path headers
  | invoking stamped _ space id wellFormed => exact wellFormed_invoking stamped wellFormed space id
  | invoked stamped _ space id result wellFormed =>
      exact wellFormed_invoked stamped wellFormed space id result
  | invocationFailed stamped _ space id message wellFormed =>
      exact wellFormed_invocationFailed stamped wellFormed space id message

/-- Every event, wherever it comes from, is the one that is read from what is written for it: with
the same time, though it was read with another offset, in a leap second or in a year of five digits,
and with all that was left out still left out. -/
theorem ofJson?_toJson (arises : e.Arises) : ofJson? e.toJson = some e :=
  (toOption_eq_some_iff ..).mpr (readValue_toJson arises.wellFormed)

end All

/-- An event in the leap second that ends the year 9999 by a clock which is a minute behind. -/
def exampleDescription : Json :=
  .object [("data", .array [.null, .number (.integer (-7))]),
    ("eventTime", .string "9999-12-31T23:59:60.25-00:01"), ("eventType", .string "user.created"),
    ("extensions", .object [("trace", .string "a1")])]

/-- Its time is written in UTC, in the year 10000. -/
theorem exampleDescription_reads_back : ∃ e, ofJson? exampleDescription = some e ∧
    e.time = some ⟨253402300859, 1250000000⟩ ∧
    e.toJson.get? "eventTime" = some (.string "+10000-01-01T00:00:60.250Z") ∧
    ofJson? e.toJson = some e := by
  have shown : (ofJson? exampleDescription).map (fun e => (e.time, e.toJson.get? "eventTime")) =
      some (some ⟨253402300859, 1250000000⟩, some (.string "+10000-01-01T00:00:60.250Z")) := by
    decide +kernel
  obtain ⟨e, described, same⟩ := Option.map_eq_some_iff.mp shown
  obtain ⟨time, written⟩ := Prod.mk.inj same
  have read := (toOption_eq_some_iff ..).mp described
  exact ⟨e, described, time, written, ofJson?_toJson (.described read)⟩

end Event
end EventRelay
