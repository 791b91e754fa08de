import EventRelay.Event.OfRequest
import EventRelay.Proofs.Url.Ascii

set_option autoImplicit false

/-!
Which of the events that requests carry are valid. One that is read from a request has been checked;
one that is made for it is valid unless the request names its type, by nothing.
-/
namespace EventRelay.Event

section Making
variable {stamp : Stamp} {type : EventType} {contentType : String} {data : Json}

theorem isSource_gatewaySource : isSource gatewaySource = true := by
  have mapped : Url.Domain.mapped? "serverless.com".toList = some "serverless.com".toList := by
    decide +kernel
  have host := Url.specialHost_of_plain "serverless.com".toList (by decide +kernel)
    (by decide +kernel) mapped (by decide +kernel) (by decide +kernel) (by decide +kernel)
  have cut : Url.scheme? (Url.counted gatewaySource) =
      some ("https", "//serverless.com/event-gateway/#transformationVersion=0.1".toList) := by
    decide +kernel
  have url : Url.isUrl gatewaySource = true := by
    refine Url.isUrl_of_host cut (by decide) (by decide) ?_ ?_ ?_ ?_ host
    all_goals decide +kernel
  rw [isSource, url, Bool.true_or]

theorem missingFields_make (fresh : stamp.id ≠ "") :
    (make stamp type contentType data).missingFields =
      if type.name = "" then ["eventType"] else [] := by
  by_cases unnamed : type.name = ""
  · simp [missingFields, make, version, gatewaySource, unnamed, fresh]
  · simp [missingFields, make, version, gatewaySource, unnamed, fresh]

theorem validate_make (fresh : stamp.id ≠ "") :
    (make stamp type contentType data).validate =
      if type.name = "" then .error (.missing ["eventType"]) else .ok () := by
  have source : (make stamp type contentType data).source = gatewaySource := rfl
  rw [validate, missingFields_make fresh, source]
  by_cases unnamed : type.name = ""
  · simp [unnamed]
  · simp [unnamed, isSource_gatewaySource]

end Making

section Reading
variable {stamp : Stamp} {type : EventType} {mime : String} {body : Bytes} {request : Request}
  {e : Event}

theorem validate_of_checked {read : Event} (ok : checked read = .ok e) : e.validate = .ok () := by
  unfold checked at ok
  split at ok
  · next valid =>
      cases ok
      exact valid
  · cases ok

theorem validate_of_ofStructured (ok : ofStructured body = .ok e) : e.validate = .ok () := by
  unfold ofStructured at ok
  split at ok
  · exact validate_of_checked ok
  · cases ok

theorem validate_of_ofBinary {headers : Headers} (ok : ofBinary headers mime body = .ok e) :
    e.validate = .ok () := by
  unfold ofBinary at ok
  obtain ⟨data, -, checks⟩ := (bind_eq_ok_iff ..).mp ok
  exact validate_of_checked checks

theorem validate_of_validOfJson? {value : Json} (described : validOfJson? value = some e) :
    e.validate = .ok () := by
  obtain ⟨read, -, checks⟩ := Option.bind_eq_some_iff.mp described
  cases outcome : checked read with
  | error cause =>
      rw [outcome] at checks
      cases checks
  | ok found =>
      rw [outcome] at checks
      cases checks
      exact validate_of_checked outcome

theorem eq_make_of_ofNamed (ok : ofNamed stamp type mime body = .ok e) :
    e.validate = .ok () ∨ ∃ data, e = make stamp type mime data := by
  unfold ofNamed at ok
  obtain ⟨data, -, made⟩ := (bind_eq_ok_iff ..).mp ok
  -- The guesses in their order: raw, envelope, an event, and raw again.
  split at made
  · cases made
    exact Or.inr ⟨_, rfl⟩
  · split at made
    · cases made
      exact Or.inr ⟨_, rfl⟩
    · split at made
      · next described =>
          cases made
          exact Or.inl (validate_of_validOfJson? described)
      · cases made
        exact Or.inr ⟨_, rfl⟩

theorem eq_make_of_ofPlain (ok : ofPlain stamp request mime = .ok e) :
    ∃ contentType data, e = make stamp .httpRequest contentType data := by
  unfold ofPlain at ok
  obtain ⟨body, -, made⟩ := (bind_eq_ok_iff ..).mp ok
  cases made
  exact ⟨_, _, rfl⟩

theorem eq_make_of_ofRequest (fresh : stamp.id ≠ "") (ok : ofRequest stamp request = .ok e) :
    e.validate = .ok () ∨
      ∃ mime name data, mediaType request.headers = .ok mime ∧ mime ≠ eventJsonType ∧
        isBinary request.headers = false ∧ request.headers.text? "event" = some name ∧
        e = make stamp ⟨name⟩ mime data := by
  unfold ofRequest at ok
  obtain ⟨mime, typed, carried⟩ := (bind_eq_ok_iff ..).mp ok
  by_cases structured : mime = eventJsonType
  · rw [if_pos structured] at carried
    exact Or.inl (validate_of_ofStructured carried)
  · rw [if_neg structured] at carried
    by_cases binary : isBinary request.headers
    · rw [if_pos binary] at carried
      exact Or.inl (validate_of_ofBinary carried)
    · rw [if_neg binary] at carried
      cases named : request.headers.text? "event" with
      | some name =>
          rw [named] at carried
          rcases eq_make_of_ofNamed carried with valid | ⟨data, made⟩
          · exact Or.inl valid
          · exact Or.inr ⟨mime, name, data, typed, structured, by simpa using binary, rfl, made⟩
      | none =>
          rw [named] at carried
          obtain ⟨contentType, data, rfl⟩ := eq_make_of_ofPlain carried
          refine Or.inl ?_
          rw [validate_make fresh, if_neg (by decide)]

end Reading

/-- The event of a request is valid exactly if its type has a name. One without is made of a header
field `Event` that is there and empty, and lacks nothing but the type. -/
theorem validate_eq_ok_iff_named {stamp : Stamp} (fresh : stamp.id ≠ "") {request : Request}
    {e : Event} (ok : ofRequest stamp request = .ok e) :
    (e.validate = .ok () ↔ e.type.name ≠ "") ∧
    (e.type.name = "" → e.validate = .error (.missing ["eventType"]) ∧
      ∃ mime data, mediaType request.headers = .ok mime ∧ mime ≠ eventJsonType ∧
        isBinary request.headers = false ∧ request.headers.text? "event" = some "" ∧
        e = make stamp ⟨""⟩ mime data) := by
  rcases eq_make_of_ofRequest fresh ok with
    valid | ⟨mime, name, data, typed, plain, binary, named, rfl⟩
  · have filled : e.type.name ≠ "" := by
      intro unnamed
      rw [validate] at valid
      simp [missingFields, unnamed] at valid
    exact ⟨iff_of_true valid filled, fun unnamed => absurd unnamed filled⟩
  · rw [validate_make fresh]
    by_cases unnamed : name = ""
    · subst unnamed
      exact ⟨by simp [make], fun _ => ⟨rfl, mime, data, typed, plain, binary, named, rfl⟩⟩
    · refine ⟨?_, fun empty => absurd empty unnamed⟩
      rw [if_neg unnamed]
      exact iff_of_true rfl unnamed

def exampleStamp : Stamp := ⟨"00000000-0000-4000-8000-000000000000", default⟩

/-- A request with the given text in its field `Event`, and nothing else. -/
def exampleNaming (name : String) : Request :=
  ⟨"POST", ⟨none, none, "/", none⟩, [⟨"event", Text.encode name⟩], []⟩

theorem exampleNaming_validity :
    (make exampleStamp ⟨"user.created"⟩ octetType .null).validate = .ok () ∧
    (make exampleStamp ⟨""⟩ octetType .null).validate = .error (.missing ["eventType"]) := by
  have named : ofRequest exampleStamp (exampleNaming "user.created") =
      .ok (make exampleStamp ⟨"user.created"⟩ octetType .null) := by rfl
  have unnamed : ofRequest exampleStamp (exampleNaming "") =
      .ok (make exampleStamp ⟨""⟩ octetType .null) := by rfl
  obtain ⟨valid, -⟩ := validate_eq_ok_iff_named (by decide) named
  obtain ⟨-, invalid⟩ := validate_eq_ok_iff_named (by decide) unnamed
  exact ⟨valid.mpr (by decide), (invalid rfl).1⟩

/-- A request that names its type by nothing is accepted with an event that is not valid. -/
theorem unnamed_event_is_accepted :
    ∃ e, ofRequest exampleStamp (exampleNaming "") = .ok e ∧ e.validate ≠ .ok () := by
  refine ⟨make exampleStamp ⟨""⟩ octetType .null, rfl, ?_⟩
  rw [validate_make (by decide), if_pos rfl]
  simp

end EventRelay.Event
