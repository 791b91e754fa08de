import EventRelay.Event.OfRequest
import EventRelay.Proofs.Json.Parts

set_option autoImplicit false

/-!
Data that looks like something else. The body of a request that names its event may be taken for an
envelope around the data, or for an event of its own; what is then carried is never the body itself.
-/
namespace EventRelay.Event

section Reading
variable {value : Json}

/-- A field that is left out, or stands for a part of what is read. -/
def Taken (value field : Json) : Prop := field = .null ∨ field ∈ value.parts

theorem Taken.of_value (canonical : value.Canonical) {part found : Json}
    (member : part ∈ value.parts)
    (read : Json.Reader.value (Json.Document.ofJson part) = .ok found) : Taken value found := by
  have same : Json.Reader.value (Json.Document.ofJson part) = .ok part :=
    (canonical.of_mem_parts member).toJson_ofJson
  rw [same] at read
  cases read
  exact Or.inr member

theorem Taken.ne {field : Json} (taken : Taken value field) (filled : value ≠ .null) :
    field ≠ value := by
  rcases taken with rfl | member
  · exact filled.symm
  · exact Json.ne_of_mem_parts member

theorem taken_of_envelope (canonical : value.Canonical) {envelope : Envelope}
    (read : Json.readValue Envelope.record.read value = .ok envelope) :
    Taken value envelope.data := by
  refine Json.Record.readValue_keeps (P := fun found => Taken value found.data) (Or.inl rfl) ?_ read
  intro name part member state after holds taken
  simp only [Envelope.record] at taken
  split at taken
  · obtain ⟨_, -, made⟩ := (bind_eq_ok_iff ..).mp taken
    cases made
    exact holds
  · obtain ⟨_, found, made⟩ := (bind_eq_ok_iff ..).mp taken
    cases made
    exact .of_value canonical member found

theorem taken_of_event (canonical : value.Canonical) {e : Event}
    (read : Json.readValue record.read value = .ok e) : Taken value e.data := by
  refine Json.Record.readValue_keeps (P := fun found => Taken value found.data) (Or.inl rfl) ?_ read
  intro name part member state after holds taken
  -- every member but the last leaves the data as it is
  simp only [record] at taken
  split at taken
  all_goals
    obtain ⟨_, found, made⟩ := (bind_eq_ok_iff ..).mp taken
    cases made
    first
      | exact holds
      | exact .of_value canonical member found

theorem ne_of_envelopeData? (canonical : value.Canonical) {type : EventType} {inner : Json}
    (named : envelopeData? type value = some inner) : inner ≠ value := by
  unfold envelopeData? at named
  split at named
  · rename_i envelope read
    split at named
    · cases named
      exact (taken_of_envelope canonical read).ne (Json.Record.ne_null_of_readValue read)
    · cases named
  · cases named

theorem data_ne_of_validOfJson? (canonical : value.Canonical) {e : Event}
    (described : validOfJson? value = some e) : e.data ≠ value := by
  obtain ⟨read, found, checks⟩ := Option.bind_eq_some_iff.mp described
  have same : read = e := by
    unfold checked at checks
    split at checks
    · cases checks
      rfl
    · cases checks
  subst same
  have reads : Json.readValue record.read value = .ok read := by
    unfold ofJson? at found
    cases outcome : Json.readValue record.read value with
    | error fault =>
        rw [outcome] at found
        cases found
    | ok e =>
        rw [outcome] at found
        cases found
        rfl
  exact (taken_of_event canonical reads).ne (Json.Record.ne_null_of_readValue reads)

end Reading

/-- Whether data is taken for what it is where an event is named: it neither reads as an envelope of
the event nor describes a valid event. -/
def Plain (type : EventType) (data : Json) : Prop :=
  envelopeData? type data = none ∧ validOfJson? data = none

/-- The event that a JSON body stands for where an event is named. -/
def guessed (stamp : Stamp) (type : EventType) (value : Json) : Event :=
  match envelopeData? type value with
  | some inner => make stamp type jsonType inner
  | none => (validOfJson? value).getD (make stamp type jsonType value)

section Guessing
variable {stamp : Stamp} {type : EventType} {value : Json} {body : Bytes}

theorem ofNamed_eq_guessed (reads : Json.parse body = .ok value) :
    ofNamed stamp type jsonType body = .ok (guessed stamp type value) := by
  have filled : body.isEmpty = false := by
    cases body with
    | nil => cases reads
    | cons byte rest => rfl
  have decoded : decodeBody jsonType body = .ok value := by
    have json : isJsonType jsonType = true := by decide
    simp only [decodeBody, filled, json, reads, Bool.false_eq_true, ↓reduceIte]
  simp only [ofNamed, decoded, bind, Except.bind, guessed]
  cases envelopeData? type value with
  | some inner => rfl
  | none => cases validOfJson? value <;> rfl

theorem guessed_of_plain (plain : Plain type value) :
    guessed stamp type value = make stamp type jsonType value := by
  rw [guessed, plain.1, plain.2]
  rfl

/-- The data of the event is the body exactly where the body is taken for what it is. -/
theorem data_guessed_eq_iff (canonical : value.Canonical) :
    (guessed stamp type value).data = value ↔ Plain type value := by
  constructor
  · intro same
    unfold guessed at same
    cases named : envelopeData? type value with
    | some inner =>
        rw [named] at same
        exact absurd same (ne_of_envelopeData? canonical named)
    | none =>
        cases described : validOfJson? value with
        | some e =>
            rw [named, described] at same
            exact absurd same (data_ne_of_validOfJson? canonical described)
        | none => exact ⟨named, described⟩
  · intro plain
    rw [guessed_of_plain plain]
    rfl

end Guessing
end EventRelay.Event
