import EventRelay.Proofs.EventsApi.Params
import EventRelay.Proofs.Http.Repeats

set_option autoImplicit false

/-!
Plain requests, whose event is made of the request itself. The function on the route is told of all
of the request, up to header fields that stand repeatedly: of these the event keeps the last value,
while what the gateway tells of its receipt keeps them all.
-/
namespace EventRelay

/-- A request that carries no event in its body or in its header fields, and names none. -/
structure Request.IsPlain (request : Request) : Prop where
  unstructured : Event.mediaType request.headers ≠ .ok Event.eventJsonType
  unattributed : Event.isBinary request.headers = false
  unnamed : request.headers.text? "event" = none

section Plain
variable {request : Request} {stamp : Stamp} {e : Event}

theorem Event.eq_make_of_isPlain (plain : request.IsPlain)
    (carried : Event.ofRequest stamp request = .ok e) :
    ∃ mime body, Event.mediaType request.headers = .ok mime ∧
      Event.decodeBody mime request.body = .ok body ∧
      e = .make stamp .httpRequest Event.eventJsonType (Event.requestData request body).toJson := by
  obtain ⟨mime, typed, made⟩ := (bind_eq_ok_iff ..).mp carried
  have other : mime ≠ Event.eventJsonType := by
    rintro rfl
    exact plain.unstructured typed
  rw [if_neg other, plain.unattributed, if_neg Bool.false_ne_true, plain.unnamed] at made
  obtain ⟨body, decoded, same⟩ := (bind_eq_ok_iff ..).mp made
  cases same
  exact ⟨mime, body, typed, decoded, rfl⟩

end Plain

namespace EventsApi

section Plain
variable {ctx : Context} {request : Request} {e : Event} {target : SyncTarget}
  {params : Route.Params}

/-- The header fields of a plain request are told of twice. In the event that is made of the request
each name has its last value that is text; in the event by which the gateway tells of the receipt it
has all of them, in order and separated by commas. So the two tell the same only if no name has two
such values. -/
theorem receipts_tell_more_headers (plain : request.IsPlain) (receives : Receives ctx request e) :
    ∃ told received : List (String × Json),
      e.data.get? "headers" = some (.object told) ∧
      (∃ next, handle ctx false request = .offer (receipt ctx request e) next) ∧
      (receipt ctx request e).event.data.get? "headers" = some (.object received) ∧
      (∀ name, Keyed.get? told name = (request.headers.readable name).getLast?.map .string) ∧
      (∀ name, Keyed.get? received name =
        if request.headers.readable name = [] then none
        else some (.string (", ".intercalate (request.headers.readable name)))) ∧
      (told = received ↔ ∀ name, (request.headers.readable name).length ≤ 1) := by
  obtain ⟨mime, body, -, -, made⟩ := Event.eq_make_of_isPlain plain receives.carried
  refine ⟨Keyed.mapValues .string request.headers.lastTexts,
    Keyed.mapValues .string request.headers.joinedTexts, ?_, ⟨_, handle_eq_offer receives⟩,
    ?_, ?_, ?_, ?_⟩
  · rw [made]
    exact RequestData.get?_toJson (d := Event.requestData request body) rfl "headers"
  · change Keyed.get? (Keyed.ofList [("path", _), ("event", _), ("headers", _)]) "headers" = _
    rw [Keyed.get?_ofList]
    rfl
  · intro name
    rw [Keyed.get?_mapValues, Headers.get?_lastTexts]
  · intro name
    rw [Keyed.get?_mapValues, Headers.get?_joinedTexts]
    split <;> rfl
  · have apart :
        Function.Injective fun entry : String × String => (entry.1, Json.string entry.2) := by
      rintro ⟨name, text⟩ ⟨other, value⟩ same
      simpa using same
    exact (List.map_injective_iff.mpr apart).eq_iff.trans Headers.lastTexts_eq_joinedTexts_iff

end Plain

/-- Asks for a user, with a key that stands twice in the query. -/
def exampleQuery : Request where
  method := "GET"
  uri := ⟨none, none, "/users/42?tag=a&name=x+y&tag=b", some "tag=a&name=x+y&tag=b"⟩
  headers := [⟨"accept", Text.encode "text/html"⟩]
  body := []

/-- Has a header field that stands twice. -/
def exampleRepeating : Request where
  method := "GET"
  uri := ⟨none, none, "/users/42", none⟩
  headers := [⟨"accept", Text.encode "a"⟩, ⟨"accept", Text.encode "b"⟩]
  body := []

def exampleMade (request : Request) : Event :=
  .make default .httpRequest Event.eventJsonType (Event.requestData request .null).toJson

theorem exampleQuery_isPlain : exampleQuery.IsPlain :=
  ⟨by decide, by decide, by decide⟩

theorem exampleQuery_handed : HandedTo exampleSharingContext exampleQuery (exampleMade exampleQuery)
    exampleTarget [("id", "42")] where
  unnamed := by decide
  within := by decide
  carried := rfl
  type := rfl
  routed := exampleSharingContext_syncTarget
  called := .inr (by decide)

/-- Where no header field stands twice, the two events tell the same of them. -/
theorem exampleQuery_is_told_alike :
    (exampleMade exampleQuery).data.get? "headers" =
      (receipt exampleSharingContext exampleQuery (exampleMade exampleQuery)).event.data.get?
        "headers" := by
  obtain ⟨told, received, here, -, there, -, -, same⟩ :=
    receipts_tell_more_headers exampleQuery_isPlain exampleQuery_handed.toReceives
  have single : ∀ name, (exampleQuery.headers.readable name).length ≤ 1 := by
    intro name
    exact (List.length_filterMap_le _ _).trans (List.length_filter_le _ _)
  rw [here, there, same.mpr single]

/-- The gateway tells that it received both values, but the event has only the second. -/
theorem exampleRepeating_loses_value :
    exampleRepeating.IsPlain ∧
    Receives exampleSharingContext exampleRepeating (exampleMade exampleRepeating) ∧
    (exampleMade exampleRepeating).data.get? "headers" = some (Json.ofTexts [("accept", "b")]) ∧
    (receipt exampleSharingContext exampleRepeating (exampleMade exampleRepeating)).event.data.get?
      "headers" = some (Json.ofTexts [("accept", "a, b")]) :=
  ⟨⟨by decide, by decide, by decide⟩,
    ⟨by decide, by decide, by decide⟩, by decide, by decide⟩

end EventsApi
end EventRelay
