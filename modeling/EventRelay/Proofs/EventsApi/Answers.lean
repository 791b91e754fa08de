import EventRelay.Proofs.Catalog.Routing
import EventRelay.Proofs.EventsApi.PlainRequests
import EventRelay.Proofs.Http.Described
import EventRelay.Proofs.Http.Results

set_option autoImplicit false

/-!
What becomes of the results of functions on routes. A result that describes a response is answered
by it: a response that was written as JSON reaches the client as it is, and the status that an
object tells is the status of the answer if it is a status of HTTP at all. Any other result is
answered by an error.
-/
namespace EventRelay

namespace Cors

theorem status_body_apply (cors : CorsSettings) (request : Headers) (response : Response) :
    (apply cors request response).status = response.status ∧
      (apply cors request response).body = response.body := by
  unfold apply
  split <;> exact ⟨rfl, rfl⟩

end Cors

namespace EventsApi

open ResponseObject (IsDescription toldStatus? isStatus lowered exampleRelayed
  exampleRelayed_relayable)

section Handed
variable {ctx : Context} {request : Request} {e : Event} {target : SyncTarget}
  {params : Route.Params}

/-- A request that is handed to a function is answered by what is made of the outcome. -/
theorem HandedTo.run_handle (handed : HandedTo ctx request e target params)
    (outcome : Except FunctionError Bytes) :
    ((handle ctx false request).run [outcome]).2 =
      some ⟨respond target request outcome, some .http⟩ := by
  rw [handle_eq_sync handed.unnamed handed.within handed.carried handed.type, handed.sync_eq]
  cases outcome <;> rfl

theorem status_body_respond (target : SyncTarget) (request : Request)
    (outcome : Except FunctionError Bytes) :
    (respond target request outcome).status = (described outcome).status ∧
      (respond target request outcome).body = (described outcome).body := by
  unfold respond
  split
  · exact ⟨rfl, rfl⟩
  · exact Cors.status_body_apply ..

theorem described_of_not_isDescription {result : Bytes} (nothing : ¬ IsDescription result) :
    described (.ok result) = .plain 500 malformedResult := by
  have refused : ResponseObject.decode? result = none := by
    by_contra some
    exact nothing (ResponseObject.exists_decode?_iff.mp (Option.ne_none_iff_exists'.mp some))
  simp only [described, refused]

theorem exists_toldStatus?_of_isDescription {result : Bytes} (describes : IsDescription result) :
    ∃ told, toldStatus? result = some told ∧
      (described (.ok result)).status = if isStatus told then told else 200 := by
  obtain ⟨r, decoded⟩ := ResponseObject.exists_decode?_iff.mpr describes
  refine ⟨r.statusCode, ResponseObject.toldStatus?_of_decode? decoded, ?_⟩
  simp only [described, decoded, ResponseObject.toResponse]

/-- The client gets the status that the result of a function tells, or an error if the result
describes no response; but a number that is no status of HTTP is answered as a success. So the
answer has the told status, or is that error, in every other case and only then. -/
theorem statuses_are_told_or_success (handed : HandedTo ctx request e target params)
    (result : Bytes) : ∃ response,
    ((handle ctx false request).run [.ok result]).2 = some ⟨response, some .http⟩ ∧
    (response.finished request).status = response.status ∧
    (¬ IsDescription result → response.status = 500 ∧ response.body = Text.encode malformedResult) ∧
    (IsDescription result → ∃ told, toldStatus? result = some told ∧
      response.status = if isStatus told then told else 200) ∧
    ((toldStatus? result = some response.status ∨
        response.status = 500 ∧ response.body = Text.encode malformedResult) ↔
      ¬ (IsDescription result ∧
        ∃ told, toldStatus? result = some told ∧ isStatus told = false)) := by
  obtain ⟨status, body⟩ := status_body_respond target request (.ok result)
  refine ⟨_, handed.run_handle _, Response.status_finished _ _, ?_⟩
  rw [status, body]
  by_cases describes : IsDescription result
  · obtain ⟨told, tells, answered⟩ := exists_toldStatus?_of_isDescription describes
    refine ⟨fun nothing => absurd describes nothing, fun _ => ⟨told, tells, answered⟩, ?_⟩
    rw [answered, tells]
    cases proper : isStatus told with
    | true => simp [proper]
    | false =>
        have apart : told ≠ 200 := by
          rintro rfl
          cases proper
        simp [describes, proper, apart]
  · rw [described_of_not_isDescription describes]
    exact ⟨fun _ => ⟨rfl, rfl⟩, fun fits => absurd fits describes, fun _ both => describes both.1,
      fun _ => .inr ⟨rfl, rfl⟩⟩

/-- A response that a function writes as JSON, in an answer that is no failure, reaches the client
of a route without settings as it is: with its status, its header fields with their names in lower
case, and its body, which is empty for null, a string as it is, and any other value as JSON. The
same response comes of the header entries in any other order. -/
theorem responses_are_relayed {r : ResponseObject} {written : Json} {replied : Nat}
    (handed : HandedTo ctx request e target params) (unshared : target.cors = none)
    (relayable : r.Relayable) (wrote : r.WrittenAs written) (answered : replied ≠ 500) :
    ResponseObject.decode? (Text.encode written.compact) = some r ∧
    ∃ response, ((handle ctx false request).run
        [functionResult (.ok (replied, some (Text.encode written.compact)))]).2 =
          some ⟨response, some .http⟩ ∧
      response.status = r.statusCode ∧
      response.headers = r.headers.map lowered ∧
      response.body = (match r.body with
        | .null => []
        | .string text => Text.encode text
        | value => Text.encode value.compact) ∧
      ∀ order, order.Perm r.headers →
        r.inOrder order = { response with headers := order.map lowered } := by
  have decoded := relayable.decode?_eq wrote
  have result : functionResult (.ok (replied, some (Text.encode written.compact))) =
      .ok (Text.encode written.compact) := if_neg answered
  have relayed : respond target request (.ok (Text.encode written.compact)) = r.toResponse := by
    simp only [respond, unshared, described, decoded]
  have status : r.toResponse.status = r.statusCode := if_pos relayable.proper
  refine ⟨decoded, r.toResponse, ?_, status, ?_, rfl, fun order perm => ?_⟩
  · rw [result, handed.run_handle, relayed]
  · exact relayable.fields.foldl_addHeader
  · rw [← relayable.fields.headers_inOrder perm]
    rfl

end Handed

def exampleOpenContext : Context :=
  ⟨RoutingTable.build [Catalog.exampleSync], "default", 200, fun _ => default⟩

theorem exampleQuery_handed_openly : HandedTo exampleOpenContext exampleQuery
    (exampleMade exampleQuery) ⟨⟨"crm"⟩, none⟩ [("id", "42")] where
  unnamed := by decide
  within := by decide
  carried := rfl
  type := rfl
  routed := by decide +kernel
  called := .inl rfl

theorem exampleRelayed_is_relayed : ∃ response,
    ((handle exampleOpenContext false exampleQuery).run
      [functionResult (.ok (200, some (Text.encode exampleRelayed.toJson.compact)))]).2 =
        some ⟨response, some .http⟩ ∧
    response = ⟨201, [⟨"location", Text.encode "/users/7"⟩, ⟨"x-made-by", Text.encode "crm"⟩],
      Text.encode "\x7b\"id\":7\x7d"⟩ := by
  obtain ⟨-, response, answered, status, headers, body, -⟩ := responses_are_relayed
    exampleQuery_handed_openly rfl exampleRelayed_relayable (ResponseObject.writtenAs_toJson _)
    (show 200 ≠ 500 by decide)
  refine ⟨response, answered, ?_⟩
  obtain ⟨n, fields, bytes⟩ := response
  cases (status : n = 201)
  rw [show fields = _ from headers, show bytes = _ from body]
  decide +kernel

/-- A told status is answered, and a result that is no JSON is answered by an error. -/
theorem exampleQuery_statuses :
    (∃ response, ((handle exampleSharingContext false exampleQuery).run
      [.ok (Text.encode "\x7b\"statusCode\":404\x7d")]).2 = some ⟨response, some .http⟩ ∧
        response.status = 404) ∧
    ∃ response, ((handle exampleSharingContext false exampleQuery).run
      [.ok (Text.encode "not found")]).2 = some ⟨response, some .http⟩ ∧ response.status = 500 := by
  constructor
  · obtain ⟨response, answered, -, -, told, -⟩ := statuses_are_told_or_success exampleQuery_handed
      (Text.encode "\x7b\"statusCode\":404\x7d")
    have parsed : Json.parse (Text.encode "\x7b\"statusCode\":404\x7d") =
        .ok (.object [("statusCode", Json.ofNat 404)]) := by decide +kernel
    have tells : toldStatus? (Text.encode "\x7b\"statusCode\":404\x7d") = some 404 := by
      rw [toldStatus?, parsed]
      rfl
    obtain ⟨status, found, given⟩ := told ⟨_, parsed, by decide⟩
    cases tells.symm.trans found
    exact ⟨response, answered, given⟩
  · obtain ⟨response, answered, -, failed, -⟩ := statuses_are_told_or_success exampleQuery_handed
      (Text.encode "not found")
    have malformed : Json.parse (Text.encode "not found") = .error .malformed := by decide +kernel
    refine ⟨response, answered, (failed ?_).1⟩
    rintro ⟨members, parsed, -⟩
    rw [malformed] at parsed
    cases parsed

/-- A number that is no status of HTTP is answered as a success. -/
theorem exampleQuery_invents_status : ∃ response,
    ((handle exampleSharingContext false exampleQuery).run
      [.ok (Text.encode "\x7b\"statusCode\":1000\x7d")]).2 = some ⟨response, some .http⟩ ∧
    toldStatus? (Text.encode "\x7b\"statusCode\":1000\x7d") = some 1000 ∧
    (response.finished exampleQuery).status = 200 := by
  refine ⟨_, exampleQuery_handed.run_handle _, by decide +kernel, ?_⟩
  rw [Response.status_finished, (status_body_respond ..).1]
  decide +kernel

end EventsApi
end EventRelay
