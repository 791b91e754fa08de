import EventRelay.Proofs.EventsApi.Preflights
import EventRelay.Proofs.Http.Described

set_option autoImplicit false

/-!
What an origin is told that the settings of a subscription do not allow. The settings add nothing
for it and take nothing away: a preflight is told nothing at all, and any other answer tells it
exactly what the function itself tells every origin.
-/
namespace EventRelay

/-- On its way out an answer neither gets nor loses a field but the id of its request. -/
theorem Response.has_finished {name : String} (apart : name ≠ requestIdName) (response : Response)
    (request : Request) :
    (response.finished request).headers.has name = response.headers.has name := by
  rw [Bool.eq_iff_iff, Headers.has_iff_getAll, Headers.has_iff_getAll, getAll_finished apart]

namespace EventsApi

/-- Whether what comes of a call describes a response with a header field of a name. -/
def Describes (name : String) (outcome : Except FunctionError Bytes) : Prop :=
  ∃ body found, outcome = .ok body ∧ ResponseObject.decode? body = some found ∧
    ∃ entry ∈ found.headers, ResponseObject.Spells entry name

/-- The answer that is made of a result has the fields that the result describes; only the type of
an answer that tells of a failure is not of its choice. -/
theorem has_described_iff {name : String} (apart : name ≠ "content-type")
    (outcome : Except FunctionError Bytes) :
    (described outcome).headers.has name = true ↔ Describes name outcome := by
  have plain : ∀ status text, (Response.plain status text).headers.has name = false := by
    intro status text
    simp [Response.plain, Headers.has, Headers.first?, apart.symm]
  unfold described Describes
  cases outcome with
  | error e => simp [plain]
  | ok body =>
      cases decoded : ResponseObject.decode? body with
      | none => simp [plain, decoded]
      | some found => simp [ResponseObject.has_toResponse_iff, decoded]

/-- A request with a plain event that is led along the route of a subscription. -/
structure LedTo (ctx : Context) (request : Request) (s : Subscription) : Prop where
  unnamed : Cors.isEventPreflight request.method request.headers = false
  within : (request.bodyWithin? ctx.bodyLimit).isSome = true
  carried : ∃ e, Event.ofRequest (ctx.stamps 0) request = .ok e ∧ e.type = .httpRequest
  answers : ∃ params, RoutingTable.Answers s (spaceOf ctx.defaultSpace request.headers)
    (Cors.effectiveMethod request.method request.headers) request.uri.path .httpRequest params

section Refused
variable {ctx : Context} {request : Request} {s : Subscription} {cors : CorsSettings}
  {origin : String}

/-- The answer to an origin that is not allowed, whatever comes of the call. -/
theorem run_handle_of_refused {c : Catalog} (reachable : c.Reachable) {order : List Subscription}
    (same : order.Perm c.allSubscriptions) (built : ctx.routes = RoutingTable.build order)
    (stored : s ∈ c.allSubscriptions) (settings : s.cors = some cors) (led : LedTo ctx request s)
    (refused : Cors.allowedOrigin? cors request.headers = none)
    (outcome : Except FunctionError Bytes) :
    ((handle ctx false request).run [outcome]).2 =
      some ⟨if Cors.isPreflight request.method request.headers then .ofStatus 200
        else described outcome, some .http⟩ := by
  obtain ⟨e, carried, type⟩ := led.carried
  obtain ⟨params, answers⟩ := led.answers
  have routed := (reachable.syncTarget_eq_some_iff same _ _ _ _ _ _).mpr
    ⟨s, stored, answers, rfl⟩
  rw [← built] at routed
  rw [handle_eq_sync led.unnamed led.within carried type]
  cases asks : Cors.isPreflight request.method request.headers with
  | true => simp [sync, type, routed, settings, asks, Cors.preflight_of_refused refused,
      Activity.map, Activity.andThen, Activity.run]
  | false => simp [sync, type, routed, settings, asks, Cors.apply_of_refused refused, call,
      Activity.announced, Activity.map, Activity.andThen, Activity.run]

/-- Settings do not speak for an origin that they do not allow, nor against it. Let a request be led
along the route of a stored subscription with settings that do not allow its origin. Whatever comes
of the call, the answer as it is sent names an origin exactly if the function's own result does; and
if the request asks beforehand, the answer names none at all. -/
theorem refused_origins_are_left_to_functions {c : Catalog} (reachable : c.Reachable)
    {order : List Subscription} (same : order.Perm c.allSubscriptions)
    (built : ctx.routes = RoutingTable.build order) (stored : s ∈ c.allSubscriptions)
    (settings : s.cors = some cors) (led : LedTo ctx request s)
    (asked : Cors.origin? request.headers = some origin)
    (refused : Cors.originAllowed cors origin = false) (outcome : Except FunctionError Bytes) :
    ∃ response, ((handle ctx false request).run [outcome]).2 = some ⟨response, some .http⟩ ∧
      ((response.finished request).headers.has "access-control-allow-origin" = true ↔
        Cors.isPreflight request.method request.headers = false ∧
          Describes "access-control-allow-origin" outcome) := by
  have none := Cors.allowedOrigin?_eq_none asked refused
  refine ⟨_, run_handle_of_refused reachable same built stored settings led none outcome, ?_⟩
  rw [Response.has_finished (by decide)]
  cases asks : Cors.isPreflight request.method request.headers with
  | true => simp [Response.ofStatus, Headers.has, Headers.first?]
  | false => simpa using has_described_iff (by decide) outcome

end Refused

/-- A page of a site that may not get users, and tries. -/
def exampleStranger : Request where
  method := "GET"
  uri := ⟨none, none, "/users/42", none⟩
  headers := [⟨"origin", Text.encode "https://evil.test"⟩]
  body := []

theorem exampleStranger_origin :
    Cors.origin? exampleStranger.headers = some "https://evil.test" := by
  decide +kernel

theorem exampleStranger_refused :
    Cors.originAllowed exampleCors "https://evil.test" = false := by
  decide +kernel

theorem exampleStranger_led : LedTo exampleSharingContext exampleStranger exampleShared where
  unnamed := by decide +kernel
  within := by decide +kernel
  carried := ⟨_, rfl, rfl⟩
  answers := ⟨[("id", "42")], rfl, by decide +kernel, [("id", "42")], by decide +kernel,
    by decide +kernel⟩

/-- A result that tells nothing of origins leaves the stranger without an answer that it may
read. -/
theorem exampleStranger_is_told_nothing : ∃ response,
    ((handle exampleSharingContext false exampleStranger).run
      [.ok (Text.encode "\x7b\"body\":\"ok\"\x7d")]).2 = some ⟨response, some .http⟩ ∧
    (response.finished exampleStranger).headers.has "access-control-allow-origin" = false := by
  obtain ⟨response, answered, told⟩ := refused_origins_are_left_to_functions
    reachable_exampleSharing (List.Perm.refl _) rfl (by decide +kernel) rfl exampleStranger_led
    exampleStranger_origin exampleStranger_refused (.ok (Text.encode "\x7b\"body\":\"ok\"\x7d"))
  refine ⟨response, answered, ?_⟩
  rw [← Bool.not_eq_true, told]
  rintro ⟨-, body, found, same, decoded, entry, member, -⟩
  cases same
  have empty : (ResponseObject.decode? (Text.encode "\x7b\"body\":\"ok\"\x7d")).map (·.headers) =
      some [] := by
    decide +kernel
  rw [decoded, Option.map_some, Option.some.injEq] at empty
  rw [empty] at member
  cases member

/-- A function's own word stands against the settings: the stranger is told that it may read the
answer. -/
theorem exampleStranger_is_told : ∃ response,
    exampleShared ∈ exampleSharing.allSubscriptions ∧ exampleShared.cors = some exampleCors ∧
    LedTo exampleSharingContext exampleStranger exampleShared ∧
    Cors.origin? exampleStranger.headers = some "https://evil.test" ∧
    Cors.originAllowed exampleCors "https://evil.test" = false ∧
    ((handle exampleSharingContext false exampleStranger).run
      [.ok (Text.encode
        "\x7b\"headers\":\x7b\"Access-Control-Allow-Origin\":\"*\"\x7d,\"body\":\"ok\"\x7d")]).2 =
      some ⟨response, some .http⟩ ∧
    (response.finished exampleStranger).headers.has "access-control-allow-origin" = true := by
  refine ⟨_, by decide +kernel, rfl, exampleStranger_led, exampleStranger_origin,
    exampleStranger_refused, run_handle_of_refused reachable_exampleSharing (List.Perm.refl _) rfl
      (by decide +kernel) rfl exampleStranger_led
      (Cors.allowedOrigin?_eq_none exampleStranger_origin exampleStranger_refused) _, ?_⟩
  decide +kernel

end EventsApi
end EventRelay
