import EventRelay.Proofs.Catalog.Unsubscribing
import EventRelay.Proofs.Event.Modes
import EventRelay.Proofs.EventsApi.Calls
import EventRelay.Proofs.Route.Paths

set_option autoImplicit false

/-!
Which sync subscriptions are alive: those whose function some request has called because of them.
More can be stored than requests can meet: events other than plain requests reach functions by POST
only, some types reach none, and a path cannot hold every character that a route can.
-/
namespace EventRelay

open RoutingTable (Answers)

/-- A request that a client can send to the events side: its parts are spelled as they have to be,
and its path begins with a slash, as nothing is found on any other. -/
structure Request.Sendable (request : Request) : Prop where
  method : isMethod request.method = true
  target : ∃ text, Uri.parse? text = some request.uri
  rooted : Text.beginsWith "/" request.uri.path = true
  headers : ∀ field ∈ request.headers, HeaderField.of? field.name field.value = some field

/-- Whether the events that a sync subscription waits for are led along routes, and a request can
have a path of its own. -/
structure Subscription.Servable (s : Subscription) : Prop where
  routed : ∃ method, s.method = some method ∧ s.eventType.IsRouted method
  writable : Route.Writable s.route

namespace Event
variable {type : EventType}

/-- An event with no more than every event has to have. -/
def bare (type : EventType) : Event :=
  { blank with type, cloudEventsVersion := version, source := "/", id := "1" }

theorem checked_bare (named : type.name.isEmpty = false) :
    checked (bare type) = .ok (bare type) := by
  have version : version.isEmpty = false := by decide
  have source : isSource "/" = true := by decide +kernel
  simp [checked, validate, missingFields, bare, named, version, source]

theorem wellFormed_bare (type : EventType) : (bare type).WellFormed where
  time := by simp [bare, blank]
  extensions := by simp [bare, blank]
  data := .null

theorem readsBack_bare (type : EventType) : (bare type).toJson.ReadsBack :=
  readsBack_toJson (by simp [bare, blank]) (.null 1)

end Event

/-- A request in the space of a subscription, by its method and to its shortest path. -/
def Subscription.request (s : Subscription) (fields : Headers) (body : Bytes) : Request where
  method := s.method.getD ""
  uri := ⟨none, none, Route.leastPath s.route, none⟩
  headers := ⟨"space", Text.encode s.space⟩ :: fields
  body

/-- A request for a subscription that brings an event of its type. -/
def Subscription.eventRequest (s : Subscription) : Request :=
  s.request [⟨"content-type", Text.encode Event.eventJsonType⟩]
    (Text.encode (Event.bare s.eventType).toJson.compact)

namespace Subscription
variable {s : Subscription} {fields : Headers} {body : Bytes}

theorem path_request (writable : Route.Writable s.route) :
    (s.request fields body).uri.path = Route.leastPath s.route := by
  refine Uri.path_of_isPath ?_ writable.isPath
  simp [Route.leastPath, Route.joined]

theorem sendable_request (normal : s.Normal) (spaced : isSpaceName s.space = true)
    (writable : Route.Writable s.route)
    (valid : ∀ field ∈ fields, HeaderField.of? field.name field.value = some field) :
    (s.request fields body).Sendable where
  method := by
    obtain ⟨method, known, named⟩ := normal.method
    have all : ∀ method ∈ methods, isMethod method = true := by decide
    rw [request, named]
    exact all method known
  target := ⟨_, Uri.parse?_eq_of_isPath ⟨_, by simp [Route.leastPath, Route.joined]; rfl⟩
    writable.isPath⟩
  rooted := by
    rw [path_request writable]
    exact Route.beginsWith_joined _
  headers := by
    refine List.forall_mem_cons.mpr ⟨?_, valid⟩
    have lower : Text.lower "space" = "space" := by decide +kernel
    have made : HeaderField.of? "space" (Text.encode s.space) =
        some ⟨Text.lower "space", Text.encode s.space⟩ :=
      Event.of?_of_isFieldText (by decide) (by decide)
        (isFieldText_of_visible (visible_of_isSpaceName spaced))
    rwa [lower] at made

theorem answers_request (normal : s.Normal) (kind : s.kind = .sync)
    (last : Route.WildcardLast s.route) (writable : Route.Writable s.route) :
    ∃ params, Answers s s.space (s.method.getD "") (s.request fields body).uri.path s.eventType
      params := by
  obtain ⟨method, known, named⟩ := normal.method
  obtain ⟨captured, matched⟩ :=
    Route.exists_captures_leastPath (beginsWith_of_rooted normal.rooted) last
  refine ⟨_, kind, ?_, captured, ?_, rfl⟩
  · rw [RoutingTable.syncKey, named, Option.getD_some, upper_of_mem_methods known]
  · rw [path_request writable]
    exact matched

theorem spaceOf_request (spaced : isSpaceName s.space = true) (defaultSpace : String) :
    EventsApi.spaceOf defaultSpace (s.request fields body).headers = s.space := by
  have filled := isEmpty_of_isIdentifier (isIdentifier_of_isSpaceName spaced)
  have read := text?_of_visible "space" (visible_of_isSpaceName spaced)
  have told : (s.request fields body).headers.text? "space" = some s.space := by
    simpa [Headers.text?, Headers.first?, request] using read
  simp only [EventsApi.spaceOf, Headers.filled?, told, Option.filter_some, filled, Bool.not_false,
    ↓reduceIte, Option.getD_some]

theorem within_request (undeclared : ∀ field ∈ fields, field.name ≠ "content-length")
    {limit : Nat} (fits : body.length ≤ limit) :
    ((s.request fields body).bodyWithin? limit).isSome = true := by
  have absent : (s.request fields body).headers.text? "content-length" = none :=
    Headers.text?_eq_none (List.forall_mem_cons.mpr ⟨by simp, undeclared⟩)
  have short : (s.request fields body).body.length ≤ limit := fits
  simp only [Request.bodyWithin?, Request.declaredLength?, absent, Request.bodyUpTo?, short,
    ↓reduceIte, Option.isSome_some]

theorem exists_ofRequest_request (s : Subscription) (stamp : Stamp) :
    ∃ e, Event.ofRequest stamp (s.request [] []) = .ok e ∧ e.type = .httpRequest := by
  have media : Event.mediaType (s.request [] []).headers = .ok Event.octetType := by
    simp [Event.mediaType, Headers.first?, request]
  have octets : Event.octetType ≠ Event.eventJsonType := by decide
  have binary : Event.isBinary (s.request [] []).headers = false := by
    simp [Event.isBinary, Event.binaryFields, Headers.filled?, Headers.text?, Headers.first?,
      request]
  have unnamed : (s.request [] []).headers.text? "event" = none := by
    simp [Headers.text?, Headers.first?, request]
  simp only [Event.ofRequest, media, bind, Except.bind, octets, binary, unnamed, Bool.false_eq_true,
    ↓reduceIte]
  exact ⟨_, rfl, rfl⟩

theorem ofRequest_eventRequest (named : s.eventType.name.isEmpty = false) (stamp : Stamp) :
    Event.ofRequest stamp s.eventRequest = .ok (Event.bare s.eventType) := by
  have structured : (Event.bare s.eventType).Structured s.eventRequest := by
    refine ⟨?_, rfl⟩
    have read : HeaderField.text? ⟨"content-type", Text.encode Event.eventJsonType⟩ =
        some Event.eventJsonType :=
      text?_of_visible _ (by decide)
    simpa [Headers.text?, Headers.first?, eventRequest, request] using read
  rw [structured.ofRequest_eq_checked (Event.wellFormed_bare _) (Event.readsBack_bare _)]
  exact Event.checked_bare named

end Subscription

namespace EventsApi

/-- A request has the function of a subscription called because of the subscription: it is called,
and where the subscription has been deleted it is not. -/
def CallsFor (c : Catalog) (s : Subscription) (ctx : Context) (request : Request) : Prop :=
  (handle ctx false request).Calls s.space s.functionId ∧
    ∃ without, c.deleteSubscription s.space s.id = .ok ((), without) ∧
      ∀ others : RoutingTable, without.Compiles others →
        ¬ (handle { ctx with routes := others } false request).Calls s.space s.functionId

section Live
variable {c : Catalog} {s : Subscription} {ctx : Context} {request : Request}

/-- A request that is led by one lookup has the function called of the subscription that answers,
and because of it. -/
theorem callsFor_of_answers (reachable : c.Reachable) (stored : s ∈ c.allSubscriptions)
    (compiled : c.Compiles ctx.routes) {method : String} {type : EventType}
    {params : Route.Params} (answers : Answers s s.space method request.uri.path type params)
    (leads : ∀ routes space id, (handle { ctx with routes } false request).Calls space id ↔
      space = s.space ∧ Finds routes s.space method request.uri.path type id) :
    CallsFor c s ctx request := by
  obtain ⟨without, deleted, absent⟩ := reachable.exists_without stored
  have found := (reachable.compiled_syncTarget_eq_some_iff compiled ⟨s.functionId, s.cors⟩).mpr
    ⟨s, stored, answers, rfl⟩
  refine ⟨(leads ctx.routes _ _).mpr ⟨rfl, _, _, found, rfl⟩, without, deleted, ?_⟩
  intro others recompiled called
  obtain ⟨-, target, params, there, -⟩ := (leads others _ _).mp called
  rw [Catalog.syncTarget_without_eq_none reachable absent recompiled stored answers] at there
  cases there

/-- A request that calls for a subscription is answered by it, under a method and a type for which
requests are led along routes. -/
theorem exists_answers_of_callsFor (reachable : c.Reachable) (stored : s ∈ c.allSubscriptions)
    (compiled : c.Compiles ctx.routes) (calls : CallsFor c s ctx request) :
    ∃ method type params, EventType.IsRouted type method ∧
      Answers s (spaceOf ctx.defaultSpace request.headers) method request.uri.path type params := by
  by_contra unanswered
  obtain ⟨without, deleted, absent⟩ := reachable.exists_without stored
  obtain ⟨called, again, same, uncalled⟩ := calls
  rw [deleted] at same
  cases same
  have recompiled := Catalog.compiles_routes without
  refine uncalled _ recompiled ?_
  -- where nothing is answered by the subscription, the lookups find the same without it
  rw [handle_congr]
  · exact called
  · intro method type routed
    refine Catalog.syncTarget_without_eq reachable absent recompiled compiled
      fun params answers => ?_
    exact unanswered ⟨method, type, params, routed, answers⟩

theorem servable_of_callsFor (reachable : c.Reachable) (stored : s ∈ c.allSubscriptions)
    (compiled : c.Compiles ctx.routes) (sendable : request.Sendable)
    (calls : CallsFor c s ctx request) : s.Servable := by
  obtain ⟨method, type, params, routed, -, key, captured, matched, -⟩ :=
    exists_answers_of_callsFor reachable stored compiled calls
  obtain ⟨text, parsed⟩ := sendable.target
  refine ⟨?_, Route.writable_of_captures sendable.rooted (Uri.isPath_of_parse? parsed) matched⟩
  obtain ⟨_, -, supports⟩ := reachable.supports stored
  obtain ⟨own, -, named⟩ := supports.normal.method
  simp only [RoutingTable.syncKey, named, Option.getD_some, RoutingTable.SyncKey.mk.injEq] at key
  obtain ⟨-, rfl, rfl⟩ := key
  refine ⟨_, named, ?_⟩
  rcases routed with plain | ⟨rfl, others⟩
  · exact Or.inl plain
  · exact Or.inr ⟨by decide +kernel, others⟩

section Servable
variable (reachable : c.Reachable) (stored : s ∈ c.allSubscriptions) (kind : s.kind = .sync)
  (compiled : c.Compiles ctx.routes) (writable : Route.Writable s.route)
include reachable stored kind

theorem exists_answers_request (writable : Route.Writable s.route) (fields : Headers)
    (body : Bytes) :
    ∃ params, Answers s s.space (s.method.getD "") (s.request fields body).uri.path s.eventType
      params := by
  obtain ⟨key, listed, supports⟩ := reachable.supports stored
  exact Subscription.answers_request supports.normal kind
    (reachable.routesJoin.wildcardLast key s listed kind) writable

include compiled writable

theorem callsFor_request (plain : s.eventType = .httpRequest) :
    CallsFor c s ctx (s.request [] []) := by
  obtain ⟨params, answers⟩ := exists_answers_request reachable stored kind writable [] []
  obtain ⟨e, carried, type⟩ := s.exists_ofRequest_request (ctx.stamps 0)
  have asks : Cors.isPreflight (s.request [] []).method (s.request [] []).headers = false := by
    simp [Cors.isPreflight, Headers.has, Headers.first?, Subscription.request]
  have unnamed :
      Cors.isEventPreflight (s.request [] []).method (s.request [] []).headers = false := by
    simp [Cors.isEventPreflight, Headers.getAll, Subscription.request]
  have within : ((s.request [] []).bodyWithin? ctx.bodyLimit).isSome = true :=
    Subscription.within_request (by simp) (Nat.zero_le _)
  refine callsFor_of_answers reachable stored compiled answers fun routes space id => ?_
  rw [calls_handle_iff_of_plain { ctx with routes } unnamed asks within carried type,
    Subscription.spaceOf_request (reachable.isSpaceName_of_stored stored), plain]
  rfl

theorem callsFor_eventRequest (named : s.method = some "POST")
    (other : s.eventType.isHttpRequest = false) (invokes : s.eventType.isInvoke = false)
    (system : s.eventType.isSystem = false) (fits : s.eventRequest.body.length ≤ ctx.bodyLimit) :
    CallsFor c s ctx s.eventRequest := by
  obtain ⟨_, -, supports⟩ := reachable.supports stored
  obtain ⟨params, answers⟩ := exists_answers_request reachable stored kind writable
    [⟨"content-type", Text.encode Event.eventJsonType⟩]
    (Text.encode (Event.bare s.eventType).toJson.compact)
  have method : s.method.getD "" = "POST" := by rw [named, Option.getD_some]
  have within : (s.eventRequest.bodyWithin? ctx.bodyLimit).isSome = true :=
    Subscription.within_request (by simp) fits
  rw [method] at answers
  refine callsFor_of_answers reachable stored compiled answers fun routes space id => ?_
  have carried := s.ofRequest_eventRequest supports.normal.eventType (ctx.stamps 0)
  rw [calls_handle_iff_of_posted { ctx with routes } method within carried other invokes system,
    Subscription.eventRequest,
      Subscription.spaceOf_request (reachable.isSpaceName_of_stored stored)]
  rfl

end Servable

/-- Of a servable subscription there is a request that calls for it, the same for all gateways that
read so much. -/
theorem exists_request_of_servable (reachable : c.Reachable) (stored : s ∈ c.allSubscriptions)
    (kind : s.kind = .sync) (servable : s.Servable) :
    ∃ request : Request, request.Sendable ∧ ∀ ctx : Context, c.Compiles ctx.routes →
      request.body.length ≤ ctx.bodyLimit → CallsFor c s ctx request := by
  obtain ⟨_, -, supports⟩ := reachable.supports stored
  obtain ⟨⟨method, named, routed⟩, writable⟩ := servable
  have spaced := reachable.isSpaceName_of_stored stored
  by_cases plain : s.eventType = .httpRequest
  · refine ⟨s.request [] [], ?_, fun ctx compiled _ =>
      callsFor_request reachable stored kind compiled writable plain⟩
    exact Subscription.sendable_request supports.normal spaced writable (by simp)
  · obtain ⟨rfl, invokes, system⟩ := routed.resolve_left plain
    have other : s.eventType.isHttpRequest = false := by simpa [EventType.isHttpRequest] using plain
    refine ⟨s.eventRequest, ?_, fun ctx compiled fits =>
      callsFor_eventRequest reachable stored kind compiled writable named other invokes system fits⟩
    refine Subscription.sendable_request supports.normal spaced writable fun field member => ?_
    rw [List.mem_singleton.mp member]
    decide +kernel

/-- Which subscriptions are alive. If events of the type of a stored sync subscription are led along
routes by its method, and a path can be spelled that its route matches, then a client can send a
request that has its function called because of it, to every gateway with those routes that is not
stopping and that reads bodies of that length. And if any request that can be sent has the function
called because of the subscription, then this is so. -/
theorem subscriptions_live_iff_servable (reachable : c.Reachable) (stored : s ∈ c.allSubscriptions)
    (kind : s.kind = .sync) :
    (s.Servable → ∃ request : Request, request.Sendable ∧ ∀ ctx : Context,
      c.Compiles ctx.routes → request.body.length ≤ ctx.bodyLimit → CallsFor c s ctx request) ∧
    (∀ (ctx : Context) (request : Request), c.Compiles ctx.routes → request.Sendable →
      CallsFor c s ctx request → s.Servable) :=
  ⟨exists_request_of_servable reachable stored kind, fun _ _ compiled sendable calls =>
    servable_of_callsFor reachable stored compiled sendable calls⟩

end Live

theorem exampleShared_servable : exampleShared.Servable where
  routed := ⟨"GET", rfl, Or.inl rfl⟩
  writable := by
    have route : exampleShared.route = [.static "users", .param "id"] := by decide +kernel
    rw [route]
    refine ⟨fun text static => ?_, by decide +kernel⟩
    obtain rfl : text = "users" := by simpa using static
    decide

/-- A client can send a request that calls for the shared subscription. -/
theorem exampleShared_is_live : exampleShared.Servable ∧ ∃ (ctx : Context) (request : Request),
    exampleSharing.Compiles ctx.routes ∧ request.Sendable ∧
      CallsFor exampleSharing exampleShared ctx request := by
  have compiled := Catalog.compiles_routes exampleSharing
  have stored : exampleShared ∈ exampleSharing.allSubscriptions := List.mem_singleton_self _
  obtain ⟨live, servable⟩ := subscriptions_live_iff_servable reachable_exampleSharing stored rfl
  obtain ⟨request, sendable, calls⟩ := live exampleShared_servable
  let ctx : Context := ⟨exampleSharing.routes, "default", request.body.length, fun _ => default⟩
  have called : CallsFor exampleSharing exampleShared ctx request :=
    calls ctx compiled (Nat.le_refl _)
  exact ⟨servable ctx request compiled sendable called, ctx, request, compiled, sendable, called⟩

/-- Waits for events by which the gateway tells that it has received another. -/
def exampleWatching : Subscription :=
  (Subscription.ofSync "default" "gateway.event.received" "crm" "POST" "/").identified

/-- A catalog with a function and a subscription that waits for what never comes by a request. -/
def exampleWatched : Catalog where
  eventTypes := []
  functions := [(⟨"default", ⟨"crm"⟩⟩, ⟨"default", ⟨"crm"⟩, .weighted [⟨⟨"crm-v2"⟩, 1⟩]⟩)]
  subscriptions := [(⟨"default", exampleWatching.computeId⟩, exampleWatching)]

theorem reachable_exampleWatched : exampleWatched.Reachable := by
  have run := Catalog.reachable_foldl .empty
    [.registerFunction ⟨"default", ⟨"crm"⟩, .weighted [⟨⟨"crm-v2"⟩, 1⟩]⟩,
      .createSubscription (.ofSync "default" "gateway.event.received" "crm" "POST" "/")]
  have same : List.foldl Catalog.apply .empty
    [.registerFunction ⟨"default", ⟨"crm"⟩, .weighted [⟨⟨"crm-v2"⟩, 1⟩]⟩,
      .createSubscription (.ofSync "default" "gateway.event.received" "crm" "POST" "/")] =
      exampleWatched := by
    decide +kernel
  rwa [same] at run

/-- The subscription is stored, and no request whatever calls for it. -/
theorem exampleWatching_is_dead : exampleWatched.Reachable ∧
    exampleWatching ∈ exampleWatched.allSubscriptions ∧ exampleWatching.kind = .sync ∧
    ∀ (ctx : Context) (request : Request), exampleWatched.Compiles ctx.routes →
      ¬ CallsFor exampleWatched exampleWatching ctx request := by
  have stored : exampleWatching ∈ exampleWatched.allSubscriptions := List.mem_singleton_self _
  refine ⟨reachable_exampleWatched, stored, rfl, fun ctx request compiled calls => ?_⟩
  obtain ⟨method, type, params, routed, -, key, -⟩ :=
    exists_answers_of_callsFor reachable_exampleWatched stored compiled calls
  obtain rfl : ⟨"gateway.event.received"⟩ = type := congrArg RoutingTable.SyncKey.eventType key
  rcases routed with plain | ⟨-, -, system⟩
  · exact absurd plain (by decide)
  · exact absurd system (by decide)

end EventsApi
end EventRelay
