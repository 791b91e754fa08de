import EventRelay.Net.Script
import EventRelay.Proofs.Event.Imitation
import EventRelay.Proofs.EventsApi.Emission
import EventRelay.Proofs.Gateway.Performing
import EventRelay.Proofs.Text.Utf8

set_option autoImplicit false

/-!
What becomes of a function's invocation by a client. Its data is the body of the request as it is,
so the gateway takes data of some shapes for something else; all other data reaches the function,
and the answer of the function reaches the client.
-/
namespace EventRelay

section Calls
variable {client : Client} {base call : Call} {id : FunctionId} {data : Json}

def Client.invokeFields (client : Client) (id : FunctionId) : Headers :=
  [⟨"event", Text.encode "invoke"⟩, ⟨"function-id", Text.encode id.text⟩,
    ⟨"content-type", Text.encode "application/json"⟩] ++
    (client.space.map fun space => (⟨"space", Text.encode space⟩ : HeaderField)).toList

/-- The call of an invocation, made of a call without its fields. -/
def Client.invocation (client : Client) (base : Call) (id : FunctionId) (data : Json) : Call :=
  { base with
    headers := base.headers ++ client.invokeFields id
    body := Text.encode data.compact }

theorem Client.invokeCall_eq (addressed : Call.ofUrl? "POST" client.url = .ok base)
    (named : id.isValid = true)
    (spaced : ∀ space, client.space = some space → space.toList.all isVisible = true) :
    client.invokeCall id.text data = .ok (client.invocation base id data) := by
  have eventName : HeaderField.name? "event" = some "event" := by decide +kernel
  have functionName : HeaderField.name? "function-id" = some "function-id" := by decide +kernel
  have invoke : "invoke".toList.all isVisible = true := by decide
  have prepared : client.prepare [("event", "invoke"), ("function-id", id.text)] =
      .ok { base with
        headers := base.headers ++ [⟨"event", Text.encode "invoke"⟩] ++
          [⟨"function-id", Text.encode id.text⟩] } := by
    simp only [prepare, addressed, bind, Except.bind, List.foldlM,
      Call.withHeader_of_visible _ eventName invoke,
      Call.withHeader_of_visible _ functionName (visible_of_isIdentifier named)]
    rfl
  rw [invokeCall, prepared]
  simp [address_eq _ _ spaced, invokeFields, invocation]

variable {σ : Type} (network : Network σ) (world : σ)

theorem Client.invoke_eq (made : client.invokeCall id.text data = .ok call)
    (callable : call.url.isCallable = true) :
    client.invoke network id.text data world =
      (invoked ((network call world).1.outcome call.url), (network call world).2) := by
  have sent := Call.send_eq network world callable
  simp only [invoke, sendCall, made, bind, StateT.bind, sent]
  rfl

theorem Client.invoke_of_events {arrival : Call → Request} {g after : Gateway} {response : Response}
    {outside : σ} (made : client.invokeCall id.text data = .ok call)
    (callable : call.url.isCallable = true)
    (answered : Gateway.events network (arrival call) (g, world) = (response, after, outside)) :
    client.invoke (Gateway.answering network arrival) id.text data (g, world) =
      (invoked (.ok (response.status, some response.body)), after, outside) := by
  have sent := Client.invoke_eq (Gateway.answering network arrival) (g, world) made callable
  simp only [Gateway.answering, bind, StateT.bind, answered] at sent
  exact sent

theorem Client.invoked_of_parse {text : String} {result : Json}
    (reads : Json.parse (Text.encode text) = .ok result) :
    invoked (.ok (200, some (Text.encode text))) = .ok result := by
  have success : Status.isSuccess 200 = true := by decide
  have filled : text.isEmpty = false := by
    cases empty : text.isEmpty with
    | false => rfl
    | true =>
        rw [String.isEmpty_iff.mp empty] at reads
        cases reads
  simp only [invoked, Text.decodeLossy_encode, success, filled, reads, not_true_eq_false,
    Bool.false_eq_true, ↓reduceIte]

end Calls

/-- A request that brings an invocation also tells which function is meant. -/
structure CarriesInvocation (call : Call) (request : Request) : Prop extends
    Carries call request where
  functionId : request.headers.first? "function-id" = call.headers.first? "function-id"

/-- What a request that brings an invocation says in the fields that are read. -/
structure Client.Invokes (client : Client) (id : FunctionId) (headers : Headers) : Prop extends
    client.Announces "invoke" headers where
  functionId : headers.first? "function-id" = some ⟨"function-id", Text.encode id.text⟩

section Requests
variable {client : Client} {base : Call} {id : FunctionId} {data : Json} {request : Request}

theorem Client.announces_invokeFields (client : Client) (id : FunctionId) :
    client.Announces "invoke" (client.invokeFields id) := by
  cases addressee : client.space <;>
    constructor <;> simp [Headers.first?, Client.invokeFields, addressee]

theorem CarriesInvocation.invokes (addressed : Call.ofUrl? "POST" client.url = .ok base)
    (carries : CarriesInvocation (client.invocation base id data) request) :
    client.Invokes id request.headers where
  toAnnounces := carries.announces_of addressed rfl (client.announces_invokeFields id)
  functionId := by
    obtain ⟨-, plain⟩ := Call.ofUrl?_eq_ok addressed
    rw [carries.functionId, Client.invocation, first?_append_of_ne]
    · simp [Headers.first?, Client.invokeFields]
    · intro field member
      rw [plain field member]
      decide

theorem Client.Invokes.withId (invokes : client.Invokes id request.headers) (given : String) :
    client.Invokes id (request.withId given).headers where
  contentType := (request.first?_withId given (by decide)).trans invokes.contentType
  event := (request.first?_withId given (by decide)).trans invokes.event
  space := (request.first?_withId given (by decide)).trans invokes.space
  binary := (request.first?_withId given (by decide)).trans invokes.binary
  functionId := (request.first?_withId given (by decide)).trans invokes.functionId

theorem Client.Invokes.ofRequest_eq (invokes : client.Invokes id request.headers)
    (reads : Json.parse request.body = .ok data) (stamp : Stamp) :
    Event.ofRequest stamp request = .ok (Event.guessed stamp .invoke data) := by
  rw [invokes.ofRequest_eq_ofNamed (by decide)]
  exact Event.ofNamed_eq_guessed reads

theorem Client.Invokes.filled?_functionId (invokes : client.Invokes id request.headers)
    (named : id.isValid = true) : request.headers.filled? "function-id" = some id.text := by
  have filled : id.text.isEmpty = false := isEmpty_of_isIdentifier named
  rw [Headers.filled?, Headers.text?, invokes.functionId, Option.bind_some,
    text?_of_visible _ (visible_of_isIdentifier named)]
  simp [filled]

end Requests

theorem EventsApi.custom_of_invoke (ctx : Context) (space : String) {request : Request} {e : Event}
    {id : FunctionId} (posted : request.method = "POST") (type : e.type = .invoke)
    (named : request.headers.filled? "function-id" = some id.text) :
    custom ctx space request e = (call ctx space id e relayed).map (⟨·, some .invoke⟩) := by
  have asks : Cors.isPreflight "POST" request.headers = false := by simp [Cors.isPreflight]
  have invocation : e.type.isInvoke = true := by
    rw [type]
    decide
  simp only [custom, posted, asks, ne_eq, not_true_eq_false, invocation, invoke, named,
    Bool.false_eq_true, ↓reduceIte]

theorem EventsApi.custom_eq_emit {ctx : Context} {space : String} {request : Request} {e : Event}
    (posted : request.method = "POST") (invokes : e.type.isInvoke = false)
    (system : e.type.isSystem = false) :
    custom ctx space request e =
      (emit ctx space request.uri.path "POST" e).map (⟨·, some .custom⟩) := by
  have asks : Cors.isPreflight "POST" request.headers = false := by simp [Cors.isPreflight]
  simp only [custom, posted, asks, ne_eq, not_true_eq_false, invokes, system, Bool.false_eq_true,
    ↓reduceIte]

theorem EventsApi.custom_of_unrouted (ctx : Context) (space : String) {request : Request}
    {e : Event} (posted : request.method = "POST") (invokes : e.type.isInvoke = false)
    (system : e.type.isSystem = false)
    (unrouted : ctx.routes.syncTarget space "POST" request.uri.path e.type = none) :
    custom ctx space request e =
      .offer ⟨space, request.uri.path, e⟩ (.done ⟨.ofStatus 202, some .custom⟩) := by
  rw [custom_eq_emit posted invokes system, emit, unrouted]
  rfl

namespace Gateway

section Invocations
variable {σ : Type} (network : Network σ) (world : σ) {g : Gateway} {client : Client}
  {id : FunctionId} {space text : String} {target : Url} {data : Json} {request : Request}

/-- What a gateway makes of an invocation is one call, to the function that is named. -/
theorem exists_perform_answer (backed : g.catalog.provider space id = .ok (.http text))
    (parsed : Url.parse text = .ok target) (callable : target.isCallable = true)
    (posted : request.method = "POST") {ctx : EventsApi.Context} {e : Event}
    (type : e.type = .invoke)
    (here : EventsApi.spaceOf ctx.defaultSpace request.headers = space)
    (named : request.headers.filled? "function-id" = some id.text) : ∃ after : Gateway,
    perform network (EventsApi.answer ctx request e) (g, world) =
      (⟨Cors.allowAll request.headers (EventsApi.relayed (functionResult
          ((network (e.callTo target) world).1.outcome (e.callTo target).url))), some .invoke⟩,
        after, (network (e.callTo target) world).2) := by
  have http : e.type.isHttpRequest = false := by
    rw [type]
    decide
  have kept : (g.offer (.ofSystem space (Event.received (ctx.stamps 1) request.uri.path e
      request.headers.joinedTexts))).catalog.provider space id = .ok (.http text) := by
    rw [catalog_offer, backed]
  obtain ⟨after, made⟩ := exists_perform_call network world kept parsed callable ctx e
    EventsApi.relayed
  simp only [EventsApi.answer, here, http, Bool.false_eq_true, ↓reduceIte, perform_offer,
    perform_map, EventsApi.custom_of_invoke ctx space posted type named, made]
  exact ⟨after, rfl⟩

variable (taken : g.Takes request) (invokes : client.Invokes id request.headers)
  (posted : request.method = "POST") (reads : Json.parse request.body = .ok data)
include taken invokes posted reads

theorem handle_of_invokes :
    EventsApi.handle g.nextContext false (g.identified request) =
      EventsApi.answer g.nextContext (g.identified request)
        (Event.guessed (g.stamps (g.used + 1)) .invoke data) := by
  have arrived : client.Invokes id (g.identified request).headers := invokes.withId _
  have brought : (g.identified request).method = "POST" := method_identified.trans posted
  have fits : ((g.identified request).bodyWithin? g.nextContext.bodyLimit).isSome = true := by
    rw [identified, Request.bodyWithin?_withId]
    exact taken.fits
  have read : Json.parse (g.identified request).body = .ok data := by rwa [body_identified]
  exact handle_eq_answer brought fits (arrived.ofRequest_eq read _)

variable (spaced : ∀ space, client.space = some space → space.toList.all isVisible = true)
  (here : client.addressee g.settings.defaultSpace = space)
include spaced here

/-- Plain data goes to the function with one call, and a good answer is passed on as it is. -/
theorem exists_events_of_plain (named : id.isValid = true)
    (backed : g.catalog.provider space id = .ok (.http text))
    (parsed : Url.parse text = .ok target) (callable : target.isCallable = true)
    (plain : Event.Plain .invoke data) :
    let sent := (Event.make (g.stamps (g.used + 1)) .invoke Event.jsonType data).callTo target
    ∃ (response : Response) (after : Gateway),
      events network request (g, world) = (response, after, (network sent world).2) ∧
      ∀ body, (network sent world).1 = .answered 200 (some body) →
        response.status = 200 ∧ response.body = body := by
  intro sent
  have arrived : client.Invokes id (g.identified request).headers := invokes.withId _
  have brought : (g.identified request).method = "POST" := method_identified.trans posted
  obtain ⟨last, performed⟩ := exists_perform_answer network world
    (g := { g with used := g.used + 5 }) backed parsed callable brought
    (e := Event.make (g.stamps (g.used + 1)) .invoke Event.jsonType data) rfl
    ((arrived.spaceOf_eq spaced g.nextContext.defaultSpace).trans here)
    (arrived.filled?_functionId named)
  rw [← Event.guessed_of_plain plain, ← handle_of_invokes taken invokes posted reads] at performed
  obtain ⟨after, answered⟩ := exists_events network world taken performed
  rw [Event.guessed_of_plain plain] at answered
  refine ⟨_, after, answered, ?_⟩
  intro body replied
  have passed : EventsApi.relayed (functionResult ((network sent world).1.outcome sent.url)) =
      .binary 200 body := by
    rw [replied]
    rfl
  rw [passed]
  exact Cors.finished_allowAll _ (.binary 200 body) brought _

/-- Data that describes an event of its own is emitted: nothing is called unless that event has a
sync subscriber, and the answer is that it was accepted. -/
theorem exists_events_of_described (unwrapped : Event.envelopeData? .invoke data = none) {e : Event}
    (described : Event.validOfJson? data = some e) (invocation : e.type.isInvoke = false)
    (http : e.type.isHttpRequest = false) (system : e.type.isSystem = false)
    (unrouted : g.catalog.routes.syncTarget space "POST" request.uri.path e.type = none) :
    ∃ (response : Response) (after : Gateway),
      events network request (g, world) = (response, after, world) ∧
      response.status = 202 ∧ response.body = [] := by
  have arrived : client.Invokes id (g.identified request).headers := invokes.withId _
  have brought : (g.identified request).method = "POST" := method_identified.trans posted
  have addressed : EventsApi.spaceOf g.nextContext.defaultSpace (g.identified request).headers =
      space :=
    (arrived.spaceOf_eq spaced _).trans here
  have guess : Event.guessed (g.stamps (g.used + 1)) .invoke data = e := by
    rw [Event.guessed, unwrapped, described]
    rfl
  have off : g.nextContext.routes.syncTarget space "POST" (g.identified request).uri.path e.type =
      none := by
    rwa [uri_identified]
  have handled := handle_of_invokes taken invokes posted reads
  rw [guess, EventsApi.answer, addressed, http,
    EventsApi.custom_of_unrouted _ _ brought invocation system off] at handled
  have performed : ∃ last, perform network
      (EventsApi.handle g.nextContext false (g.identified request))
      ({ g with used := g.used + 5 }, world) =
        (⟨Cors.allowAll (g.identified request).headers (.ofStatus 202), some .custom⟩, last,
          world) := by
    rw [handled]
    exact ⟨_, rfl⟩
  obtain ⟨last, performed⟩ := performed
  obtain ⟨after, answered⟩ := exists_events network world taken performed
  exact ⟨_, after, answered, Cors.finished_allowAll _ (.ofStatus 202) brought _⟩

end Invocations
end Gateway

theorem Client.spaced_of_isSpaceName {client : Client} {defaultSpace : String}
    (valid : isSpaceName (client.addressee defaultSpace) = true) (space : String)
    (given : client.space = some space) : space.toList.all isVisible = true := by
  cases empty : space.isEmpty with
  | true =>
      rw [String.isEmpty_iff.mp empty]
      rfl
  | false =>
      have same : client.addressee defaultSpace = space := by
        simp [addressee, given, Option.filter, empty]
      rw [same] at valid
      exact visible_of_isSpaceName valid

/-- Invocations are transparent exactly for data that is taken for what it is. Let a client invoke a
function of its space that is backed by a URL. The call can be made, and the request that brings it
carries an event that is an invocation with this data just if the data neither reads as an envelope
of an invocation nor describes a valid event. Then a gateway that takes the request makes one call,
which brings such an event to the URL of the function, and when the function answers with status 200
and a text of JSON, the client returns what the text says. -/
theorem plain_invocations_are_transparent {g : Gateway} {client : Client} {base : Call}
    {id : FunctionId} {entry : FunctionEntry} {url : String} {data : Json}
    (reachable : g.catalog.Reachable) (addressed : Call.ofUrl? "POST" client.url = .ok base)
    (callable : client.url.isCallable = true)
    (registered : g.catalog.getFunction (client.addressee g.settings.defaultSpace) id = .ok entry)
    (backed : entry.provider = .http url)
    (reads : Json.parse (Text.encode data.compact) = .ok data) :
    ∃ call target, client.invokeCall id.text data = .ok call ∧ Url.parse url = .ok target ∧
      ∀ arrival : Call → Request, CarriesInvocation call (arrival call) →
        (∀ stamp, ∃ e, Event.ofRequest stamp (arrival call) = .ok e ∧
          (e.type = .invoke ∧ e.data = data ↔ Event.Plain .invoke data)) ∧
        (Event.Plain .invoke data → g.Takes (arrival call) →
          ∃ e : Event, e.type = .invoke ∧ e.data = data ∧
            ∀ {σ : Type} (network : Network σ) (world : σ), ∃ result after,
              client.invoke (Gateway.answering network arrival) id.text data (g, world) =
                (result, after, (network (e.callTo target) world).2) ∧
              ∀ text value, (network (e.callTo target) world).1 =
                  .answered 200 (some (Text.encode text)) →
                Json.parse (Text.encode text) = .ok value → result = .ok value) := by
  obtain ⟨valid, named, provider, target, parsed, reached⟩ :=
    reachable.exists_target registered backed
  have spaced := Client.spaced_of_isSpaceName valid
  have made : client.invokeCall id.text data = .ok (client.invocation base id data) :=
    Client.invokeCall_eq addressed named spaced
  have sendable : base.url.isCallable = true := by
    rw [Call.eq_ofUrl addressed]
    exact Call.url_ofUrl_isCallable "POST" callable
  refine ⟨_, target, made, parsed, fun arrival carries => ?_⟩
  have invokes := carries.invokes addressed
  have brings := carries.body.trans reads
  have posted := carries.method.trans (Call.ofUrl?_eq_ok addressed).1
  refine ⟨fun stamp => ⟨_, invokes.ofRequest_eq brings stamp, ?_⟩, fun plain taken => ?_⟩
  · constructor
    · rintro ⟨-, same⟩
      exact (Event.data_guessed_eq_iff (Json.canonical_of_parse reads)).mp same
    · intro plain
      rw [Event.guessed_of_plain plain]
      exact ⟨rfl, rfl⟩
  · refine ⟨.make (g.stamps (g.used + 1)) .invoke Event.jsonType data, rfl, rfl, ?_⟩
    intro σ network world
    obtain ⟨response, after, answered, good⟩ := Gateway.exists_events_of_plain network world taken
      invokes posted brings spaced rfl named provider parsed reached plain
    refine ⟨_, after, Client.invoke_of_events network world made sendable answered, ?_⟩
    intro text value replied written
    obtain ⟨status, body⟩ := good _ replied
    rw [status, body]
    exact Client.invoked_of_parse written

def exampleFunction : FunctionEntry := ⟨"acme", ⟨"crm"⟩, .http "http://[::1]:9000/"⟩

/-- A gateway with a function in the space of the client. -/
def exampleGateway : Gateway where
  settings := .standard
  catalog := Catalog.empty.putFunction exampleFunction
  dispatcher := .start 4 1 .never
  metrics := .empty
  stamps := fun _ => default
  used := 0
  words := []
  running := true

def exampleArrivalOf (call : Call) : Request where
  method := call.method
  uri := ⟨none, none, "/", none⟩
  headers := ⟨"host", Text.encode "localhost:4000"⟩ :: call.headers
  body := call.body

def exampleResult : Json := .object [("answer", .string "fine")]

def exampleScript : Script :=
  ⟨fun _ => [], .answered 200 (some (Text.encode exampleResult.compact))⟩

def exampleQuestion : Json := .object [("question", .string "how are you")]

def exampleEventData : Json :=
  .object [("cloudEventsVersion", .string "0.1"), ("eventID", .string "1"),
    ("eventType", .string "user.created"), ("source", .string "/crm")]

theorem reachable_exampleGateway : exampleGateway.catalog.Reachable := by
  have registered : Catalog.apply .empty (.registerFunction exampleFunction) =
      exampleGateway.catalog := by
    decide +kernel
  exact registered ▸ Catalog.Reachable.next .empty _

section Examples
variable {data : Json}

def exampleInvocation (data : Json) : Call :=
  exampleClient.invocation ⟨"POST", exampleClient.url, [], []⟩ ⟨"crm"⟩ data

theorem exampleClient_addressed :
    Call.ofUrl? "POST" exampleClient.url = .ok ⟨"POST", exampleClient.url, [], []⟩ := rfl

theorem exampleClient_spaced (space : String) (given : exampleClient.space = some space) :
    space.toList.all isVisible = true := by
  cases given
  decide

theorem exampleInvocation_made :
    exampleClient.invokeCall "crm" data = .ok (exampleInvocation data) :=
  Client.invokeCall_eq exampleClient_addressed (show FunctionId.isValid ⟨"crm"⟩ = true by decide)
    exampleClient_spaced

theorem exampleInvocation_carried :
    CarriesInvocation (exampleInvocation data) (exampleArrivalOf (exampleInvocation data)) where
  method := rfl
  fields name read := by
    change Headers.first? ([⟨"host", Text.encode "localhost:4000"⟩] ++ _) name = _
    refine first?_append_of_ne fun field member => ?_
    rw [List.mem_singleton.mp member]
    rintro rfl
    exact absurd read (by decide)
  body := rfl
  functionId := rfl

end Examples

/-- The function is asked what the client asks, and the client is told what the function answers. -/
theorem exampleQuestion_is_answered :
    ∃ (e : Event) (target : Url) (after : Gateway),
      e.type = .invoke ∧ e.data = exampleQuestion ∧
      Url.parse "http://[::1]:9000/" = .ok target ∧
      exampleClient.invoke (Gateway.answering exampleScript.network exampleArrivalOf) "crm"
          exampleQuestion (exampleGateway, []) =
        (.ok exampleResult, after, [e.callTo target]) := by
  have reads : Json.parse (Text.encode exampleQuestion.compact) = .ok exampleQuestion := by
    decide +kernel
  obtain ⟨call, target, made, parsed, arrives⟩ := plain_invocations_are_transparent
    reachable_exampleGateway exampleClient_addressed (by decide +kernel)
    (show exampleGateway.catalog.getFunction (exampleClient.addressee "default") ⟨"crm"⟩ =
      .ok exampleFunction by rfl) rfl reads
  cases made.symm.trans exampleInvocation_made
  have plain : Event.Plain .invoke exampleQuestion := ⟨by decide +kernel, by decide +kernel⟩
  have taken : exampleGateway.Takes (exampleArrivalOf (exampleInvocation exampleQuestion)) :=
    ⟨rfl, by decide, by decide +kernel, by decide +kernel⟩
  obtain ⟨-, transparent⟩ := arrives exampleArrivalOf exampleInvocation_carried
  obtain ⟨e, type, brought, invoked⟩ := transparent plain taken
  obtain ⟨result, after, called, returned⟩ := invoked exampleScript.network []
  have replied : (exampleScript.network (e.callTo target) []).1 =
      .answered 200 (some (Text.encode exampleResult.compact)) := rfl
  have result_eq := returned _ exampleResult replied (by decide +kernel)
  rw [result_eq] at called
  exact ⟨e, target, after, type, brought, parsed, called⟩

/-- The function is registered, the gateway takes requests, and the data of an invocation describes
an event: the client is told that all went well, and no call was made. -/
theorem disguised_invocation_reaches_nobody :
    exampleGateway.catalog.Reachable ∧
      exampleGateway.catalog.getFunction (exampleClient.addressee "default") ⟨"crm"⟩ =
        .ok exampleFunction ∧
      ∃ (call : Call) (after : Gateway),
        exampleClient.invokeCall "crm" exampleEventData = .ok call ∧
        CarriesInvocation call (exampleArrivalOf call) ∧
        exampleGateway.Takes (exampleArrivalOf call) ∧
        exampleClient.invoke (Gateway.answering exampleScript.network exampleArrivalOf) "crm"
            exampleEventData (exampleGateway, []) =
          (.ok .null, after, []) := by
  have taken : exampleGateway.Takes (exampleArrivalOf (exampleInvocation exampleEventData)) :=
    ⟨rfl, by decide, by decide +kernel, by decide +kernel⟩
  have carried : CarriesInvocation (exampleInvocation exampleEventData)
      (exampleArrivalOf (exampleInvocation exampleEventData)) :=
    exampleInvocation_carried
  have reads : Json.parse (Text.encode exampleEventData.compact) = .ok exampleEventData := by
    decide +kernel
  have described : (Event.validOfJson? exampleEventData).map (·.type) = some ⟨"user.created"⟩ := by
    decide +kernel
  obtain ⟨e, valid, type⟩ := Option.map_eq_some_iff.mp described
  obtain ⟨response, after, answered, status, body⟩ := Gateway.exists_events_of_described
    exampleScript.network [] taken (carried.invokes exampleClient_addressed) rfl reads
    exampleClient_spaced rfl (by decide +kernel) valid (by rw [type]; decide) (by rw [type]; decide)
    (by rw [type]; decide) rfl
  have sent := Client.invoke_of_events exampleScript.network [] exampleInvocation_made
    (by decide +kernel) answered
  rw [status, body] at sent
  exact ⟨reachable_exampleGateway, rfl, _, after, exampleInvocation_made, carried, taken, sent⟩

end EventRelay
