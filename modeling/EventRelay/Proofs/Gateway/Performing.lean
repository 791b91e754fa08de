import EventRelay.Gateway.Requests
import EventRelay.Proofs.Catalog.Integrity

set_option autoImplicit false

/-!
What the work for a request does to the world outside. Jobs that are offered stay inside; a call of
a function that is backed by a URL is one call of the network, to this URL.
-/
namespace EventRelay

section Urls
variable {url : Url}

theorem Call.url_ofUrl_isCallable (method : String) (callable : url.isCallable = true) :
    (Call.ofUrl method url).url.isCallable = true := by
  unfold Call.ofUrl
  split
  · exact callable
  · exact callable

theorem Provider.parse_of_validate {text : String}
    (valid : (Provider.http text).validate = .ok ()) :
    ∃ target, Url.parse text = .ok target ∧ target.isCallable = true := by
  simp only [Provider.validate] at valid
  cases parsed : Url.parse text with
  | error e => simp [parsed] at valid
  | ok target =>
      rw [parsed] at valid
      dsimp only at valid
      split at valid
      · exact ⟨target, rfl, ‹_›⟩
      · cases valid

/-- A function that is registered and backed by a URL can be named in fields and called. -/
theorem Catalog.Reachable.exists_target {c : Catalog} (reachable : c.Reachable)
    {space text : String} {id : FunctionId} {entry : FunctionEntry}
    (registered : c.getFunction space id = .ok entry)
    (backed : entry.provider = .http text) :
    isSpaceName space = true ∧ id.isValid = true ∧ c.provider space id = .ok (.http text) ∧
      ∃ target, Url.parse text = .ok target ∧ target.isCallable = true := by
  have found := (Catalog.getFunction_eq_ok_iff ..).mp registered
  obtain ⟨key, valid, named, provided⟩ := reachable.sound.function _ _ (Keyed.mem_of_get? found)
  obtain ⟨rfl, rfl⟩ := Scoped.mk.inj key
  rw [backed] at provided
  refine ⟨valid, named, ?_, Provider.parse_of_validate provided⟩
  rw [Catalog.provider, registered, ← backed]

variable {σ : Type} (network : Network σ) (world : σ)

def Reply.outcome (url : Url) : Reply → Except CallError (Nat × Option Bytes)
  | .lost => .error (.lost url)
  | .answered status body => .ok (status, body)

theorem Call.send_eq {call : Call} (callable : call.url.isCallable = true) :
    call.send network world =
      ((network call world).1.outcome call.url, (network call world).2) := by
  simp only [send, callable, not_true_eq_false, ↓reduceIte, bind, StateT.bind, pure]
  obtain ⟨reply, after⟩ := network call world
  cases reply <;> rfl

theorem callFunction_eq {text : String} (parsed : Url.parse text = .ok url)
    (callable : url.isCallable = true) (e : Event) :
    callFunction network text e world =
      (functionResult ((network (e.callTo url) world).1.outcome (e.callTo url).url),
        (network (e.callTo url) world).2) := by
  have reached : (e.callTo url).url.isCallable = true := Call.url_ofUrl_isCallable "POST" callable
  have sent := Call.send_eq network world reached
  simp only [callFunction, parsed, bind, StateT.bind, sent]
  rfl

end Urls

namespace Gateway

variable {σ α β : Type} (network : Network σ) (g : Gateway) (world : σ)

@[simp] theorem catalog_offer (job : Job) : (g.offer job).catalog = g.catalog := by
  unfold offer
  split <;> rfl

theorem perform_offer (job : Job) (next : Activity α) :
    perform network (.offer job next) (g, world) = perform network next (g.offer job, world) := rfl

theorem perform_andThen (activity : Activity α) (f : α → Activity β) :
    perform network (activity.andThen f) =
      perform network activity >>= fun result => perform network (f result) := by
  induction activity with
  | done result => simp [Activity.andThen, perform]
  | offer job next ih => simp only [Activity.andThen, perform, ih, bind_assoc]
  | invoke space id e next ih => simp only [Activity.andThen, perform, ih, bind_assoc]
  | pause p next ih => simp only [Activity.andThen, perform, ih]

theorem perform_map (f : α → β) (activity : Activity α) (s : Gateway × σ) :
    perform network (activity.map f) s =
      (f (perform network activity s).1, (perform network activity s).2) := by
  rw [Activity.map, perform_andThen]
  rfl

section Backed
variable {g} {space text : String} {id : FunctionId} {target : Url}
  (backed : g.catalog.provider space id = .ok (.http text))
  (parsed : Url.parse text = .ok target) (callable : target.isCallable = true)
include backed parsed callable

theorem exists_call (e : Event) : ∃ after : Gateway,
    call network space id e (g, world) =
      (functionResult ((network (e.callTo target) world).1.outcome (e.callTo target).url), after,
        (network (e.callTo target) world).2) := by
  have here : g.catalog.targetUrl space id g.words = (.ok text, g.words) := by
    rw [Catalog.targetUrl, backed]
  simp only [call, here, callFunction_eq network world parsed callable]
  exact ⟨_, rfl⟩

theorem exists_perform_call (ctx : EventsApi.Context) (e : Event)
    (respond : Except FunctionError Bytes → Response) : ∃ after : Gateway,
    perform network (EventsApi.call ctx space id e respond) (g, world) =
      (respond (functionResult
          ((network (e.callTo target) world).1.outcome (e.callTo target).url)), after,
        (network (e.callTo target) world).2) := by
  -- what is offered before the call leaves the catalog as it is
  have kept : (g.offer (.ofSystem space
      (Event.invoking (ctx.stamps.after 2 0) space id e))).catalog.provider space id =
      .ok (.http text) := by
    rw [catalog_offer, backed]
  obtain ⟨called, made⟩ := exists_call network world kept parsed callable e
  simp only [EventsApi.call, Activity.announced, perform_offer]
  simp only [perform, bind, StateT.bind, made]
  exact ⟨_, rfl⟩

end Backed
end Gateway

section Ids
variable (request : Request) (id : String)

theorem Request.first?_withId {name : String} (other : name ≠ requestIdName) :
    (request.withId id).headers.first? name = request.headers.first? name := by
  unfold withId
  split
  · rfl
  · simp [Headers.first?, Headers.append, List.find?_append, other.symm]

@[simp] theorem Request.method_withId : (request.withId id).method = request.method := by
  unfold withId
  split <;> rfl

@[simp] theorem Request.uri_withId : (request.withId id).uri = request.uri := by
  unfold withId
  split <;> rfl

@[simp] theorem Request.body_withId : (request.withId id).body = request.body := by
  unfold withId
  split <;> rfl

@[simp] theorem Request.declaredLength?_withId :
    (request.withId id).declaredLength? = request.declaredLength? := by
  unfold declaredLength? Headers.text?
  rw [first?_withId _ _ (by decide)]

theorem Request.bodyWithin?_withId (limit : Nat) :
    (request.withId id).bodyWithin? limit = request.bodyWithin? limit := by
  unfold bodyWithin? bodyUpTo?
  rw [declaredLength?_withId, body_withId]

variable (response : Response)

theorem Response.status_finished : (response.finished request).status = response.status := by
  have kept : (response.withIdOf request).status = response.status := by
    unfold withIdOf
    split
    · rfl
    · split <;> rfl
  rw [finished, sentTo]
  split <;> exact kept

theorem Response.finished_same (posted : request.method = "POST") :
    (response.finished request).status = response.status ∧
      (response.finished request).body = response.body := by
  refine ⟨status_finished request response, ?_⟩
  have whole : ("POST" == "HEAD") = false := by decide
  simp only [finished, sentTo, posted, whole, Bool.false_eq_true, ↓reduceIte]
  unfold withIdOf
  split
  · rfl
  · split <;> rfl

theorem Cors.allowAll_same (headers : Headers) :
    (allowAll headers response).status = response.status ∧
      (allowAll headers response).body = response.body := by
  unfold allowAll
  split <;> exact ⟨rfl, rfl⟩

/-- What is done to the answer to a custom event on its way out leaves status and body alone. -/
theorem Cors.finished_allowAll (posted : request.method = "POST") (headers : Headers) :
    ((allowAll headers response).finished request).status = response.status ∧
      ((allowAll headers response).finished request).body = response.body := by
  obtain ⟨status, body⟩ := Response.finished_same request (allowAll headers response) posted
  obtain ⟨kept, same⟩ := allowAll_same response headers
  exact ⟨status.trans kept, body.trans same⟩

end Ids

namespace Gateway

variable {σ : Type} (network : Network σ) {g : Gateway} (world : σ) {request : Request}

/-- What is asked of a request before its event is looked at: the intake is open, the path begins
with a slash, and the body is not too long. -/
structure Takes (g : Gateway) (request : Request) : Prop where
  accepting : g.dispatcher.draining = false
  path : Text.beginsWith "/" request.uri.path = true
  declared : request.declaresOver g.settings.limits.maxBodySize.toNat = false
  fits : (request.bodyWithin? g.settings.limits.maxBodySize.toNat).isSome = true

/-- The next request with the id that it gets unless it has one. -/
def identified (g : Gateway) (request : Request) : Request := request.withId (g.stamps g.used).id

@[simp] theorem method_identified : (g.identified request).method = request.method :=
  Request.method_withId ..

@[simp] theorem uri_identified : (g.identified request).uri = request.uri := Request.uri_withId ..

@[simp] theorem body_identified : (g.identified request).body = request.body :=
  Request.body_withId ..

/-- What the handler of the next request works with; one stamp goes into the id of the request. -/
def nextContext (g : Gateway) : EventsApi.Context :=
  ⟨g.catalog.routes, g.settings.defaultSpace, g.settings.limits.maxBodySize.toNat,
    g.stamps.after (g.used + 1)⟩

/-- A request that is taken goes to its handler, and what the handler does outside is all that is
done there. -/
theorem exists_events (taken : g.Takes request) {answer : EventsApi.Answer} {last : Gateway}
    {outside : σ}
    (handled : perform network (EventsApi.handle g.nextContext false (g.identified request))
      ({ g with used := g.used + 5 }, world) = (answer, last, outside)) :
    ∃ after : Gateway, events network request (g, world) =
      (answer.response.finished (g.identified request), after, outside) := by
  have declared : (request.withId (g.stamps g.used).id).declaresOver
      g.settings.limits.maxBodySize.toNat = false := by
    rw [Request.declaresOver, Request.declaredLength?_withId]
    exact taken.declared
  have path : Text.beginsWith "/" (request.withId (g.stamps g.used).id).uri.path = true := by
    rw [Request.uri_withId]
    exact taken.path
  have made : ∃ after : Gateway, events network request (g, world) =
      let handled := perform network (EventsApi.handle g.nextContext false (g.identified request))
        ({ g with used := g.used + 5 }, world)
      (handled.1.response.finished (g.identified request), after, handled.2.2) := by
    unfold events eventsInner
    simp only [bind, StateT.bind, get, getThe, MonadStateOf.get, StateT.get, set, takeStamps,
      Stamps.after, Nat.add_zero]
    unfold StateT.set
    simp only [pure, declared, path, taken.accepting, Bool.false_eq_true, not_true_eq_false,
      ↓reduceIte]
    exact ⟨_, rfl⟩
  rwa [handled] at made

/-- The network on which a gateway answers, every call coming to it as some request. -/
def answering (network : Network σ) (arrival : Call → Request) : Network (Gateway × σ) :=
  fun call => do
    let response ← events network (arrival call)
    return .answered response.status (some response.body)

end Gateway
end EventRelay
