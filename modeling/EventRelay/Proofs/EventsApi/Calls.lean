import EventRelay.Proofs.EventsApi.Invocation
import EventRelay.Proofs.EventsApi.Preflights

set_option autoImplicit false

/-!
Which functions a request has called. The routes have a part in it only by one lookup, under a
method and a type for which requests are led along routes; so tables that agree there are used
alike, and what the lookup finds is what is called.
-/
namespace EventRelay

namespace Activity

variable {α β : Type} {activity next : Activity α} {space : String} {id : FunctionId}

/-- Whether some run of an activity calls a function. -/
def Calls (activity : Activity α) (space : String) (id : FunctionId) : Prop :=
  ∃ outcomes e outcome, .invoked space id e outcome ∈ (run outcomes activity).1

@[simp] theorem not_calls_done (result : α) : ¬ (done result).Calls space id := by
  rintro ⟨outcomes, e, outcome, member⟩
  simp [run] at member

@[simp] theorem calls_offer (job : Job) :
    (offer job next).Calls space id ↔ next.Calls space id := by
  simp [Calls, run]

theorem run_map (f : α → β) (outcomes : List (Except FunctionError Bytes)) :
    run outcomes (activity.map f) =
      ((run outcomes activity).1, (run outcomes activity).2.map f) := by
  rw [map]
  induction activity generalizing outcomes with
  | done result => simp [andThen, run]
  | offer job next ih => simp [andThen, run, ih]
  | invoke space id e next ih => cases outcomes <;> simp [andThen, run, ih]
  | pause p next ih => simp [andThen, run, ih]

@[simp] theorem calls_map (f : α → β) :
    (activity.map f).Calls space id ↔ activity.Calls space id := by
  simp only [Calls, run_map]

end Activity

/-- Whether requests of a method that carry an event of a type are led along routes: plain ones by
any method, and others by POST alone, unless it is an invocation or the gateway's own event. -/
def EventType.IsRouted (type : EventType) (method : String) : Prop :=
  type = .httpRequest ∨ (method = "POST" ∧ type.isInvoke = false ∧ type.isSystem = false)

namespace EventsApi

section Found
variable {ctx : Context} {request : Request} {e : Event} {space here : String} {id : FunctionId}

def Finds (routes : RoutingTable) (space method path : String) (type : EventType)
    (id : FunctionId) : Prop :=
  ∃ target params, routes.syncTarget space method path type = some (target, params) ∧
    target.functionId = id

theorem calls_call_iff {called : FunctionId} {respond : Except FunctionError Bytes → Response} :
    (call ctx here called e respond).Calls space id ↔ space = here ∧ id = called := by
  constructor
  · rintro ⟨outcomes, event, outcome, member⟩
    cases outcomes <;> simp [call, Activity.announced, Activity.run] at member
    exact ⟨member.1, member.2.1⟩
  · rintro ⟨rfl, rfl⟩
    exact ⟨[.ok []], e, .ok [], by simp [call, Activity.announced, Activity.run]⟩

theorem calls_emit_iff {method path : String} :
    (emit ctx here path method e).Calls space id ↔
      space = here ∧ Finds ctx.routes here method path e.type id := by
  unfold emit Finds
  cases ctx.routes.syncTarget here method path e.type with
  | none => simp
  | some found =>
      obtain ⟨target, params⟩ := found
      simp [calls_call_iff, eq_comm]

theorem calls_sync_iff (plain : Cors.isPreflight request.method request.headers = false) :
    (sync ctx here request e).Calls space id ↔
      space = here ∧ Finds ctx.routes here request.method request.uri.path e.type id := by
  unfold sync Finds
  simp only [Cors.effectiveMethod_of_plain plain]
  cases ctx.routes.syncTarget here request.method request.uri.path e.type with
  | none => simp
  | some found =>
      obtain ⟨target, params⟩ := found
      cases settings : target.cors <;> simp [settings, plain, calls_call_iff, eq_comm]

end Found

section Requests
variable (ctx : Context) {request : Request} {e : Event} {space : String} {id : FunctionId}

theorem calls_handle_iff_of_plain
    (unnamed : Cors.isEventPreflight request.method request.headers = false)
    (plain : Cors.isPreflight request.method request.headers = false)
    (within : (request.bodyWithin? ctx.bodyLimit).isSome = true)
    (carried : Event.ofRequest (ctx.stamps 0) request = .ok e) (type : e.type = .httpRequest) :
    (handle ctx false request).Calls space id ↔
      space = spaceOf ctx.defaultSpace request.headers ∧
        Finds ctx.routes (spaceOf ctx.defaultSpace request.headers) request.method request.uri.path
          .httpRequest id := by
  rw [handle_eq_sync unnamed within carried type, Activity.calls_offer, Activity.calls_map,
    calls_sync_iff plain, type]

/-- An event of another type that comes by POST has the function called that a lookup finds, unless
none is made for its type. -/
theorem calls_handle_iff_of_posted (posted : request.method = "POST")
    (within : (request.bodyWithin? ctx.bodyLimit).isSome = true)
    (carried : Event.ofRequest (ctx.stamps 0) request = .ok e)
    (other : e.type.isHttpRequest = false) (invokes : e.type.isInvoke = false)
    (system : e.type.isSystem = false) :
    (handle ctx false request).Calls space id ↔
      space = spaceOf ctx.defaultSpace request.headers ∧
        Finds ctx.routes (spaceOf ctx.defaultSpace request.headers) "POST" request.uri.path e.type
          id := by
  simp only [handle_eq_answer posted within carried, answer, other, custom_eq_emit posted invokes
    system, Activity.calls_offer, Activity.calls_map, calls_emit_iff, Bool.false_eq_true,
    ↓reduceIte]

end Requests

section Agreement
variable {ctx : Context} {request : Request} {e : Event} {space : String} {others : RoutingTable}

theorem sync_congr (type : e.type = .httpRequest)
    (same : ∀ method type, type.IsRouted method →
      others.syncTarget space method request.uri.path type =
        ctx.routes.syncTarget space method request.uri.path type) :
    sync { ctx with routes := others } space request e = sync ctx space request e := by
  unfold sync
  simp only [same _ _ (Or.inl type), call]

theorem custom_congr
    (same : ∀ method type, type.IsRouted method →
      others.syncTarget space method request.uri.path type =
        ctx.routes.syncTarget space method request.uri.path type) :
    custom { ctx with routes := others } space request e = custom ctx space request e := by
  by_cases routed : request.method = "POST" ∧ e.type.isInvoke = false ∧ e.type.isSystem = false
  · obtain ⟨posted, invokes, system⟩ := routed
    rw [custom_eq_emit posted invokes system, custom_eq_emit posted invokes system, emit, emit,
      same _ _ (Or.inr ⟨rfl, invokes, system⟩)]
    rfl
  · -- nothing is emitted
    unfold custom
    by_cases posted : request.method = "POST"
    · cases invokes : e.type.isInvoke with
      | true => rfl
      | false =>
          cases system : e.type.isSystem with
          | true => rfl
          | false => exact absurd ⟨posted, invokes, system⟩ routed
    · simp only [posted, ne_eq, not_false_eq_true, ↓reduceIte]

/-- Of the routes no more has a part than what is found for types that are led along them. -/
theorem handle_congr
    (same : ∀ method type, type.IsRouted method →
      others.syncTarget (spaceOf ctx.defaultSpace request.headers) method request.uri.path type =
        ctx.routes.syncTarget (spaceOf ctx.defaultSpace request.headers) method request.uri.path
          type) :
    handle { ctx with routes := others } false request = handle ctx false request := by
  have answered : ∀ e, answer { ctx with routes := others } request e = answer ctx request e := by
    intro e
    unfold answer
    cases plain : e.type.isHttpRequest with
    | true =>
        have type : e.type = .httpRequest := by simpa [EventType.isHttpRequest] using plain
        simp only [sync_congr type same, ↓reduceIte]
    | false => simp only [custom_congr same, Bool.false_eq_true, ↓reduceIte]
  simp only [handle, answered]

end Agreement
end EventsApi
end EventRelay
