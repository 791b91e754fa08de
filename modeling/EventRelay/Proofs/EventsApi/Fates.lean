import EventRelay.Proofs.Dispatch.Attempts
import EventRelay.Proofs.EventsApi.Calls
import EventRelay.Proofs.EventsApi.Origins

set_option autoImplicit false

/-!
What becomes of a request. One that is turned away leaves nothing behind. The event of any other is
told of, and then meets one of three fates: one call of a function, with an announcement before it
and one after it, one place in the queue, or neither.
-/
namespace EventRelay

open Activity (Trace)

/-- What becomes of an event after it has been received. -/
inductive Fate where
  /-- A function is called, and this event is given to it. -/
  | called (id : FunctionId) (given : Event)
  | queued
  /-- It is answered, and that is all. -/
  | answered

namespace Fate

/-- What is seen of a fate. The call comes out as given; the job is the event as it was received,
with its space and its path. -/
def trace (stamps : Stamps) (job : Job) (outcome : Except FunctionError Bytes) : Fate → List Trace
  | .called id given =>
    let told : Job := { job with event := given }
    [.offered (.ofSystem job.space (Event.invoking (stamps 2) job.space id given)),
      told.call id outcome,
      .offered (.ofSystem job.space (told.conclusion id (stamps 3) outcome))]
  | .queued => [.offered job]
  | .answered => []

/-- A function that is called gets the event, and with a plain request what its route captured; none
gets one of the gateway's own events here. -/
def Gives (e : Event) (fate : Fate) : Prop :=
  ∀ id given, fate = .called id given → e.type.isSystem = false ∧
    (given = e ∨ e.type = .httpRequest ∧ ∃ params, given = EventsApi.withParams e params)

section Traces
variable {stamps : Stamps} {job : Job} {outcome : Except FunctionError Bytes}

theorem trace_inj {fate other : Fate}
    (same : fate.trace stamps job outcome = other.trace stamps job outcome) : fate = other := by
  cases fate <;> cases other <;> simp_all [trace, Job.call]

/-- The gateway tells of a call in events of its own, which tell of nothing that was received. -/
theorem own_of_offered {id : FunctionId} {given : Event} {offered : Job}
    (shown : .offered offered ∈ (called id given).trace stamps job outcome) :
    offered.event.Own ∧ offered.event.type.name ≠ "gateway.event.received" := by
  have invoking : EventType.systemStart ++ "function.invoking" ≠ "gateway.event.received" := by
    decide
  have invoked : EventType.systemStart ++ "function.invoked" ≠ "gateway.event.received" := by decide
  have failed :
      EventType.systemStart ++ "function.invocationFailed" ≠ "gateway.event.received" := by
    decide
  simp only [trace, Job.call, List.mem_cons, Trace.offered.injEq, reduceCtorEq, List.not_mem_nil,
    or_false, false_or] at shown
  rcases shown with rfl | rfl
  · exact ⟨.invoking .., invoking⟩
  · cases outcome with
    | ok result => exact ⟨.invoked .., invoked⟩
    | error error => exact ⟨.invocationFailed .., failed⟩

end Traces
end Fate

namespace EventsApi

variable {α β : Type} {ctx : Context} {request : Request} {e given : Event} {job : Job}
  {fate : Fate}

/-- However the call of an activity comes out, if it makes one, no more is seen of it than of the
fate, and it comes to an end. -/
def Meets (ctx : Context) (job : Job) (fate : Fate) (activity : Activity α) : Prop :=
  ∀ outcome rest, ∃ result,
    activity.run (outcome :: rest) = (fate.trace ctx.stamps job outcome, some result)

section Handlers

theorem Meets.map {activity : Activity α} (meets : Meets ctx job fate activity) (f : α → β) :
    Meets ctx job fate (activity.map f) := by
  intro outcome rest
  obtain ⟨result, run⟩ := meets outcome rest
  exact ⟨f result, by rw [Activity.run_map, run, Option.map_some]⟩

theorem meets_done (result : α) : Meets ctx job .answered (.done result) :=
  fun _ _ => ⟨result, rfl⟩

theorem meets_call (id : FunctionId) (respond : Except FunctionError Bytes → Response) :
    Meets ctx job (.called id given) (call ctx job.space id given respond) := by
  intro outcome rest
  refine ⟨respond outcome, ?_⟩
  cases outcome <;> rfl

/-- An event of an activity's job has a fate other than the queue. -/
def Settles (ctx : Context) (job : Job) (activity : Activity α) : Prop :=
  ∃ fate : Fate, fate ≠ .queued ∧ fate.Gives job.event ∧ Meets ctx job fate activity

theorem Settles.map {activity : Activity α} (settles : Settles ctx job activity) (f : α → β) :
    Settles ctx job (activity.map f) := by
  obtain ⟨fate, unqueued, gives, meets⟩ := settles
  exact ⟨fate, unqueued, gives, meets.map f⟩

theorem settles_done (result : α) : Settles ctx job (.done result) :=
  ⟨.answered, nofun, nofun, meets_done result⟩

theorem settles_call (foreign : job.event.type.isSystem = false) (id : FunctionId)
    (gives : given = job.event ∨ job.event.type = .httpRequest ∧
      ∃ params, given = withParams job.event params)
    (respond : Except FunctionError Bytes → Response) :
    Settles ctx job (call ctx job.space id given respond) := by
  refine ⟨.called id given, nofun, ?_, meets_call id respond⟩
  rintro _ _ ⟨⟩
  exact ⟨foreign, gives⟩

theorem settles_invoke (foreign : job.event.type.isSystem = false) (headers : Headers) :
    Settles ctx job (invoke ctx job.space headers job.event) := by
  unfold invoke
  split
  · exact settles_done _
  · exact settles_call foreign _ (.inl rfl) _

theorem settles_emit (foreign : job.event.type.isSystem = false) {method : String}
    (routed : ctx.routes.syncTarget job.space method job.path job.event.type ≠ none) :
    Settles ctx job (emit ctx job.space job.path method job.event) := by
  unfold emit
  split
  · exact settles_call foreign _ (.inl rfl) _
  · rename_i none
    exact absurd none routed

theorem settles_sync (plain : job.event.type = .httpRequest) :
    Settles ctx job (sync ctx job.space request job.event) := by
  have foreign : job.event.type.isSystem = false := by
    rw [plain]
    decide
  unfold sync
  dsimp only
  split
  · exact settles_done _
  · split
    · exact settles_call foreign _ (.inr ⟨plain, _, rfl⟩) _
    · split
      · exact settles_done _
      · exact settles_call foreign _ (.inr ⟨plain, _, rfl⟩) _

end Handlers

/-- A request whose event is received: it does not ask beforehand for an event, its body is not too
long, and it carries an event. -/
structure Receives (ctx : Context) (request : Request) (e : Event) : Prop where
  unnamed : Cors.isEventPreflight request.method request.headers = false
  within : (request.bodyWithin? ctx.bodyLimit).isSome = true
  carried : Event.ofRequest (ctx.stamps 0) request = .ok e

/-- The event of a request, with its space and its path. -/
def arrival (ctx : Context) (request : Request) (e : Event) : Job :=
  ⟨spaceOf ctx.defaultSpace request.headers, request.uri.path, e⟩

/-- By what the gateway tells that it has received an event. -/
def receipt (ctx : Context) (request : Request) (e : Event) : Job :=
  .ofSystem (spaceOf ctx.defaultSpace request.headers)
    (Event.received (ctx.stamps 1) request.uri.path e request.headers.joinedTexts)

/-- An event that is for the queue: it comes by POST, is neither a plain request nor an invocation
nor one of the gateway's own, and no function is there to answer it. -/
structure ForQueue (ctx : Context) (request : Request) (e : Event) : Prop where
  posted : request.method = "POST"
  other : e.type.isHttpRequest = false
  emitted : e.type.isInvoke = false
  foreign : e.type.isSystem = false
  unrouted : ctx.routes.syncTarget (spaceOf ctx.defaultSpace request.headers) "POST"
    request.uri.path e.type = none

section Requests

theorem settles_custom (other : e.type.isHttpRequest = false) (kept : ¬ ForQueue ctx request e) :
    Settles ctx (arrival ctx request e)
      (custom ctx (spaceOf ctx.defaultSpace request.headers) request e) := by
  unfold custom
  split
  · exact settles_done _
  · split
    · exact settles_done _
    · rename_i posted
      have posted := not_not.mp posted
      split
      · rename_i invokes
        have foreign : (arrival ctx request e).event.type.isSystem = false :=
          Bool.eq_false_iff.mpr fun (system : e.type.isSystem = true) => by
            rw [EventType.isInvoke_eq_false system] at invokes
            cases invokes
        exact (settles_invoke foreign _).map _
      · rename_i emitted
        split
        · exact settles_done _
        · rename_i foreign
          have foreign : (arrival ctx request e).event.type.isSystem = false :=
            Bool.eq_false_iff.mpr foreign
          have routed :
              ctx.routes.syncTarget (spaceOf ctx.defaultSpace request.headers) request.method
              request.uri.path e.type ≠ none := by
            intro unrouted
            rw [posted] at unrouted
            exact kept ⟨posted, other, Bool.eq_false_iff.mpr emitted, foreign, unrouted⟩
          exact (settles_emit foreign routed).map _

theorem handle_eq_offer (receives : Receives ctx request e) :
    handle ctx false request = .offer (receipt ctx request e)
      (if e.type.isHttpRequest then
        (sync ctx (spaceOf ctx.defaultSpace request.headers) request e).map (⟨·, some .http⟩)
      else
        (custom ctx (spaceOf ctx.defaultSpace request.headers) request e).map fun a =>
          { a with response := Cors.allowAll request.headers a.response }) := by
  obtain ⟨body, fits⟩ := Option.isSome_iff_exists.mp receives.within
  simp only [handle, receives.unnamed, fits, receives.carried, Bool.false_eq_true, ↓reduceIte]
  rfl

theorem exists_fate_of_not_forQueue (receives : Receives ctx request e)
    (kept : ¬ ForQueue ctx request e) :
    ∃ fate : Fate, fate ≠ .queued ∧ fate.Gives e ∧ ∃ next,
      handle ctx false request = .offer (receipt ctx request e) next ∧
        Meets ctx (arrival ctx request e) fate next := by
  have handled := handle_eq_offer receives
  cases http : e.type.isHttpRequest with
  | true =>
      have plain : e.type = .httpRequest := by simpa [EventType.isHttpRequest] using http
      have settles : Settles ctx (arrival ctx request e)
          (sync ctx (spaceOf ctx.defaultSpace request.headers) request e) := settles_sync plain
      obtain ⟨fate, unqueued, gives, meets⟩ :=
        settles.map fun response => (⟨response, some .http⟩ : Answer)
      rw [http, if_pos rfl] at handled
      exact ⟨fate, unqueued, gives, _, handled, meets⟩
  | false =>
      obtain ⟨fate, unqueued, gives, meets⟩ := (settles_custom http kept).map fun a =>
        { a with response := Cors.allowAll request.headers a.response }
      rw [http, if_neg Bool.false_ne_true] at handled
      exact ⟨fate, unqueued, gives, _, handled, meets⟩

theorem handle_of_forQueue (receives : Receives ctx request e) (queued : ForQueue ctx request e) :
    handle ctx false request = .offer (receipt ctx request e) (.offer (arrival ctx request e)
      (.done ⟨Cors.allowAll request.headers (.ofStatus 202), some .custom⟩)) := by
  rw [handle_eq_offer receives, queued.other, if_neg Bool.false_ne_true,
    custom_of_unrouted _ _ queued.posted queued.emitted queued.foreign queued.unrouted]
  rfl

/-- A request that is turned away leaves nothing behind. -/
theorem handle_of_not_receives (turned : ∀ e, ¬ Receives ctx request e) :
    ∃ answer, handle ctx false request = .done answer := by
  unfold handle
  rw [if_neg Bool.false_ne_true]
  split
  · exact ⟨_, rfl⟩
  · rename_i unnamed
    split
    · exact ⟨_, rfl⟩
    · rename_i within
      split
      · exact ⟨_, rfl⟩
      · rename_i e carried
        exact absurd ⟨Bool.eq_false_iff.mpr unnamed, by rw [within]; rfl, carried⟩ (turned e)

/-- Every run of the handler shows that the event was received and then the fate, and comes to an
end; that an event waits is answered by 202. -/
def EndsIn (ctx : Context) (request : Request) (e : Event) (fate : Fate) : Prop :=
  ∀ outcome rest, ∃ answer,
    (handle ctx false request).run (outcome :: rest) =
      (.offered (receipt ctx request e) ::
        fate.trace ctx.stamps (arrival ctx request e) outcome, some answer) ∧
    (fate = .queued → answer.response.status = 202)

theorem EndsIn.of_meets {next : Activity Answer}
    (handled : handle ctx false request = .offer (receipt ctx request e) next)
    (meets : Meets ctx (arrival ctx request e) fate next) (unqueued : fate ≠ .queued) :
    EndsIn ctx request e fate := by
  intro outcome rest
  obtain ⟨answer, run⟩ := meets outcome rest
  refine ⟨answer, ?_, fun queued => absurd queued unqueued⟩
  rw [handled, Activity.run, run]

theorem endsIn_queued (receives : Receives ctx request e) (queued : ForQueue ctx request e) :
    EndsIn ctx request e .queued := by
  intro outcome rest
  refine ⟨⟨Cors.allowAll request.headers (.ofStatus 202), some .custom⟩, ?_, fun _ =>
    (Cors.allowAll_same (.ofStatus 202) request.headers).1⟩
  rw [handle_of_forQueue receives queued]
  rfl

theorem EndsIn.eq {other : Fate} (ends : EndsIn ctx request e fate)
    (also : EndsIn ctx request e other) : other = fate := by
  obtain ⟨first, run, -⟩ := ends (.ok []) []
  obtain ⟨second, again, -⟩ := also (.ok []) []
  rw [run] at again
  exact (Fate.trace_inj (List.cons.inj (Prod.mk.inj again).1).2).symm

theorem exists_endsIn (receives : Receives ctx request e) :
    ∃ fate, EndsIn ctx request e fate ∧ (fate = .queued ↔ ForQueue ctx request e) ∧
      fate.Gives e := by
  by_cases queued : ForQueue ctx request e
  · exact ⟨.queued, endsIn_queued receives queued, by simp [queued], nofun⟩
  · obtain ⟨fate, unqueued, gives, next, handled, meets⟩ :=
      exists_fate_of_not_forQueue receives queued
    exact ⟨fate, .of_meets handled meets unqueued, by simp [unqueued, queued], gives⟩

theorem offered_after_receipt (kind : fate = .queued ↔ ForQueue ctx request e)
    (gives : fate.Gives e) {outcome : Except FunctionError Bytes} {offered : Job}
    (shown : .offered offered ∈ fate.trace ctx.stamps (arrival ctx request e) outcome) :
    offered.event.type.name ≠ "gateway.event.received" ∧ (fate ≠ .queued → offered.event ≠ e) := by
  cases fate with
  | called id given =>
      obtain ⟨own, other⟩ := Fate.own_of_offered shown
      refine ⟨other, fun _ same => ?_⟩
      have system := own.isSystem
      rw [same, (gives id given rfl).1] at system
      cases system
  | queued =>
      cases List.mem_singleton.mp shown
      refine ⟨?_, fun unqueued => absurd rfl unqueued⟩
      intro (named : e.type.name = "gateway.event.received")
      have system : e.type.isSystem = true := by
        rw [EventType.isSystem, named]
        decide
      rw [(kind.mp rfl).foreign] at system
      cases system
  | answered => cases shown

/-- Every request has one fate. A gateway whose intake is open turns a request away, by an answer
alone, if it asks beforehand for an event, is too long or carries none. It tells of the event of any
other, and the event then ends in exactly one way, however the function's call comes out: a function
is called, and that is told of once before and once after; or the event is put into the queue under
the space and the path of the request; or neither. It is put into the queue exactly if it comes by
POST, is neither a plain request nor an invocation nor one of the gateway's own, and no sync
subscription is there for it, and this is answered by 202. No other receipt is ever given, and an
event that is not for the queue does not get there. -/
theorem requests_have_one_fate (ctx : Context) (request : Request) :
    (Cors.isEventPreflight request.method request.headers = true ∨
        request.bodyWithin? ctx.bodyLimit = none ∨
        (∃ cause, Event.ofRequest (ctx.stamps 0) request = .error cause) →
      ∃ answer, ∀ outcomes, (handle ctx false request).run outcomes = ([], some answer)) ∧
    ∀ e, Receives ctx request e →
      (∃! fate, EndsIn ctx request e fate) ∧
      ∀ fate, EndsIn ctx request e fate →
        (fate = .queued ↔ ForQueue ctx request e) ∧ fate.Gives e ∧
        ∀ outcome offered,
          .offered offered ∈ fate.trace ctx.stamps (arrival ctx request e) outcome →
            offered.event.type.name ≠ "gateway.event.received" ∧
            (fate ≠ .queued → offered.event ≠ e) := by
  constructor
  · intro turned
    have none : ∀ e, ¬ Receives ctx request e := by
      rintro e ⟨unnamed, within, carried⟩
      rcases turned with asks | long | ⟨cause, refused⟩
      · exact Bool.false_ne_true (unnamed.symm.trans asks)
      · rw [long] at within
        cases within
      · cases carried.symm.trans refused
    obtain ⟨answer, done⟩ := handle_of_not_receives none
    refine ⟨answer, fun outcomes => ?_⟩
    rw [done, Activity.run]
  · intro e receives
    obtain ⟨only, ends, kind, gives⟩ := exists_endsIn receives
    refine ⟨⟨only, ends, fun other also => ends.eq also⟩, ?_⟩
    intro fate also
    cases ends.eq also
    exact ⟨kind, gives, fun outcome offered shown => offered_after_receipt kind gives shown⟩

end Requests

def exampleAsking : Request where
  method := "OPTIONS"
  uri := ⟨none, none, "/", none⟩
  headers := [⟨"access-control-request-method", Text.encode "POST"⟩,
    ⟨"access-control-request-headers", Text.encode "Content-Type, Event"⟩]
  body := []

/-- A question beforehand is answered and nothing else is done; the event after it waits in its
space. -/
theorem exampleArrival_has_one_fate :
    (∃ answer, (handle exampleContext false exampleAsking).run [] = ([], some answer)) ∧
    ∃ e answer, e.type = ⟨"user.created"⟩ ∧
      (handle exampleContext false exampleArrival).run [.ok []] =
        ([.offered (receipt exampleContext exampleArrival e), .offered ⟨"acme", "/", e⟩],
          some answer) ∧
      answer.response.status = 202 := by
  have asks : Cors.isEventPreflight exampleAsking.method exampleAsking.headers = true := by
    let asked : HeaderField := ⟨"access-control-request-headers", Text.encode "Content-Type, Event"⟩
    have found : exampleAsking.headers.getAll "access-control-request-headers" = [asked] := rfl
    have read : asked.text? = some "Content-Type, Event" := by decide +kernel
    have listed : Cors.listed "Content-Type, Event" = ["Content-Type", "Event"] := by decide +kernel
    have same : Text.sameIgnoringCase "event" "Event" = true := by
      rw [Text.sameIgnoringCase_iff, ← String.toList_inj, Text.toList_lower, Text.toList_lower]
      decide
    rw [Cors.isEventPreflight, found]
    simp [read, listed, same, exampleAsking]
  obtain ⟨answer, turned⟩ := (requests_have_one_fate exampleContext exampleAsking).1 (.inl asks)
  refine ⟨⟨answer, turned []⟩, ?_⟩
  have carried : (Event.ofRequest default exampleArrival).toOption.map (·.type) =
      some ⟨"user.created"⟩ := by decide +kernel
  obtain ⟨e, ok, type⟩ := Option.map_eq_some_iff.mp carried
  have receives : Receives exampleContext exampleArrival e :=
    ⟨by decide +kernel, by decide +kernel, (toOption_eq_some_iff ..).mp ok⟩
  have place : arrival exampleContext exampleArrival e = ⟨"acme", "/", e⟩ := by
    rw [arrival]
    congr 1
  have queued : ForQueue exampleContext exampleArrival e :=
    ⟨rfl, by rw [type]; decide, by rw [type]; decide, by rw [type]; decide, rfl⟩
  obtain ⟨⟨fate, ends, -⟩, known⟩ :=
    (requests_have_one_fate exampleContext exampleArrival).2 e receives
  obtain ⟨kind, -⟩ := known fate ends
  cases kind.mpr queued
  obtain ⟨answer, run, accepted⟩ := ends (.ok []) []
  rw [place] at run
  exact ⟨e, answer, type, run, accepted rfl⟩

end EventsApi
end EventRelay
