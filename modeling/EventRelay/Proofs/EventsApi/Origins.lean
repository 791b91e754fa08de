import EventRelay.Proofs.Dispatch.Own
import EventRelay.Proofs.Dispatch.Serving

set_option autoImplicit false

/-!
Where events come from. A type that is the gateway's own can be claimed by any request, in a field,
in a structured body or in a body that describes an event; such an event is told of and goes
nowhere. What waits under such a type is therefore always of the gateway's own making.
-/
namespace EventRelay

/-- If the type of the event is the gateway's own, then so are the event and the path. -/
def Job.Genuine (job : Job) : Prop :=
  job.event.type.isSystem = true → job.path = Job.systemPath ∧ job.event.Own

theorem Job.genuine_ofSystem (space : String) (e : Event) (own : e.Own) :
    (Job.ofSystem space e).Genuine :=
  fun _ => ⟨rfl, own⟩

namespace EventType

variable {type : EventType}

theorem isInvoke_eq_false (system : type.isSystem = true) : type.isInvoke = false := by
  rw [isInvoke, beq_eq_false_iff_ne]
  rintro rfl
  exact absurd system (by decide)

theorem isHttpRequest_eq_false (system : type.isSystem = true) : type.isHttpRequest = false := by
  rw [isHttpRequest, beq_eq_false_iff_ne]
  rintro rfl
  exact absurd system (by decide)

end EventType

namespace EventsApi

section Handlers
variable (ctx : Context) (space : String) (request : Request) (e : Event)

theorem genuine_call (id : FunctionId) (respond : Except FunctionError Bytes → Response) :
    (call ctx space id e respond).Offers Job.Genuine :=
  .announced Job.genuine_ofSystem (fun _ goes => .invoke goes) (fun _ => .done _) _ _ _ _

theorem genuine_invoke (headers : Headers) : (invoke ctx space headers e).Offers Job.Genuine := by
  unfold invoke
  split
  · exact .done _
  · exact genuine_call ..

theorem genuine_emit (path method : String) (plain : e.type.isSystem = false) :
    (emit ctx space path method e).Offers Job.Genuine := by
  unfold emit
  split
  · exact genuine_call ..
  · refine .offer ?_ (.done _)
    intro system
    rw [plain] at system
    cases system

theorem genuine_custom : (custom ctx space request e).Offers Job.Genuine := by
  unfold custom
  split
  · exact .done _
  · split
    · exact .done _
    · split
      · exact (genuine_invoke ..).map _
      · split
        · exact .done _
        · rename_i plain
          exact (genuine_emit ctx space e _ _ (Bool.eq_false_iff.mpr plain)).map _

theorem genuine_sync : (sync ctx space request e).Offers Job.Genuine := by
  unfold sync
  dsimp only
  split
  · exact .done _
  · split
    · exact genuine_call ..
    · split
      · exact .done _
      · exact genuine_call ..

theorem genuine_answer : (answer ctx request e).Offers Job.Genuine := by
  refine .offer (Job.genuine_ofSystem _ _ (.received _ _ _ _)) ?_
  split
  · exact (genuine_sync ..).map _
  · exact (genuine_custom ..).map _

/-- Whatever a request carries, its handler offers nothing under a type of the gateway's own but
what the gateway tells. -/
theorem genuine_handle (draining : Bool) : (handle ctx draining request).Offers Job.Genuine := by
  unfold handle
  split
  · exact .done _
  · split
    · exact .done _
    · split
      · exact .done _
      · split
        · exact .done _
        · exact genuine_answer ..

end Handlers

section System
variable {e : Event}

/-- An event under a type of the gateway's own is answered without a call or an offer. -/
theorem custom_of_isSystem (system : e.type.isSystem = true) (ctx : Context) (space : String)
    (request : Request) : ∃ result, custom ctx space request e = .done result := by
  simp only [custom, EventType.isInvoke_eq_false system, system, refused]
  split
  · exact ⟨_, rfl⟩
  · split
    · exact ⟨_, rfl⟩
    · exact ⟨_, rfl⟩

theorem answer_of_isSystem (system : e.type.isSystem = true) (ctx : Context) (request : Request) :
    ∃ result, answer ctx request e =
      .offer (.ofSystem (spaceOf ctx.defaultSpace request.headers)
        (.received (ctx.stamps 1) request.uri.path e request.headers.joinedTexts))
        (.done result) := by
  obtain ⟨result, same⟩ :=
    custom_of_isSystem system ctx (spaceOf ctx.defaultSpace request.headers) request
  simp only [answer, EventType.isHttpRequest_eq_false system, same]
  exact ⟨_, rfl⟩

theorem handle_of_isSystem {ctx : Context} {request : Request}
    (carried : Event.ofRequest (ctx.stamps 0) request = .ok e) (system : e.type.isSystem = true)
    (draining : Bool) :
    ∃ result, handle ctx draining request = .done result ∨
      handle ctx draining request =
        .offer (.ofSystem (spaceOf ctx.defaultSpace request.headers)
          (.received (ctx.stamps 1) request.uri.path e request.headers.joinedTexts))
          (.done result) := by
  unfold handle
  split
  · exact ⟨_, Or.inl rfl⟩
  · split
    · exact ⟨_, Or.inl rfl⟩
    · split
      · exact ⟨_, Or.inl rfl⟩
      · rw [carried]
        obtain ⟨result, same⟩ := answer_of_isSystem system ctx request
        exact ⟨result, Or.inr same⟩

end System
end EventsApi

namespace Serving

/-- All jobs that wait are genuine, and so are those that will be offered. -/
structure Genuine (s : Serving) : Prop where
  waiting : ∀ job ∈ s.recorded.dispatcher.queue.jobs, job.Genuine
  carried : Dispatcher.AllCarried (Activity.Offers Job.Genuine) s.recorded.dispatcher
  handlers : ∀ handler ∈ s.handlers, handler.Offers Job.Genuine

section Run
variable {s after : Serving}

/-- Moves of the dispatcher keep what waits and what is carried genuine, if what comes from outside
is. -/
theorem Genuine.dispatched (genuine : s.Genuine) {move : Dispatcher.Move}
    {recorded : Dispatcher.Recorded} (moved : s.recorded.step? move = some recorded)
    (outside : ∀ job, move = .offer job → job.Genuine) :
    ({ s with recorded } : Serving).Genuine := by
  obtain ⟨d, step, rfl⟩ := Option.map_eq_some_iff.mp moved
  refine ⟨?_, ?_, genuine.handlers⟩
  · intro job member
    rcases Dispatcher.mem_queue_step? step member with old | offered | published
    · exact genuine.waiting job old
    · exact outside job offered
    · obtain ⟨deliveries, next, busy, carried⟩ := published
      cases genuine.carried deliveries busy _ carried with
      | offer holds => exact holds
  · refine genuine.carried.step? ?_ ?_ step
    · intro job _ stamps subscribers activity member
      obtain ⟨id, later, rfl⟩ := Job.mem_deliveries _ _ _ member
      exact Job.offers_deliverTo _ _ _ _ Job.genuine_ofSystem
    · intro activity outcome now offers goes
      exact Dispatcher.offers_stepDelivery offers goes

theorem Genuine.handled (genuine : s.Genuine) {handler : Nat} {now : Activity EventsApi.Answer}
    (offers : now.Offers Job.Genuine) :
    ({ s with handlers := s.handlers.set handler now } : Serving).Genuine := by
  refine ⟨genuine.waiting, genuine.carried, ?_⟩
  intro other member
  rcases List.mem_or_eq_of_mem_set member with old | rfl
  · exact genuine.handlers other old
  · exact offers

theorem Genuine.left (genuine : s.Genuine) (handler : Nat) (answers : List EventsApi.Answer) :
    (⟨s.recorded, s.handlers.eraseIdx handler, answers⟩ : Serving).Genuine := by
  refine ⟨genuine.waiting, genuine.carried, ?_⟩
  intro other member
  exact genuine.handlers other (List.mem_of_mem_eraseIdx member)

theorem Genuine.step? (genuine : s.Genuine) {move : Move} (moved : s.step? move = some after) :
    after.Genuine := by
  cases move with
  | arrive ctx request =>
      cases moved
      refine ⟨genuine.waiting, genuine.carried, ?_⟩
      intro handler member
      rcases List.mem_append.mp member with old | new
      · exact genuine.handlers handler old
      · rw [List.mem_singleton.mp new]
        exact EventsApi.genuine_handle ..
  | abandon handler =>
      cases moved
      exact genuine.left handler s.answers
  | handle handler outcome =>
      simp only [Serving.step?] at moved
      cases found : s.handlers[handler]? with
      | none => simp [found] at moved
      | some activity =>
          have offers := genuine.handlers activity (List.mem_of_getElem? found)
          rw [found] at moved
          cases offers with
          | done answer =>
              cases moved
              exact genuine.left handler _
          | offer holds goes =>
              obtain ⟨recorded, offered, rfl⟩ := Option.map_eq_some_iff.mp moved
              have waits := genuine.dispatched offered (by rintro _ ⟨⟩; exact holds)
              exact waits.handled goes
          | invoke goes =>
              cases moved
              exact genuine.handled (goes outcome)
          | pause goes =>
              cases moved
              exact genuine.handled goes
  | dispatch made =>
      simp only [Serving.step?] at moved
      split at moved
      · rename_i own
        obtain ⟨recorded, done, rfl⟩ := Option.map_eq_some_iff.mp moved
        refine genuine.dispatched done ?_
        rintro _ rfl
        cases own
      · cases moved

theorem Genuine.run? (genuine : s.Genuine) {moves : List Move} (run : s.run? moves = some after) :
    after.Genuine :=
  foldlM_keeps (fun _ _ _ _ still moved => Genuine.step? still moved) genuine run

theorem genuine_start {d : Dispatcher} (empty : d.queue.jobs = []) (idle : d.Idle) :
    (start d).Genuine where
  waiting job member := by
    rw [start, Dispatcher.Recorded.start, empty] at member
    cases member
  carried := idle.allCarried _
  handlers handler member := by cases member

end Run

/-- Clients cannot forge the gateway's own events. Let a dispatcher start with nothing waiting and
nothing in hand, and let requests come in, handlers go on or be given up and workers make their
moves in any order. Whatever waits under a type of the gateway's own was made by the gateway and
waits on its path; and the handler of a request that carries an event under such a type calls no
function and offers nothing, except that the event was received. -/
theorem own_events_are_genuine {d : Dispatcher} (empty : d.queue.jobs = []) (idle : d.Idle)
    {moves : List Move} {last : Serving} (run : (start d).run? moves = some last) :
    (∀ job ∈ last.recorded.dispatcher.queue.jobs, job.event.type.isSystem = true →
      job.path = Job.systemPath ∧ job.event.Own) ∧
    ∀ (ctx : EventsApi.Context) (draining : Bool) (request : Request) (e : Event),
      Event.ofRequest (ctx.stamps 0) request = .ok e → e.type.isSystem = true →
        ∃ result, EventsApi.handle ctx draining request = .done result ∨
          EventsApi.handle ctx draining request =
            .offer (.ofSystem (EventsApi.spaceOf ctx.defaultSpace request.headers)
              (.received (ctx.stamps 1) request.uri.path e request.headers.joinedTexts))
              (.done result) := by
  have genuine := (genuine_start empty idle).run? run
  refine ⟨genuine.waiting, ?_⟩
  intro ctx draining request e carried system
  exact EventsApi.handle_of_isSystem carried system draining

/-- Claims a type of the gateway's own in a field. -/
def exampleForgery : Request :=
  { exampleRequest with
    headers :=
      [⟨"event", Text.encode "gateway.function.invoked"⟩,
        ⟨"content-type", Text.encode "text/plain"⟩] }

/-- Claims it in a body that takes the place of the event in the field. -/
def exampleDisguise : Request :=
  { exampleRequest with
    headers :=
      [⟨"event", Text.encode "user.created"⟩, ⟨"content-type", Text.encode "application/json"⟩]
    body := Text.encode (Json.object
      [("cloudEventsVersion", .string "0.1"), ("eventID", .string "1"),
        ("eventType", .string "gateway.function.invoked"), ("source", .string "/crm")]).compact }

/-- Both come in, and each is handled to its end. -/
def forgingMoves : List Move :=
  [.arrive exampleContext exampleForgery, .handle 0 (.ok []), .handle 0 (.ok []),
    .arrive exampleContext exampleDisguise, .handle 0 (.ok []), .handle 0 (.ok [])]

theorem forgingMoves_offer_nothing_else : ∃ last,
    (start (.start 4 1 .never)).run? forgingMoves = some last ∧
      last.answers.map (·.response.status) = [202, 202] ∧
      last.recorded.dispatcher.queue.jobs.map (·.event.type.name) =
        ["gateway.event.received", "gateway.event.received"] ∧
      ∀ job ∈ last.recorded.dispatcher.queue.jobs, job.event.type.isSystem = true →
        job.path = "/" ∧ job.event.Own := by
  have outcome : ((start (.start 4 1 .never)).run? forgingMoves).map (fun last =>
      (last.answers.map (·.response.status),
        last.recorded.dispatcher.queue.jobs.map (·.event.type.name))) =
      some ([202, 202], ["gateway.event.received", "gateway.event.received"]) := by
    decide +kernel
  obtain ⟨last, run, shown⟩ := Option.map_eq_some_iff.mp outcome
  obtain ⟨answered, waiting⟩ := Prod.mk.inj shown
  have idle : (Dispatcher.start 4 1 .never).Idle := by
    intro w member
    exact Or.inl (List.eq_of_mem_replicate member)
  obtain ⟨genuine, -⟩ := own_events_are_genuine rfl idle run
  exact ⟨last, run, answered, waiting, genuine⟩

end Serving
end EventRelay
