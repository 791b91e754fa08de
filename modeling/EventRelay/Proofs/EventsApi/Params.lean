import EventRelay.Proofs.Event.RequestData
import EventRelay.Proofs.EventsApi.Fates

set_option autoImplicit false

/-!
What the function on a route is given. The event of the request goes to it with what the route
captured in its data, if this is the data of a request; all else of the event stays as it is.
-/
namespace EventRelay

namespace Gateway

variable {σ α β : Type} (network : Network σ) (g : Gateway) (world : σ)

theorem outside_call (space : String) (id : FunctionId) (e : Event) :
    (call network space id e (g, world)).2.2 = world ∨
      ∃ url, (call network space id e (g, world)).2.2 = (network (e.callTo url) world).2 := by
  unfold call
  dsimp only
  split
  · exact .inl rfl
  · rename_i text words _
    cases parsed : Url.parse text with
    | error cause =>
        simp only [callFunction, parsed]
        exact .inl rfl
    | ok url =>
        cases callable : (e.callTo url).url.isCallable with
        | false =>
            simp only [callFunction, parsed, Call.send, callable]
            exact .inl rfl
        | true =>
            simp only [callFunction, parsed, bind, StateT.bind, Call.send_eq network world callable]
            exact .inr ⟨url, rfl⟩

end Gateway

/-- Whatever the network and the gateway, no more is sent outside for an activity than one call,
which brings the event. -/
def Activity.Posts {α : Type} (activity : Activity α) (e : Event) : Prop :=
  ∀ (σ : Type) (network : Network σ) (g : Gateway) (world : σ),
    (Gateway.perform network activity (g, world)).2.2 = world ∨
      ∃ url, (Gateway.perform network activity (g, world)).2.2 = (network (e.callTo url) world).2

namespace EventsApi

section Posts
variable {α β : Type} {activity : Activity α} {e : Event}

theorem posts_offer (posts : activity.Posts e) (job : Job) :
    (Activity.offer job activity).Posts e :=
  fun σ network g world => posts σ network (g.offer job) world

theorem posts_map (posts : activity.Posts e) (f : α → β) : (activity.map f).Posts e := by
  intro σ network g world
  rw [Gateway.perform_map]
  exact posts σ network g world

theorem posts_call (ctx : Context) (space : String) (id : FunctionId) (e : Event)
    (respond : Except FunctionError Bytes → Response) : (call ctx space id e respond).Posts e := by
  refine posts_offer ?_ _
  intro σ network g world
  exact Gateway.outside_call network g world space id e

end Posts

/-- A request is handed to a function: its event is of the type of plain requests, a route leads to
the function, and it does not only ask beforehand what pages may do. -/
structure HandedTo (ctx : Context) (request : Request) (e : Event) (target : SyncTarget)
    (params : Route.Params) : Prop extends Receives ctx request e where
  type : e.type = .httpRequest
  routed : ctx.routes.syncTarget (spaceOf ctx.defaultSpace request.headers)
    (Cors.effectiveMethod request.method request.headers) request.uri.path e.type =
      some (target, params)
  called : target.cors = none ∨ Cors.isPreflight request.method request.headers = false

section Handed
variable {ctx : Context} {request : Request} {e : Event} {target : SyncTarget}
  {params : Route.Params} {members : List (String × Json)}

/-- What is made of the outcome of the function on a route: the response that it describes, with
what the settings of the route, if there are any, let the origin of the request read. -/
def respond (target : SyncTarget) (request : Request) (outcome : Except FunctionError Bytes) :
    Response :=
  match target.cors with
  | none => described outcome
  | some cors => Cors.apply cors request.headers (described outcome)

theorem HandedTo.sync_eq (handed : HandedTo ctx request e target params) :
    sync ctx (spaceOf ctx.defaultSpace request.headers) request e =
      call ctx (spaceOf ctx.defaultSpace request.headers) target.functionId (withParams e params)
        (respond target request) := by
  unfold respond
  cases settings : target.cors with
  | none => simp only [sync, handed.routed, settings]
  | some cors =>
      have plain : Cors.isPreflight request.method request.headers = false := by
        simpa [settings] using handed.called
      have routed := handed.routed
      rw [Cors.effectiveMethod_of_plain plain] at routed
      exact sync_of_routed plain routed settings

/-- The function of the route is called and gets the event with what the route captured, and nothing
else is sent. -/
theorem HandedTo.gets (handed : HandedTo ctx request e target params) :
    EndsIn ctx request e (.called target.functionId (withParams e params)) ∧
      (handle ctx false request).Posts (withParams e params) := by
  have handled := handle_eq_sync handed.unnamed handed.within handed.carried handed.type
  rw [handed.sync_eq] at handled
  constructor
  · exact .of_meets handled (Meets.map (meets_call _ _) _) nofun
  · rw [handled]
    exact posts_offer (posts_map (posts_call ctx _ _ _ _) _) _

theorem sync_eq_done_of_not_handedTo (receives : Receives ctx request e)
    (type : e.type = .httpRequest)
    (kept : ∀ target params, ¬ HandedTo ctx request e target params) :
    ∃ response, sync ctx (spaceOf ctx.defaultSpace request.headers) request e = .done response := by
  unfold sync
  dsimp only
  split
  · exact ⟨_, rfl⟩
  · rename_i target params routed
    split
    · rename_i settings
      exact absurd ⟨receives, type, routed, .inl settings⟩ (kept target params)
    · split
      · exact ⟨_, rfl⟩
      · rename_i plain
        exact absurd ⟨receives, type, routed, .inr (Bool.eq_false_iff.mpr plain)⟩
          (kept target params)

/-- Of plain requests those that are handed to a function have one called, and no others. -/
theorem exists_called_iff_handedTo (receives : Receives ctx request e)
    (type : e.type = .httpRequest) :
    (∃ id given, EndsIn ctx request e (.called id given)) ↔
      ∃ target params, HandedTo ctx request e target params := by
  constructor
  · rintro ⟨id, given, called⟩
    by_contra kept
    obtain ⟨response, done⟩ :=
      sync_eq_done_of_not_handedTo receives type fun target params handed =>
      kept ⟨target, params, handed⟩
    have handled := handle_eq_sync receives.unnamed receives.within receives.carried type
    rw [done] at handled
    cases called.eq (EndsIn.of_meets handled (meets_done _) nofun)
  · rintro ⟨target, params, handed⟩
    exact ⟨_, _, handed.gets.1⟩

end Handed

def exampleTarget : SyncTarget := ⟨⟨"crm"⟩, some exampleCors⟩

theorem exampleSharingContext_syncTarget :
    exampleSharingContext.routes.syncTarget "default" "GET" "/users/42" .httpRequest =
      some (exampleTarget, [("id", "42")]) := by
  decide +kernel

end EventsApi
end EventRelay
