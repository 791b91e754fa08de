import EventRelay.Proofs.Catalog.Routing
import EventRelay.Proofs.Http.CrossOrigin
import EventRelay.Proofs.Text.LetterCase
import EventRelay.EventsApi

set_option autoImplicit false

/-!
Preflights keep their word. A preflight is led along the route of the request to come, so the
settings that answer it are those of the subscription that will answer the request, and what they
allow beforehand they allow afterwards, whatever the function makes of the request.
-/
namespace EventRelay

namespace Activity
variable {α β : Type} {activity : Activity α} {f : α → β}

theorem map_eq_done {result : β} (done : activity.map f = .done result) :
    ∃ first, activity = .done first ∧ f first = result := by
  cases activity with
  | done first =>
      cases done
      exact ⟨first, rfl, rfl⟩
  | offer job next => cases done
  | invoke space id event next => cases done
  | pause pause next => cases done

end Activity

namespace EventsApi

section Answers
variable {ctx : Context} {space : String} {request : Request} {e : Event} {answer : Answer}

theorem received_of_custom (done : custom ctx space request e = .done answer) :
    answer.received ≠ some .http := by
  unfold custom at done
  split at done
  · cases done
    exact nofun
  · split at done
    · cases done
      exact nofun
    · split at done
      · obtain ⟨response, -, same⟩ := Activity.map_eq_done done
        cases same
        exact nofun
      · split at done
        · cases done
          exact nofun
        · obtain ⟨response, -, same⟩ := Activity.map_eq_done done
          cases same
          exact nofun

/-- A plain request that is answered without a call meets no route, or asks beforehand on a route of
a subscription with settings. -/
theorem sync_eq_done {response : Response} (done : sync ctx space request e = .done response) :
    response = .plain 404 "resource not found" ∨
      Cors.isPreflight request.method request.headers = true ∧ ∃ target params cors,
        ctx.routes.syncTarget space (Cors.effectiveMethod request.method request.headers)
          request.uri.path e.type = some (target, params) ∧
        target.cors = some cors ∧ response = Cors.preflight cors request.headers := by
  unfold sync at done
  dsimp only at done
  split at done
  · cases done
    exact Or.inl rfl
  · rename_i target params routed
    split at done
    · cases done
    · rename_i cors settings
      split at done
      · rename_i asks
        cases done
        exact Or.inr ⟨asks, target, params, cors, routed, settings, rfl⟩
      · cases done

/-- An answer of the class of plain requests that comes without a call is one to a plain request. -/
theorem exists_of_handle {job : Job} {response : Response}
    (answered : handle ctx false request = .offer job (.done ⟨response, some .http⟩)) :
    ∃ e, e.type = .httpRequest ∧
      sync ctx (spaceOf ctx.defaultSpace request.headers) request e = .done response := by
  unfold handle at answered
  split at answered
  · cases answered
  · split at answered
    · cases answered
    · split at answered
      · cases answered
      · split at answered
        · cases answered
        · rename_i e _
          simp only [EventsApi.answer, Activity.offer.injEq] at answered
          obtain ⟨-, done⟩ := answered
          split at done
          · rename_i plain
            obtain ⟨found, synced, same⟩ := Activity.map_eq_done done
            cases same
            exact ⟨e, by simpa [EventType.isHttpRequest] using plain, synced⟩
          · obtain ⟨found, done, same⟩ := Activity.map_eq_done done
            have received : found.received = some .http := congrArg Answer.received same
            exact absurd received (received_of_custom done)

theorem handle_eq_sync (unnamed : Cors.isEventPreflight request.method request.headers = false)
    (within : (request.bodyWithin? ctx.bodyLimit).isSome = true)
    (carried : Event.ofRequest (ctx.stamps 0) request = .ok e) (type : e.type = .httpRequest) :
    handle ctx false request =
      .offer (.ofSystem (spaceOf ctx.defaultSpace request.headers)
        (Event.received (ctx.stamps 1) request.uri.path e request.headers.joinedTexts))
      ((sync ctx (spaceOf ctx.defaultSpace request.headers) request e).map (⟨·, some .http⟩)) := by
  obtain ⟨body, fits⟩ := Option.isSome_iff_exists.mp within
  have http : EventType.httpRequest.isHttpRequest = true := by decide
  simp only [handle, unnamed, fits, carried, EventsApi.answer, type, http, Bool.false_eq_true,
    ↓reduceIte]

theorem sync_of_routed {target : SyncTarget} {params : Route.Params} {cors : CorsSettings}
    (plain : Cors.isPreflight request.method request.headers = false)
    (routed : ctx.routes.syncTarget space request.method request.uri.path e.type =
      some (target, params))
    (settings : target.cors = some cors) :
    sync ctx space request e = call ctx space target.functionId (withParams e params)
      fun outcome => Cors.apply cors request.headers (described outcome) := by
  simp only [sync, Cors.effectiveMethod_of_plain plain, routed, settings, plain, Bool.false_eq_true,
    ↓reduceIte]

end Answers

/-- Asks beforehand if a page of an origin may send a request by a method. -/
structure AsksFor (preflight : Request) (method origin : String) : Prop where
  options : preflight.method = "OPTIONS"
  method : preflight.headers.text? "access-control-request-method" = some method
  origin : Cors.origin? preflight.headers = some origin

/-- A page of an origin sends a request by a method, and asks nothing beforehand. -/
structure Sends (request : Request) (method path origin : String) : Prop where
  method : request.method = method
  path : request.uri.path = path
  origin : Cors.origin? request.headers = some origin
  plain : Cors.isPreflight request.method request.headers = false
  unnamed : Cors.isEventPreflight request.method request.headers = false

section Preflights
variable {ctx : Context} {preflight : Request} {method origin : String} {job : Job}
  {response : Response}

theorem AsksFor.effectiveMethod_eq (asks : AsksFor preflight method origin) :
    Cors.effectiveMethod preflight.method preflight.headers = Text.upper method := by
  obtain ⟨field, found, -⟩ := Option.bind_eq_some_iff.mp asks.method
  have asking : Cors.isPreflight preflight.method preflight.headers = true := by
    simp [Cors.isPreflight, asks.options, Headers.has, found]
  rw [Cors.effectiveMethod, if_pos asking, asks.method]

theorem syncTarget_upper (routes : RoutingTable) (space method path : String) (type : EventType) :
    routes.syncTarget space (Text.upper method) path type =
      routes.syncTarget space method path type := by
  rw [RoutingTable.syncTarget, Text.upper_upper, RoutingTable.syncTarget]

/-- A preflight that is told it may go on was answered by the settings on the route of the request
to come, and they allow the origin. -/
theorem AsksFor.exists_target (asks : AsksFor preflight method origin)
    (answered : handle ctx false preflight = .offer job (.done ⟨response, some .http⟩))
    (told : response.headers.has "access-control-allow-origin" = true) :
    ∃ target params cors,
      ctx.routes.syncTarget (spaceOf ctx.defaultSpace preflight.headers) method preflight.uri.path
        .httpRequest = some (target, params) ∧
      target.cors = some cors ∧ response = Cors.preflight cors preflight.headers ∧
      Cors.originAllowed cors origin = true := by
  obtain ⟨e, type, done⟩ := exists_of_handle answered
  rcases sync_eq_done done with rfl | ⟨-, target, params, cors, routed, settings, rfl⟩
  · cases told
  · rw [asks.effectiveMethod_eq, syncTarget_upper, type] at routed
    exact ⟨target, params, cors, routed, settings, rfl,
      Cors.originAllowed_of_preflight asks.origin told⟩

end Preflights

/-- Lets pages of one site, with those that are logged in, get users. -/
def exampleCors : CorsSettings := ⟨["https://*.example.com"], ["GET"], ["Accept"], true⟩

def exampleShared : Subscription :=
  { Subscription.ofSync "default" "http.request" "crm" "GET" "/users/:id" with
    cors := some exampleCors }.identified

/-- A catalog with a function and a subscription that is shared with pages of one site. -/
def exampleSharing : Catalog where
  eventTypes := []
  functions := [(⟨"default", ⟨"crm"⟩⟩, ⟨"default", ⟨"crm"⟩, .weighted [⟨⟨"crm-v2"⟩, 1⟩]⟩)]
  subscriptions := [(⟨"default", exampleShared.computeId⟩, exampleShared)]

theorem reachable_exampleSharing : exampleSharing.Reachable := by
  have run := Catalog.reachable_foldl .empty
    [.registerFunction ⟨"default", ⟨"crm"⟩, .weighted [⟨⟨"crm-v2"⟩, 1⟩]⟩,
      .createSubscription
        { Subscription.ofSync "default" "http.request" "crm" "get" "users/:id" with
          cors := some exampleCors }]
  have same : List.foldl Catalog.apply .empty
    [.registerFunction ⟨"default", ⟨"crm"⟩, .weighted [⟨⟨"crm-v2"⟩, 1⟩]⟩,
      .createSubscription
        { Subscription.ofSync "default" "http.request" "crm" "get" "users/:id" with
          cors := some exampleCors }] = exampleSharing := by
    decide +kernel
  rwa [same] at run

def exampleOrigin : String := "https://app.example.com"

def exampleGet : Request where
  method := "GET"
  uri := ⟨none, none, "/users/42", none⟩
  headers := [⟨"origin", Text.encode exampleOrigin⟩]
  body := []

def exampleSharingContext : Context :=
  ⟨RoutingTable.build exampleSharing.allSubscriptions, "default", 200, fun _ => default⟩

end EventsApi
end EventRelay
