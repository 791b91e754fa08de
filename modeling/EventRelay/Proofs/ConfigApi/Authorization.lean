import EventRelay.Proofs.ConfigApi.Requests
import EventRelay.Proofs.Gateway.Performing
import EventRelay.Proofs.Http.Fields

set_option autoImplicit false

/-!
Requests to the configuration side without the key are invisible. They are all refused alike and
leave nothing behind but the id that they were given, so whatever else is asked is answered as if
they had not been sent.
-/
namespace EventRelay

/-- Whether the first field `authorization` is `Bearer`, a blank and the key. -/
def Request.bears (request : Request) (key : String) : Bool :=
  (request.headers.first? "authorization").map (·.value) == some (Text.encode ("Bearer " ++ key))

/-- A response aside from the id that the gateway made up for its request. -/
def Response.withoutGivenId (response : Response) (request : Request) : Response :=
  if request.headers.has requestIdName then response
  else { response with headers := response.headers.filter (·.name != requestIdName) }

section Ids
variable (request : Request) (id other : String)

@[simp] theorem Response.status_withoutGivenId (response : Response) :
    (response.withoutGivenId request).status = response.status := by
  unfold withoutGivenId
  split <;> rfl

theorem Request.withId_of_has {request : Request}
    (named : request.headers.has requestIdName = true) : request.withId id = request :=
  if_pos named

theorem Request.first?_withId_self {request : Request}
    (unnamed : request.headers.has requestIdName = false) :
    (request.withId id).headers.first? requestIdName = some ⟨requestIdName, Text.encode id⟩ := by
  have absent : request.headers.find? (·.name == requestIdName) = none := by
    simpa [Headers.has, Headers.first?] using unnamed
  simp [withId, unnamed, Headers.first?, Headers.append, List.find?_append, absent]

@[simp] theorem Request.sayJson_withId :
    (request.withId id).headers.sayJson = request.headers.sayJson := by
  unfold Headers.sayJson Headers.text?
  rw [first?_withId _ _ (by decide)]

theorem Request.readJson_withId {α : Type} (body : Option Bytes) (reader : Json.Reader α) :
    (request.withId id).readJson body reader = request.readJson body reader := by
  unfold readJson
  rw [sayJson_withId]

theorem Response.withoutGivenId_finished (response : Response) :
    (response.finished (request.withId id)).withoutGivenId request =
      (response.finished (request.withId other)).withoutGivenId request := by
  cases named : request.headers.has requestIdName with
  | true => rw [Request.withId_of_has id named, Request.withId_of_has other named]
  | false =>
      have without (given : String) :
          (response.withIdOf (request.withId given)).withoutGivenId request =
            response.withoutGivenId request := by
        rw [withIdOf, Request.first?_withId_self given named]
        split
        · rfl
        · simp [withoutGivenId, named]
      have sent (given : String) :
          (response.finished (request.withId given)).withoutGivenId request =
            (response.withoutGivenId request).sentTo request.method := by
        rw [← without given, finished, sentTo, sentTo, Request.method_withId]
        split
        · simp [withoutGivenId, named]
        · rfl
      rw [sent, sent]

end Ids

namespace ConfigApi
section Asking
variable {request : Request} (id : String) (kind : Kind) (limit : Nat)

theorem askBody_withId {α : Type} (reader : Json.Reader α) (write : α → Catalog.Write) :
    askBody (request.withId id) limit reader write = askBody request limit reader write := by
  unfold askBody
  rw [Request.bodyWithin?_withId, Request.readJson_withId]

theorem askAuthorized_withId :
    askAuthorized (request.withId id) limit = askAuthorized request limit := by
  unfold askAuthorized askEntries askEntry askCreate askUpdate
  simp only [askBody_withId, Request.uri_withId, Request.method_withId]

theorem ask_withId (key : Option String) :
    ask (request.withId id) limit key = ask request limit key := by
  have authorized :
      isAuthorized key (request.withId id).headers = isAuthorized key request.headers := by
    unfold isAuthorized Headers.text?
    rw [Request.first?_withId _ _ (by decide)]
  rw [ask, ask, authorized, askAuthorized_withId]

/-- A request that is taken for one with the key carries it. -/
theorem bears_of_isAuthorized {key : String}
    (authorized : isAuthorized (some key) request.headers = true) : request.bears key = true := by
  have text : request.headers.text? "authorization" = some ("Bearer " ++ key) := by
    simpa [isAuthorized] using authorized
  obtain ⟨field, first, read⟩ := Option.bind_eq_some_iff.mp text
  simp [Request.bears, first, value_of_text? read]

end Asking
end ConfigApi

namespace Gateway

/-- Requests to the configuration side, one after another, each with its response. -/
def exchanges (g : Gateway) : List Request → List (Request × Response) × Gateway
  | [] => ([], g)
  | request :: rest =>
    let (response, next) := g.config request
    let (others, last) := next.exchanges rest
    ((request, response) :: others, last)

section Exchanges
variable {g : Gateway} {request : Request} {key : String}

theorem exchanges_cons (g : Gateway) (request : Request) (rest : List Request) :
    g.exchanges (request :: rest) =
      ((request, (g.config request).1) :: ((g.config request).2.exchanges rest).1,
        ((g.config request).2.exchanges rest).2) :=
  rfl

theorem configInner_withId (g : Gateway) (request : Request) (id : String) :
    g.configInner (request.withId id) = g.configInner request := by
  have declared (limit : Nat) :
      (request.withId id).declaresOver limit = request.declaresOver limit := by
    rw [Request.declaresOver, Request.declaresOver, Request.declaredLength?_withId]
  unfold configInner
  simp only [declared, ConfigApi.handle_eq, ConfigApi.ask_withId]

theorem configInner_withUsed (g : Gateway) (request : Request) (used : Nat) :
    ({ g with used } : Gateway).configInner request =
      ((g.configInner request).1, { (g.configInner request).2 with used }) := by
  unfold configInner
  dsimp only
  split <;> rfl

/-- A request is handled as it stands; its id goes only into the response. -/
theorem config_eq (g : Gateway) (request : Request) : g.config request =
    ((g.configInner request).1.finished (g.identified request),
      { (g.configInner request).2 with used := g.used + 1 }) := by
  simp only [config, takeStamps, Stamps.after, Nat.add_zero, configInner_withUsed,
    configInner_withId, identified]

theorem settings_config (g : Gateway) (request : Request) :
    (g.config request).2.settings = g.settings := by
  rw [config_eq, configInner]
  dsimp only
  split <;> rfl

/-- A request without the key is refused, and all stays as it is. -/
theorem configInner_of_stranger (locked : g.settings.admin.apiKey = some key)
    (stranger : request.bears key = false) :
    (g.configInner request).2 = g ∧
      (request.declaresOver g.settings.limits.maxBodySize.toNat = false →
        (g.configInner request).1 = .ofStatus 401) := by
  have refused : ConfigApi.isAuthorized (some key) request.headers = false := by
    cases authorized : ConfigApi.isAuthorized (some key) request.headers with
    | false => rfl
    | true =>
        rw [ConfigApi.bears_of_isAuthorized authorized] at stranger
        cases stranger
  unfold configInner
  simp only [locked, ConfigApi.handle, refused]
  split
  · rename_i exceeds
    refine ⟨rfl, fun within => ?_⟩
    rw [within] at exceeds
    cases exceeds
  · exact ⟨rfl, fun _ => rfl⟩

/-- An exchange aside from an id that the gateway made up. -/
def asideFromId (exchange : Request × Response) : Request × Response :=
  (exchange.1, exchange.2.withoutGivenId exchange.1)

/-- Exchanges do not depend on how many ids were used before, but for the ids. -/
theorem asideFromId_config (g : Gateway) (request : Request) (used : Nat) :
    asideFromId (request, (({ g with used } : Gateway).config request).1) =
      asideFromId (request, (g.config request).1) := by
  simp only [config_eq, configInner_withUsed, asideFromId, identified]
  rw [Response.withoutGivenId_finished]

/-- Without the requests that do not carry the key the others are answered as before, and all that
is left behind is the same, but for the number of ids used. -/
theorem exchanges_filter (locked : g.settings.admin.apiKey = some key) (requests : List Request)
    (used : Nat) : ∃ last,
    (({ g with used } : Gateway).exchanges (requests.filter (·.bears key))).2 =
      { (g.exchanges requests).2 with used := last } ∧
    (({ g with used } : Gateway).exchanges (requests.filter (·.bears key))).1.map asideFromId =
      ((g.exchanges requests).1.filter (·.1.bears key)).map asideFromId := by
  induction requests generalizing g used with
  | nil => exact ⟨used, rfl, rfl⟩
  | cons request rest ih =>
      have settings := settings_config g request
      cases bears : request.bears key with
      | false =>
          -- the gateway that has seen the request differs from the other one in its ids alone
          have untouched : (g.config request).2 = { g with used := g.used + 1 } := by
            rw [config_eq, (configInner_of_stranger locked bears).1]
          have next := ih (g := { g with used := g.used + 1 }) locked used
          simp only [exchanges_cons, untouched, bears, List.filter_cons, Bool.false_eq_true,
            ↓reduceIte]
          exact next
      | true =>
          obtain ⟨last, final, answers⟩ := ih (g := (g.config request).2) (by rw [settings, locked])
            (used + 1)
          have after : (({ g with used } : Gateway).config request).2 =
              { (g.config request).2 with used := used + 1 } := by
            rw [config_eq, config_eq, configInner_withUsed]
          refine ⟨last, ?_, ?_⟩
          · simp only [exchanges_cons, bears, List.filter_cons, ↓reduceIte, after, final]
          · simp only [exchanges_cons, bears, List.filter_cons, ↓reduceIte, after, List.map_cons,
              answers, asideFromId_config]

theorem map_fst_exchanges (g : Gateway) (requests : List Request) :
    (g.exchanges requests).1.map (·.1) = requests := by
  induction requests generalizing g with
  | nil => rfl
  | cons request rest ih => simp only [exchanges_cons, List.map_cons, ih]

/-- Whoever does not carry the key is refused, if the body is not declared too long. -/
theorem status_of_stranger (locked : g.settings.admin.apiKey = some key) {requests : List Request}
    {exchange : Request × Response} (member : exchange ∈ (g.exchanges requests).1)
    (stranger : exchange.1.bears key = false)
    (within : exchange.1.declaresOver g.settings.limits.maxBodySize.toNat = false) :
    exchange.2.status = 401 := by
  induction requests generalizing g with
  | nil => cases member
  | cons request rest ih =>
      have settings := settings_config g request
      rw [exchanges_cons] at member
      rcases List.mem_cons.mp member with rfl | later
      · rw [config_eq, Response.status_finished, (configInner_of_stranger locked stranger).2 within]
        rfl
      · exact ih (g := (g.config request).2) (by rw [settings, locked]) later
          (by rw [settings, within])

end Exchanges

/-- Requests that do not carry the key are invisible. Taking them all out of a sequence of requests
to the configuration side, whatever their paths, methods and bodies, changes neither the catalog
that the sequence leaves behind nor, aside from ids that the gateway makes up, the responses to the
others; and each of them is refused with 401, unless it declares a body over the limit. -/
theorem strangers_are_invisible {g : Gateway} {key : String}
    (locked : g.settings.admin.apiKey = some key) (requests : List Request) :
    (g.exchanges (requests.filter (·.bears key))).2.catalog = (g.exchanges requests).2.catalog ∧
    (g.exchanges (requests.filter (·.bears key))).1.map asideFromId =
      ((g.exchanges requests).1.filter (·.1.bears key)).map asideFromId ∧
    (g.exchanges requests).1.map (·.1) = requests ∧
    ∀ exchange ∈ (g.exchanges requests).1, exchange.1.bears key = false →
      exchange.1.declaresOver g.settings.limits.maxBodySize.toNat = false →
      exchange.2.status = 401 := by
  obtain ⟨last, final, answers⟩ := exchanges_filter locked requests g.used
  refine ⟨by rw [final], answers, map_fst_exchanges g requests, ?_⟩
  exact fun exchange member stranger within => status_of_stranger locked member stranger within

def exampleLocked : Gateway where
  settings := { Settings.standard with admin := ⟨some "tell no one"⟩ }
  catalog := Catalog.empty.putFunction ⟨"default", ⟨"crm"⟩, .weighted [⟨⟨"crm-v2"⟩, 1⟩]⟩
  dispatcher := .start 4 1 .never
  metrics := .empty
  stamps := fun _ => default
  used := 0
  words := []
  running := true

/-- Removes the function, but its first field says `bearer`. -/
def exampleRemoval : Request where
  method := "DELETE"
  uri := ⟨none, none, "/v1/spaces/default/functions/crm", none⟩
  headers := [⟨"authorization", Text.encode "bearer tell no one"⟩,
    ⟨"authorization", Text.encode "Bearer tell no one"⟩]
  body := []

def exampleInquiry : Request where
  method := "GET"
  uri := ⟨none, none, "/v1/spaces/default/functions/crm", none⟩
  headers := [⟨"authorization", Text.encode "Bearer tell no one"⟩]
  body := []

/-- The function that a stranger wants to remove stays, and is shown afterwards. -/
theorem exampleRemoval_is_invisible :
    exampleLocked.settings.admin.apiKey = some "tell no one" ∧
    (exampleLocked.exchanges [exampleRemoval, exampleInquiry]).2.catalog = exampleLocked.catalog ∧
    (∃ first second, (exampleLocked.exchanges [exampleRemoval, exampleInquiry]).1 =
        [(exampleRemoval, first), (exampleInquiry, second)] ∧
      first.status = 401 ∧ second.status = 200) := by
  have stranger : exampleRemoval.bears "tell no one" = false := by decide +kernel
  have bearer : exampleInquiry.bears "tell no one" = true := by decide +kernel
  have shown : (exampleLocked.exchanges [exampleInquiry]).2.catalog = exampleLocked.catalog ∧
      ((exampleLocked.exchanges [exampleInquiry]).1.map asideFromId).map (·.2.status) = [200] := by
    decide +kernel
  have locked : exampleLocked.settings.admin.apiKey = some "tell no one" := rfl
  obtain ⟨catalog, answers, -, refused⟩ :=
    strangers_are_invisible locked [exampleRemoval, exampleInquiry]
  have kept :
      [exampleRemoval, exampleInquiry].filter (·.bears "tell no one") = [exampleInquiry] := by
    simp [stranger, bearer]
  rw [kept] at catalog answers
  refine ⟨locked, catalog.symm.trans shown.1, _, _, rfl, ?_, ?_⟩
  · exact refused _ List.mem_cons_self stranger (by decide +kernel)
  · have status := shown.2
    rw [answers] at status
    simp only [exchanges, List.filter_cons, stranger, bearer, ↓reduceIte,
      Bool.false_eq_true, List.filter_nil, List.map_cons, List.map_nil, List.cons.injEq, and_true,
      asideFromId, Response.status_withoutGivenId] at status
    exact status

end Gateway
end EventRelay
