import EventRelay.ConfigApi.Handler
import EventRelay.Proofs.Catalog.Rewriting
import EventRelay.Proofs.Function.Codec
import EventRelay.Proofs.Http.Fields
import EventRelay.Proofs.Percent
import EventRelay.Proofs.Subscription.Codec
import EventRelay.Proofs.Subscription.Identity

set_option autoImplicit false

/-!
Entries that a client gets and sends back. The configuration side finds an entry under its own path,
and what it shows of it can be read again as the entry. So sending that back changes nothing, as
long as it is no longer than a body may be.
-/
namespace EventRelay.ConfigApi

open Json (Document)

def Kind.part : Kind → String
  | .eventTypes => "eventtypes"
  | .functions => "functions"
  | .subscriptions => "subscriptions"

def entriesPath (kind : Kind) (space : String) : String :=
  "/".intercalate ["", "v1", "spaces", space, kind.part]

def entryPath (kind : Kind) (space name : String) : String :=
  "/".intercalate ["", "v1", "spaces", space, kind.part, name]

section Paths
variable {kind : Kind} {space name : String}

theorem Kind.ofPart?_part (kind : Kind) : Kind.ofPart? kind.part = some kind := by
  cases kind <;> rfl

theorem Kind.slash_not_mem_part (kind : Kind) : '/' ∉ kind.part.toList := by
  cases kind <;> decide +kernel

theorem slash_not_mem_of_isIdentifier {text : String} (identifies : isIdentifier text = true) :
    '/' ∉ text.toList := by
  intro member
  rw [isIdentifier, Bool.and_eq_true] at identifies
  exact absurd (List.all_eq_true.mp identifies.2 '/' member) (by decide)

theorem whole_parts (spaced : isIdentifier space = true) :
    ∀ part ∈ ["", "v1", "spaces", space, kind.part], '/' ∉ part.toList := by
  have constant : ∀ part ∈ ["", "v1", "spaces"], '/' ∉ part.toList := by decide +kernel
  intro part member
  simp only [List.mem_cons, List.not_mem_nil, or_false] at member constant
  rcases member with first | second | third | rfl | rfl
  · exact constant part (Or.inl first)
  · exact constant part (Or.inr (Or.inl second))
  · exact constant part (Or.inr (Or.inr third))
  · exact slash_not_mem_of_isIdentifier spaced
  · exact kind.slash_not_mem_part

theorem ofPath?_entriesPath (spaced : isIdentifier space = true) :
    Resource.ofPath? (entriesPath kind space) = some (.entries kind space) := by
  have pieces : Text.pieces '/' (entriesPath kind space) =
      ["", "v1", "spaces", space, kind.part] :=
    Text.pieces_intercalate (List.cons_ne_nil _ _) (whole_parts spaced)
  have filled := isEmpty_of_isIdentifier spaced
  simp [Resource.ofPath?, pieces, filled, kind.ofPart?_part]

theorem ofPath?_entryPath (spaced : isIdentifier space = true)
    (named : isIdentifier name = true) :
    Resource.ofPath? (entryPath kind space name) = some (.entry kind space name) := by
  have whole : ∀ part ∈ ["", "v1", "spaces", space, kind.part] ++ [name], '/' ∉ part.toList := by
    intro part member
    rcases List.mem_append.mp member with front | last
    · exact whole_parts spaced part front
    · rw [List.mem_singleton.mp last]
      exact slash_not_mem_of_isIdentifier named
  have pieces : Text.pieces '/' (entryPath kind space name) =
      ["", "v1", "spaces", space, kind.part, name] :=
    Text.pieces_intercalate (List.cons_ne_nil _ _) whole
  have filled := isEmpty_of_isIdentifier spaced
  have filledName := isEmpty_of_isIdentifier named
  simp [Resource.ofPath?, pieces, filled, filledName, kind.ofPart?_part]

theorem decodePart_of_isIdentifier (label : String) {part : String}
    (identifies : isIdentifier part = true) : decodePart label part = .ok part := by
  have visible := isFieldText_of_visible (visible_of_isIdentifier identifies)
  have plain : 0x25 ∉ Text.encode part := by
    rw [encode_of_isFieldText visible]
    intro member
    obtain ⟨c, listed, same⟩ := List.mem_map.mp member
    have number := toNat_byte (List.all_eq_true.mp visible c listed)
    have sign : c = '%' := by
      rw [same] at number
      exact Char.toNat_inj.mp number.symm
    rw [isIdentifier, Bool.and_eq_true] at identifies
    have allowed := List.all_eq_true.mp identifies.2 c listed
    rw [sign] at allowed
    exact absurd allowed (by decide)
  rw [decodePart, Percent.decode_of_not_mem plain, Text.decode?_encode]

end Paths

/-- A request that may be handled calls a method of a path. -/
structure Calls (request : Request) (key : Option String) (method path : String) : Prop where
  authorized : isAuthorized key request.headers = true
  method : request.method = method
  path : request.uri.path = path

/-- A request brings JSON that is no longer than may be read and than it declares. -/
structure Sends (request : Request) (limit : Nat) (content : Bytes) : Prop where
  typed : request.headers.sayJson = true
  carries : request.body = content
  fits : content.length ≤ min limit Request.jsonLimit
  declared : ∀ n, request.declaredLength? = some n → content.length ≤ n

section Requests
variable {c : Catalog} {request : Request} {key : Option String} {limit : Nat} {kind : Kind}
  {space name method : String}

theorem Calls.handle_entry (calls : Calls request key method (entryPath kind space name))
    (known : method ∈ (Resource.entry kind space name).methods)
    (spaced : isIdentifier space = true) (named : isIdentifier name = true) :
    handle c key limit request =
      if method = "PUT" then update c kind space name request limit
      else if method = "DELETE" then delete c kind space name
      else get c kind space name := by
  have allowed : ¬ ¬ (Resource.entry kind space name).methods.contains method = true :=
    not_not_intro (List.contains_iff_mem.mpr known)
  rw [handle, if_pos calls.authorized]
  delta handleAuthorized
  rw [calls.path, ofPath?_entryPath spaced named]
  simp only [calls.method, allowed, ↓reduceIte, handleEntry,
    decodePart_of_isIdentifier _ spaced, decodePart_of_isIdentifier _ named]

theorem Calls.handle_entries (calls : Calls request key "POST" (entriesPath kind space))
    (spaced : isIdentifier space = true) :
    handle c key limit request = create c kind space request limit := by
  have allowed : ¬ ¬ (Resource.entries kind space).methods.contains "POST" = true :=
    not_not_intro (by simp [Resource.methods])
  rw [handle, if_pos calls.authorized]
  delta handleAuthorized
  rw [calls.path, ofPath?_entriesPath spaced]
  simp only [calls.method, allowed, ↓reduceIte, handleEntries, decodePart_of_isIdentifier _ spaced]

theorem Sends.bodyWithin?_eq {content : Bytes} (sends : Sends request limit content) :
    request.bodyWithin? (min limit Request.jsonLimit) = some content := by
  have fits := sends.fits
  unfold Request.bodyWithin? Request.bodyUpTo?
  rw [sends.carries]
  cases declared : request.declaredLength? with
  | none => exact if_pos fits
  | some n => exact if_pos (Nat.le_min.mpr ⟨sends.declared n declared, fits⟩)

theorem Sends.withBody_eq {value : Json} (sends : Sends request limit (Text.encode value.compact))
    (back : value.ReadsBack) {α : Type} {reader : Json.Reader α} {x : α}
    (read : Json.readValue reader value = .ok x) (go : α → Outcome) :
    withBody c request limit reader go = go x := by
  rw [withBody, sends.bodyWithin?_eq, Request.readJson, if_neg (not_not_intro sends.typed)]
  simp only [back.readBytes_eq, read]

theorem bodyWithin?_of_long (long : limit < request.body.length) :
    request.bodyWithin? limit = none := by
  unfold Request.bodyWithin? Request.bodyUpTo?
  cases request.declaredLength? with
  | none => exact if_neg (by omega)
  | some n => exact if_neg (by omega)

/-- What is longer than may be read is refused, whatever it is. -/
theorem withBody_of_long (typed : request.headers.sayJson = true)
    (long : min limit Request.jsonLimit < request.body.length) {α : Type}
    (reader : Json.Reader α) (go : α → Outcome) :
    withBody c request limit reader go = refused c (.body .tooLong) := by
  rw [withBody, bodyWithin?_of_long long, Request.readJson, if_neg (not_not_intro typed)]

theorem Calls.put_long (calls : Calls request key "PUT" (entryPath kind space name))
    (replaceable : kind ≠ .eventTypes) (spaced : isIdentifier space = true)
    (named : isIdentifier name = true) (typed : request.headers.sayJson = true)
    (long : min limit Request.jsonLimit < request.body.length) :
    handle c key limit request = refused c (.body .tooLong) := by
  cases kind with
  | eventTypes => exact absurd rfl replaceable
  | functions =>
      rw [calls.handle_entry (by simp [Resource.methods]) spaced named]
      exact withBody_of_long typed long _ _
  | subscriptions =>
      rw [calls.handle_entry (by simp [Resource.methods]) spaced named]
      exact withBody_of_long typed long _ _

end Requests

section Entries
variable {c : Catalog} {key : Option String} {limit : Nat} {request : Request}

theorem body_shown (c : Catalog) (value : Json) :
    (shown c value).response.body = Text.encode value.compact := rfl

theorem readValue_providerRecord (f : FunctionEntry) :
    Json.readValue providerRecord.read f.toJson = .ok f.provider := by
  have read := f.provider.readValue_toJson
  have taken : providerRecord.take "provider" (Document.ofJson f.provider.toJson)
      providerRecord.blank = .ok f.provider := read
  rw [FunctionEntry.toJson_eq, Json.readValue, Document.ofJson, FunctionEntry.members,
    Document.ofMembers, Document.ofMembers, Document.ofMembers, Document.ofMembers,
    Json.Record.read, Json.Record.takeMembers_of_unknown rfl rfl,
    Json.Record.takeMembers_of_known rfl rfl taken, Json.Record.takeMembers_of_unknown rfl rfl]
  rfl

section Functions
variable {f : FunctionEntry} {address : Scoped FunctionId} (reachable : c.Reachable)
  (stored : (address, f) ∈ c.functions)
include reachable stored

theorem get_function : get c .functions f.space f.id.text = shown c f.toJson := by
  have found := (Catalog.getFunction_eq_ok_iff ..).mpr (reachable.sound.get?_function stored)
  show ConfigApi.found c FunctionEntry.toJson (c.getFunction f.space f.id) = _
  rw [found]
  rfl

theorem update_function (sends : Sends request limit (Text.encode f.toJson.compact)) :
    update c .functions f.space f.id.text request limit = shown c f.toJson := by
  have kept := reachable.sound.updateFunction_self stored
  rw [update, sends.withBody_eq f.readsBack_toJson (readValue_providerRecord f)]
  show written c false (replaced FunctionEntry.toJson)
    (c.updateFunction f.space f.id f.provider) = _
  rw [kept]
  rfl

end Functions

section Subscriptions
variable {s : Subscription} (reachable : c.Reachable) (stored : s ∈ c.allSubscriptions)
include reachable stored

theorem get_subscription : get c .subscriptions s.space s.id.text = shown c s.toJson := by
  obtain ⟨address, listed, -⟩ := reachable.supports stored
  have found := (Catalog.getSubscription_eq_ok_iff ..).mpr
    (reachable.sound.get?_subscription listed)
  show ConfigApi.found c Subscription.toJson (c.getSubscription s.space s.id) = _
  rw [found]
  rfl

theorem update_subscription (sends : Sends request limit (Text.encode s.toJson.compact)) :
    update c .subscriptions s.space s.id.text request limit = shown c s.toJson := by
  obtain ⟨address, listed, -⟩ := reachable.supports stored
  have kept := reachable.sound.updateSubscription_self listed
  rw [update, sends.withBody_eq s.readsBack_toJson (s.readValue_toJson false)]
  show written c false (replaced Subscription.toJson) (c.updateSubscription s.space s.id s) = _
  rw [kept]
  rfl

theorem create_subscription (sends : Sends request limit (Text.encode s.toJson.compact)) :
    ∃ without, delete c .subscriptions s.space s.id.text = ⟨.ofStatus 204, without, true⟩ ∧
      create without .subscriptions s.space request limit =
        ⟨created Subscription.toJson s, c, true⟩ := by
  obtain ⟨without, deleted, restored⟩ := reachable.createSubscription_without stored
  refine ⟨without, ?_, ?_⟩
  · show written c true removed (c.deleteSubscription s.space s.id) = _
    rw [deleted]
    rfl
  · rw [create, sends.withBody_eq s.readsBack_toJson (s.readValue_toJson false)]
    show written without true (created Subscription.toJson) (without.createSubscription s) = _
    rw [restored]
    rfl

end Subscriptions
end Entries

/-- **What is got can be sent back.** Of a catalog that comes about, every subscription and every
function is shown under its own path, and a request that puts there what was shown is answered as it
was, and leaves the catalog as it is; a subscription that is deleted and then created from what was
shown has the same id, and the catalog is what it was. Only the length of a body is limited. -/
theorem got_can_be_sent_back {c : Catalog} (reachable : c.Reachable) (key : Option String)
    (limit : Nat) :
    (∀ s ∈ c.allSubscriptions, ∀ get,
      Calls get key "GET" (entryPath .subscriptions s.space s.id.text) →
      handle c key limit get = shown c s.toJson ∧
      (∀ put, Calls put key "PUT" (entryPath .subscriptions s.space s.id.text) →
        Sends put limit (handle c key limit get).response.body →
        handle c key limit put = handle c key limit get) ∧
      ∀ delete post, Calls delete key "DELETE" (entryPath .subscriptions s.space s.id.text) →
        Calls post key "POST" (entriesPath .subscriptions s.space) →
        Sends post limit (handle c key limit get).response.body →
        (handle c key limit delete).response = .ofStatus 204 ∧
          handle (handle c key limit delete).catalog key limit post =
            ⟨created Subscription.toJson s, c, true⟩) ∧
    ∀ address f, (address, f) ∈ c.functions → ∀ get,
      Calls get key "GET" (entryPath .functions f.space f.id.text) →
      handle c key limit get = shown c f.toJson ∧
      ∀ put, Calls put key "PUT" (entryPath .functions f.space f.id.text) →
        Sends put limit (handle c key limit get).response.body →
        handle c key limit put = handle c key limit get := by
  constructor
  · intro s stored get getting
    obtain ⟨address, listed, supports⟩ := reachable.supports stored
    have spaced := isIdentifier_of_isSpaceName (reachable.isSpaceName_of_stored stored)
    have named : isIdentifier s.id.text = true := by
      rw [supports.normal.id]
      exact s.isIdentifier_computeId
    have showing : handle c key limit get = shown c s.toJson := by
      rw [getting.handle_entry (by simp [Resource.methods]) spaced named]
      exact get_subscription reachable stored
    rw [showing, body_shown]
    refine ⟨rfl, fun put putting sends => ?_, fun delete post deleting posting sends => ?_⟩
    · rw [putting.handle_entry (by simp [Resource.methods]) spaced named]
      exact update_subscription reachable stored sends
    · obtain ⟨without, deleted, restored⟩ := create_subscription reachable stored sends
      have gone : handle c key limit delete = ⟨.ofStatus 204, without, true⟩ := by
        rw [deleting.handle_entry (by simp [Resource.methods]) spaced named]
        exact deleted
      rw [gone, posting.handle_entries spaced]
      exact ⟨rfl, restored⟩
  · intro address f stored get getting
    obtain ⟨-, space, named, -⟩ := reachable.sound.function address f stored
    have spaced := isIdentifier_of_isSpaceName space
    have showing : handle c key limit get = shown c f.toJson := by
      rw [getting.handle_entry (by simp [Resource.methods]) spaced named]
      exact get_function reachable stored
    rw [showing, body_shown]
    refine ⟨rfl, fun put putting sends => ?_⟩
    rw [putting.handle_entry (by simp [Resource.methods]) spaced named]
    exact update_function reachable stored sends

def exampleCall (method path : String) (content : Bytes) : Request where
  method := method
  uri := ⟨none, none, path, none⟩
  headers := [⟨"content-type", Text.encode "application/json"⟩]
  body := content

theorem calls_exampleCall (method : String) {path : String} (content : Bytes)
    (plain : Uri.path ⟨none, none, path, none⟩ = path) :
    Calls (exampleCall method path content) none method path :=
  ⟨rfl, rfl, plain⟩

theorem sends_exampleCall (method path : String) {content : Bytes} {limit : Nat}
    (fits : content.length ≤ min limit Request.jsonLimit) :
    Sends (exampleCall method path content) limit content where
  typed := by
    show Headers.sayJson [⟨"content-type", Text.encode "application/json"⟩] = true
    decide +kernel
  carries := rfl
  fits := fits
  declared n declares := by
    have undeclared : (exampleCall method path content).declaredLength? = none := by
      show Request.declaredLength? (exampleCall "" "" []) = none
      decide +kernel
    rw [undeclared] at declares
    cases declares

def examplePath : String := entryPath .subscriptions "default" Catalog.exampleAsync.id.text

/-- A subscription and a function are sent back; then the subscription is deleted and made anew. -/
theorem exampleCatalog_takes_entries_back :
    let answer := handle Catalog.exampleCatalog none 200
    let got := answer (exampleCall "GET" examplePath [])
    let gone := answer (exampleCall "DELETE" examplePath [])
    let again := exampleCall "POST" (entriesPath .subscriptions "default") got.response.body
    let crm := entryPath .functions "default" "crm"
    let gotCrm := answer (exampleCall "GET" crm [])
    got = shown Catalog.exampleCatalog Catalog.exampleAsync.toJson ∧
    answer (exampleCall "PUT" examplePath got.response.body) = got ∧
    (handle gone.catalog none 200 again).catalog = Catalog.exampleCatalog ∧
    answer (exampleCall "PUT" crm gotCrm.response.body) = gotCrm := by
  have plain : Uri.path ⟨none, none, examplePath, none⟩ = examplePath := by decide +kernel
  have plainCrm : Uri.path ⟨none, none, entryPath .functions "default" "crm", none⟩ =
      entryPath .functions "default" "crm" := by
    decide +kernel
  obtain ⟨subscriptions, functions⟩ :=
    got_can_be_sent_back Catalog.reachable_exampleCatalog none 200
  obtain ⟨showing, replacing, remaking⟩ := subscriptions Catalog.exampleAsync
    (List.mem_cons_self ..) (exampleCall "GET" examplePath []) (calls_exampleCall "GET" [] plain)
  obtain ⟨-, replacingCrm⟩ := functions _ _ (List.mem_singleton.mpr rfl) _
    (calls_exampleCall "GET" [] plainCrm)
  have fits : (handle Catalog.exampleCatalog none 200
      (exampleCall "GET" examplePath [])).response.body.length ≤ min 200 Request.jsonLimit := by
    rw [showing]
    decide +kernel
  have remade := (remaking _ _ (calls_exampleCall "DELETE" [] plain)
    (calls_exampleCall "POST" _ (by decide +kernel)) (sends_exampleCall _ _ fits)).2
  refine ⟨showing, ?_, congrArg Outcome.catalog remade, ?_⟩
  · exact replacing _ (calls_exampleCall "PUT" _ plain) (sends_exampleCall _ _ fits)
  · exact replacingCrm _ (calls_exampleCall "PUT" _ plainCrm)
      (sends_exampleCall _ _ (by decide +kernel))

/-- What is shown of a subscription can be longer than what may be sent. -/
theorem long_entry_is_not_taken_back :
    Catalog.exampleCatalog.Reachable ∧
    Catalog.exampleAsync ∈ Catalog.exampleCatalog.allSubscriptions ∧
    let got := handle Catalog.exampleCatalog none 100 (exampleCall "GET" examplePath [])
    let put := exampleCall "PUT" examplePath got.response.body
    got = shown Catalog.exampleCatalog Catalog.exampleAsync.toJson ∧
    Calls put none "PUT" examplePath ∧ put.headers.sayJson = true ∧
    (handle Catalog.exampleCatalog none 100 put).response.status = 400 := by
  have stored : Catalog.exampleAsync ∈ Catalog.exampleCatalog.allSubscriptions :=
    List.mem_cons_self ..
  have plain : Uri.path ⟨none, none, examplePath, none⟩ = examplePath := by decide +kernel
  have typed : Headers.sayJson [⟨"content-type", Text.encode "application/json"⟩] = true := by
    decide +kernel
  refine ⟨Catalog.reachable_exampleCatalog, stored, ?_, calls_exampleCall _ _ plain, typed, ?_⟩
  · rw [(calls_exampleCall "GET" [] plain).handle_entry (by simp [Resource.methods])
      (by decide +kernel) (by decide +kernel)]
    exact get_subscription Catalog.reachable_exampleCatalog stored
  · rw [(calls_exampleCall "PUT" _ plain).put_long (by decide) (by decide +kernel)
      (by decide +kernel) typed (by decide +kernel)]
    rfl

end EventRelay.ConfigApi
