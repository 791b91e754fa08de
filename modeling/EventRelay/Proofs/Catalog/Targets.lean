import EventRelay.Function.Invocation
import EventRelay.Proofs.Catalog.Routing

set_option autoImplicit false

/-!
Where calls of functions go once another function is removed. A removed function is named by no
subscription, but a weighted one may still choose it: then the call fails, and the removed function
is what is missing. All other calls go where they went.
-/
namespace EventRelay.Catalog

/-- What a function chooses among others with given random words; one that is backed by a URL makes
no choice. -/
def choice? (c : Catalog) (space : String) (id : FunctionId) (words : Words) : Option FunctionId :=
  match c.provider space id with
  | .ok (.weighted functions) => (WeightedFunction.choose functions words).1.toOption
  | _ => none

theorem targetUrl_of_weighted {c : Catalog} {space : String} {id : FunctionId}
    {functions : List WeightedFunction} {words : Words}
    (weighted : c.provider space id = .ok (.weighted functions)) :
    c.targetUrl space id words =
      ((WeightedFunction.choose functions words).1.bind (c.chosenUrl space),
        (WeightedFunction.choose functions words).2) := by
  simp only [targetUrl, weighted]
  rcases WeightedFunction.choose functions words with ⟨_ | chosen, rest⟩
  · rfl
  · rfl

theorem choice?_eq_some_iff {c : Catalog} {space : String} {id chosen : FunctionId}
    {words : Words} : c.choice? space id words = some chosen ↔ ∃ functions,
      c.provider space id = .ok (.weighted functions) ∧
        (WeightedFunction.choose functions words).1 = .ok chosen := by
  unfold choice?
  split
  · rename_i functions weighted
    rw [toOption_eq_some_iff, weighted]
    simp
  · rename_i other
    simp only [reduceCtorEq, false_iff]
    rintro ⟨functions, weighted, -⟩
    exact other functions weighted

section Removal
variable {c after : Catalog} {space : String} {id : FunctionId}
  (deleted : c.deleteFunction space id = .ok ((), after))
include deleted

theorem getFunction_of_deleted (other : FunctionId) : after.getFunction space other =
    if other = id then .error (.functionNotFound id) else c.getFunction space other := by
  obtain ⟨-, -, rfl⟩ := (deleteFunction_eq_ok_iff ..).mp deleted
  by_cases same : other = id
  · subst same
    simp [getFunction, Keyed.get?_erase]
  · simp [getFunction, Keyed.get?_erase, same, Ne.symm same]

theorem provider_of_deleted (other : FunctionId) : after.provider space other =
    if other = id then .error (.notFound id) else c.provider space other := by
  rw [provider, getFunction_of_deleted deleted]
  by_cases same : other = id
  · simp [same]
  · simp only [same, ↓reduceIte, provider]

theorem chosenUrl_of_deleted (other : FunctionId) : after.chosenUrl space other =
    if other = id then .error (.notFound id) else c.chosenUrl space other := by
  rw [chosenUrl, provider_of_deleted deleted]
  by_cases same : other = id
  · simp [same]
  · simp only [same, ↓reduceIte, chosenUrl]

/-- A call of another function goes where it went, unless the removed one is chosen. -/
theorem targetUrl_of_deleted {other : FunctionId} (unlike : other ≠ id) (words : Words) :
    after.targetUrl space other words =
      if c.choice? space other words = some id then
        (.error (.notFound id), (c.targetUrl space other words).2)
      else c.targetUrl space other words := by
  have same := provider_of_deleted deleted other
  rw [if_neg unlike] at same
  split
  · rename_i chosen
    obtain ⟨functions, weighted, fell⟩ := choice?_eq_some_iff.mp chosen
    rw [targetUrl_of_weighted (same.trans weighted), targetUrl_of_weighted weighted, fell,
      Except.bind, chosenUrl_of_deleted deleted, if_pos rfl]
  · rename_i spared
    cases provided : c.provider space other with
    | error e => simp only [targetUrl, same, provided]
    | ok provider =>
        cases provider with
        | http url => simp only [targetUrl, same, provided]
        | weighted functions =>
            rw [targetUrl_of_weighted (same.trans provided), targetUrl_of_weighted provided]
            cases fell : (WeightedFunction.choose functions words).1 with
            | error e => rfl
            | ok chosen =>
                have unlike : chosen ≠ id := by
                  rintro rfl
                  exact spared (choice?_eq_some_iff.mpr ⟨functions, provided, fell⟩)
                rw [Except.bind, Except.bind, chosenUrl_of_deleted deleted, if_neg unlike]

end Removal

/-- Removing a function leaves alone where calls for subscriptions go, but for those in which a
weighted function chooses the removed one. Let a subscription of the space name a function that some
random words lead to a URL. After the removal the same words lead to the same URL, and are used up
alike, unless they make the function choose the removed one; then the call fails, since the removed
one is not found. -/
theorem removal_spares_targets {c after : Catalog} {space : String} {id : FunctionId}
    (deleted : c.deleteFunction space id = .ok ((), after)) {s : Subscription}
    (stored : s ∈ c.allSubscriptions) (here : s.space = space) {words rest : Words} {url : String}
    (resolved : c.targetUrl space s.functionId words = (.ok url, rest)) :
    after.targetUrl space s.functionId words =
      (if c.choice? space s.functionId words = some id then .error (.notFound id) else .ok url,
        rest) := by
  have unlike : s.functionId ≠ id := by
    obtain ⟨-, unused, -⟩ := (deleteFunction_eq_ok_iff ..).mp deleted
    exact fun same => unused s stored ⟨here, same⟩
  rw [targetUrl_of_deleted deleted unlike, resolved]
  split <;> rfl

/-- A function with two versions, between which a third one chooses. -/
def exampleVersions : Catalog where
  eventTypes := []
  functions := [
    (⟨"default", ⟨"crm"⟩⟩, ⟨"default", ⟨"crm"⟩, .weighted [⟨⟨"crm-v1"⟩, 1⟩, ⟨⟨"crm-v2"⟩, 1⟩]⟩),
    (⟨"default", ⟨"crm-v1"⟩⟩, ⟨"default", ⟨"crm-v1"⟩, .http "http://[::1]:9001/"⟩),
    (⟨"default", ⟨"crm-v2"⟩⟩, ⟨"default", ⟨"crm-v2"⟩, .http "http://[::1]:9002/"⟩)]
  subscriptions := [(⟨"default", exampleSync.computeId⟩, exampleSync)]

theorem reachable_exampleVersions : Reachable exampleVersions := by
  have run := reachable_foldl .empty
    [.registerFunction ⟨"default", ⟨"crm"⟩, .weighted [⟨⟨"crm-v1"⟩, 1⟩, ⟨⟨"crm-v2"⟩, 1⟩]⟩,
      .registerFunction ⟨"default", ⟨"crm-v1"⟩, .http "http://[::1]:9001/"⟩,
      .registerFunction ⟨"default", ⟨"crm-v2"⟩, .http "http://[::1]:9002/"⟩,
      .createSubscription (.ofSync "default" "http.request" "crm" "get" "users/:id")]
  have same : List.foldl apply .empty
    [.registerFunction ⟨"default", ⟨"crm"⟩, .weighted [⟨⟨"crm-v1"⟩, 1⟩, ⟨⟨"crm-v2"⟩, 1⟩]⟩,
      .registerFunction ⟨"default", ⟨"crm-v1"⟩, .http "http://[::1]:9001/"⟩,
      .registerFunction ⟨"default", ⟨"crm-v2"⟩, .http "http://[::1]:9002/"⟩,
      .createSubscription (.ofSync "default" "http.request" "crm" "get" "users/:id")] =
      exampleVersions := by
    decide +kernel
  rwa [same] at run

/-- The catalog after the first version is removed. -/
def exampleNewVersion : Catalog :=
  { exampleVersions with
    functions := Keyed.erase exampleVersions.functions ⟨"default", ⟨"crm-v1"⟩⟩ }

theorem exampleVersions_deleteFunction :
    exampleVersions.deleteFunction "default" ⟨"crm-v1"⟩ = .ok ((), exampleNewVersion) := by
  refine (deleteFunction_eq_ok_iff ..).mpr ⟨⟨_, rfl⟩, ?_, rfl⟩
  simp [exampleVersions, allSubscriptions, exampleSync, Subscription.identified,
    Subscription.ofSync, Subscription.ofAsync]

theorem mem_exampleVersions : exampleSync ∈ exampleVersions.allSubscriptions :=
  List.mem_singleton_self _

/-- Where the choice falls on the other version, calls go where they went. -/
theorem exampleNewVersion_is_called :
    exampleVersions.targetUrl "default" exampleSync.functionId [0x8000000000000000] =
      (.ok "http://[::1]:9002/", []) ∧
    exampleNewVersion.targetUrl "default" exampleSync.functionId [0x8000000000000000] =
      (.ok "http://[::1]:9002/", []) := by
  have resolved : exampleVersions.targetUrl "default" exampleSync.functionId [0x8000000000000000] =
      (.ok "http://[::1]:9002/", []) := by decide +kernel
  have spared : exampleVersions.choice? "default" exampleSync.functionId [0x8000000000000000] ≠
      some ⟨"crm-v1"⟩ := by decide +kernel
  have after :=
    removal_spares_targets exampleVersions_deleteFunction mem_exampleVersions rfl resolved
  rw [if_neg spared] at after
  exact ⟨resolved, after⟩

/-- A function that a subscription names can lose its URL to the removal of one that it chooses. -/
theorem exampleVersions_lose_target : exampleVersions.Reachable ∧
    exampleVersions.deleteFunction "default" ⟨"crm-v1"⟩ = .ok ((), exampleNewVersion) ∧
    (∃ s ∈ exampleVersions.allSubscriptions, s.space = "default" ∧ s.functionId = ⟨"crm"⟩) ∧
    exampleVersions.targetUrl "default" ⟨"crm"⟩ [0] = (.ok "http://[::1]:9001/", []) ∧
    exampleNewVersion.targetUrl "default" ⟨"crm"⟩ [0] = (.error (.notFound ⟨"crm-v1"⟩), []) :=
  ⟨reachable_exampleVersions, exampleVersions_deleteFunction,
    ⟨exampleSync, mem_exampleVersions, rfl, rfl⟩, by decide +kernel, by decide +kernel⟩

end EventRelay.Catalog
