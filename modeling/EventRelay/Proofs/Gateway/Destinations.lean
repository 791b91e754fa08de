import EventRelay.Proofs.Catalog.Targets
import EventRelay.Proofs.Function.Weighted
import EventRelay.Proofs.Gateway.Performing

set_option autoImplicit false

/-!
Where calls of functions end. Every provider in a catalog that comes about has passed its check, in
whatever order functions were registered, updated, removed and seeded. So a weighted function always
chooses one of those that it lists, and a call leads to the URL of a function of the same space or
fails because a function is missing or is itself weighted.
-/
namespace EventRelay

namespace WeightedFunction
variable {functions : List WeightedFunction}

theorem exists_mem_of_weightOf_pos {id : FunctionId} (weighty : 0 < weightOf id functions) :
    ∃ f ∈ functions, f.functionId = id := by
  by_contra unlisted
  have none : functions.filter (·.functionId = id) = [] := by
    apply List.filter_eq_nil_iff.mpr
    intro f listed same
    exact unlisted ⟨f, listed, of_decide_eq_true same⟩
  rw [weightOf, none] at weighty
  exact absurd weighty (Nat.lt_irrefl 0)

theorem weight_pos_of_validate (valid : (Provider.weighted functions).validate = .ok ()) :
    functions ≠ [] ∧ ∀ f ∈ functions, 0 < f.weight.toNat := by
  simp only [Provider.validate] at valid
  split at valid
  · cases valid
  · rename_i some
    split at valid
    · cases valid
    · rename_i positive
      refine ⟨by simpa using some, fun f listed => ?_⟩
      apply Nat.pos_of_ne_zero
      intro zero
      have weightless : f.weight = 0 := UInt32.toNat_inj.mp zero
      exact positive (List.any_eq_true.mpr ⟨f, listed, by simp [weightless]⟩)

theorem total_pos (some : functions ≠ []) (positive : ∀ f ∈ functions, 0 < f.weight.toNat) :
    0 < total functions := by
  cases functions with
  | nil => exact absurd rfl some
  | cons f rest =>
      have first : 0 < f.weight.toNat := positive f List.mem_cons_self
      rw [total_cons]
      omega

theorem exists_choose_of_validate (valid : (Provider.weighted functions).validate = .ok ())
    (words : Words) : ∃ f ∈ functions, (choose functions words).1 = .ok f.functionId := by
  obtain ⟨some, positive⟩ := weight_pos_of_validate valid
  by_cases single : functions.length = 1
  · obtain ⟨only, rfl⟩ := List.length_eq_one_iff.mp single
    exact ⟨only, List.mem_singleton_self only, rfl⟩
  · obtain ⟨id, weighty, chosen⟩ := exists_choose single (total_pos some positive) words
    obtain ⟨f, listed, rfl⟩ := exists_mem_of_weightOf_pos weighty
    exact ⟨f, listed, by rw [chosen]⟩

end WeightedFunction

namespace Catalog

/-- The functions at which a call may end: those that a weighted function lists, and any other
function itself. -/
def EndsAt (c : Catalog) (space : String) (id last : FunctionId) : Prop :=
  match c.provider space id with
  | .ok (.weighted functions) => ∃ f ∈ functions, f.functionId = last
  | _ => last = id

section Targets
variable {c : Catalog} {space : String} {id last : FunctionId} {functions : List WeightedFunction}

theorem endsAt_of_weighted (weighted : c.provider space id = .ok (.weighted functions)) :
    c.EndsAt space id last ↔ ∃ f ∈ functions, f.functionId = last := by
  unfold EndsAt
  rw [weighted]

theorem provider_eq_ok_iff {provider : Provider} : c.provider space id = .ok provider ↔
    ∃ entry, c.getFunction space id = .ok entry ∧ entry.provider = provider := by
  unfold Catalog.provider
  cases c.getFunction space id <;> simp

theorem provider_eq_error_iff {error : FunctionError} : c.provider space id = .error error ↔
    c.getFunction space id = .error (.functionNotFound id) ∧ error = .notFound id := by
  unfold Catalog.provider getFunction
  cases Keyed.get? c.functions ⟨space, id⟩ <;> simp [eq_comm]

/-- What is found under a name has this name, and its provider has passed its check. -/
theorem Reachable.wellFormed_of_getFunction (reachable : c.Reachable) {entry : FunctionEntry}
    (found : c.getFunction space id = .ok entry) :
    entry.space = space ∧ entry.id = id ∧ entry.WellFormed := by
  have stored := (getFunction_eq_ok_iff ..).mp found
  obtain ⟨key, wellFormed⟩ := reachable.sound.function _ _ (Keyed.mem_of_get? stored)
  obtain ⟨rfl, rfl⟩ := Scoped.mk.inj key
  exact ⟨rfl, rfl, wellFormed⟩

/-- A call comes out as the function at which it ends does. -/
theorem Reachable.exists_endsAt (reachable : c.Reachable) (space : String) (id : FunctionId)
    (words : Words) :
    ∃ last, c.EndsAt space id last ∧ (c.targetUrl space id words).1 = c.chosenUrl space last := by
  cases provided : c.provider space id with
  | error e => exact ⟨id, by simp [EndsAt, provided], by simp [targetUrl, chosenUrl, provided]⟩
  | ok provider =>
      cases provider with
      | http url => exact ⟨id, by simp [EndsAt, provided], by simp [targetUrl, chosenUrl, provided]⟩
      | weighted functions =>
          obtain ⟨entry, found, backed⟩ := provider_eq_ok_iff.mp provided
          obtain ⟨-, -, -, -, valid⟩ := reachable.wellFormed_of_getFunction found
          rw [backed] at valid
          obtain ⟨f, listed, chosen⟩ :=
            WeightedFunction.exists_choose_of_validate valid words
          refine ⟨f.functionId, (endsAt_of_weighted provided).mpr ⟨f, listed, rfl⟩, ?_⟩
          rw [targetUrl_of_weighted provided, chosen, Except.bind]

theorem chosenUrl_eq_ok_iff {url : String} : c.chosenUrl space id = .ok url ↔
    ∃ entry, c.getFunction space id = .ok entry ∧ entry.provider = .http url := by
  rw [← provider_eq_ok_iff, chosenUrl]
  rcases c.provider space id with e | ⟨url⟩ | functions <;> simp

theorem chosenUrl_eq_error {error : FunctionError} (failed : c.chosenUrl space id = .error error) :
    (c.getFunction space id = .error (.functionNotFound id) ∧ error = .notFound id) ∨
      (∃ functions, c.provider space id = .ok (.weighted functions)) ∧
      error = .nestedWeighted id := by
  unfold chosenUrl at failed
  split at failed
  · rename_i e provided
    cases failed
    exact .inl (provider_eq_error_iff.mp provided)
  · cases failed
  · rename_i functions provided
    cases failed
    exact .inr ⟨⟨functions, provided⟩, rfl⟩

end Targets
end Catalog

namespace Gateway
variable {σ : Type} (network : Network σ) {g : Gateway} {space : String} {id : FunctionId}

theorem world_call_of_error {error : FunctionError}
    (failed : (g.catalog.targetUrl space id g.words).1 = .error error) (e : Event) (world : σ) :
    (call network space id e (g, world)).2.2 = world := by
  rcases resolved : g.catalog.targetUrl space id g.words with ⟨outcome, words⟩
  rw [resolved] at failed
  cases failed
  simp only [call, resolved]

theorem world_call_of_ok {url : String} {target : Url}
    (leads : (g.catalog.targetUrl space id g.words).1 = .ok url)
    (parsed : Url.parse url = .ok target) (callable : target.isCallable = true) (e : Event)
    (world : σ) :
    (call network space id e (g, world)).2.2 = (network (e.callTo target) world).2 := by
  rcases resolved : g.catalog.targetUrl space id g.words with ⟨outcome, words⟩
  rw [resolved] at leads
  cases leads
  simp only [call, resolved, callFunction_eq network world parsed callable e]

end Gateway

namespace Catalog

/-- What calls of a function do to the world outside: what one call of the network to a URL does, or
nothing. -/
def Reaches (c : Catalog) (space : String) (id : FunctionId) (words : Words) (target : Option Url) :
    Prop :=
  ∀ (σ : Type) (network : Network σ) (g : Gateway) (e : Event) (world : σ),
    g.catalog = c → g.words = words →
      (Gateway.call network space id e (g, world)).2.2 =
        match target with
        | some url => (network (e.callTo url) world).2
        | none => world

/-- Calls of functions end at registered URLs of their own space. In a catalog that comes about, the
weights of fewer than `2 ^ 32` functions sum up within words of 64 bits. Whatever the random words,
a call that leads to a URL has found it at a function of the space, which is the one that is called
or one that this lists; the URL can be parsed and has the scheme `http` or `https`, and the network
is reached there and nowhere else. A call that leads to none has met a name under which nothing is
registered, or a weighted function where one that is backed by a URL is needed; then the network is
not reached. -/
theorem calls_end_at_registered_urls {c : Catalog} (reachable : c.Reachable)
    (few : ∀ space id functions, c.provider space id = .ok (.weighted functions) →
      functions.length < Nat.pow 2 32) (space : String) (id : FunctionId) (words : Words) :
    (∀ functions, c.provider space id = .ok (.weighted functions) → ∀ k,
      (WeightedFunction.wordSum (functions.take k)).toNat =
        WeightedFunction.total (functions.take k)) ∧
    (∀ url, (c.targetUrl space id words).1 = .ok url →
      (∃ entry, c.EndsAt space id entry.id ∧ c.getFunction space entry.id = .ok entry ∧
        entry.space = space ∧ entry.provider = .http url) ∧
      ∃ target, Url.parse url = .ok target ∧ (target.scheme = "http" ∨ target.scheme = "https") ∧
        c.Reaches space id words target) ∧
    ∀ error, (c.targetUrl space id words).1 = .error error →
      (∃ last, c.EndsAt space id last ∧
        (c.getFunction space last = .error (.functionNotFound last) ∧ error = .notFound last ∨
          (∃ functions, c.provider space last = .ok (.weighted functions)) ∧
            error = .nestedWeighted last)) ∧
      c.Reaches space id words none := by
  obtain ⟨last, ends, same⟩ := reachable.exists_endsAt space id words
  refine ⟨fun functions weighted k => ?_, fun url leads => ?_, fun error failed => ?_⟩
  · have fewer := few space id functions weighted
    have taken := List.length_take_le' k functions
    exact WeightedFunction.toNat_wordSum (Nat.lt_of_le_of_lt taken fewer)
  · obtain ⟨entry, found, backed⟩ := chosenUrl_eq_ok_iff.mp (same.symm.trans leads)
    obtain ⟨here, rfl, -, -, valid⟩ := reachable.wellFormed_of_getFunction found
    rw [backed] at valid
    obtain ⟨target, parsed, callable⟩ := Provider.parse_of_validate valid
    refine ⟨⟨entry, ends, found, here, backed⟩, target, parsed, ?_, ?_⟩
    · simpa [Url.isCallable] using callable
    · rintro σ network g e world rfl rfl
      exact Gateway.world_call_of_ok network leads parsed callable e world
  · refine ⟨⟨last, ends, chosenUrl_eq_error (same.symm.trans failed)⟩, ?_⟩
    rintro σ network g e world rfl rfl
    exact Gateway.world_call_of_error network failed e world

theorem length_exampleVersions_lt {space : String} {id : FunctionId}
    {functions : List WeightedFunction}
    (weighted : exampleVersions.provider space id = .ok (.weighted functions)) :
    functions.length < Nat.pow 2 32 := by
  obtain ⟨entry, found, backed⟩ := provider_eq_ok_iff.mp weighted
  have stored := Keyed.mem_of_get? ((getFunction_eq_ok_iff ..).mp found)
  have one : entry = ⟨"default", ⟨"crm"⟩, .weighted [⟨⟨"crm-v1"⟩, 1⟩, ⟨⟨"crm-v2"⟩, 1⟩]⟩ := by
    simp only [exampleVersions, List.mem_cons, List.not_mem_nil, or_false, Prod.mk.injEq] at stored
    rcases stored with ⟨-, rfl⟩ | ⟨-, rfl⟩ | ⟨-, rfl⟩
    · rfl
    · cases backed
    · cases backed
  subst one
  cases backed
  decide

/-- The upper half of the words leads a call to the second version, and to no other URL. -/
theorem exampleVersions_call_ends : exampleVersions.Reachable ∧
    exampleVersions.targetUrl "default" ⟨"crm"⟩ [0x8000000000000000] =
      (.ok "http://[::1]:9002/", []) ∧
    ∃ entry, exampleVersions.EndsAt "default" ⟨"crm"⟩ entry.id ∧
      exampleVersions.getFunction "default" entry.id = .ok entry ∧
      entry.provider = .http "http://[::1]:9002/" := by
  have leads : exampleVersions.targetUrl "default" ⟨"crm"⟩ [0x8000000000000000] =
      (.ok "http://[::1]:9002/", []) := by decide
  obtain ⟨-, reached, -⟩ := calls_end_at_registered_urls reachable_exampleVersions
    (fun _ _ _ => length_exampleVersions_lt) "default" ⟨"crm"⟩ [0x8000000000000000]
  obtain ⟨⟨entry, ends, found, -, backed⟩, -⟩ := reached _ (by rw [leads])
  exact ⟨reachable_exampleVersions, leads, entry, ends, found, backed⟩

end Catalog
end EventRelay
