import EventRelay.Proofs.ConfigApi.Requests

set_option autoImplicit false

/-!
Writes are done wholly or not at all. One that is refused, by the catalog or by the configuration
side, leaves everything as it was; one that is done changes the one entry that it is about.
-/
namespace EventRelay

namespace Catalog

/-- What a write that succeeds does to a catalog, and what it gives. -/
structure Effect (c : Catalog) (w : Write) (result : Option Entry) (after : Catalog) : Prop where
  result : result = w.entry?
  stood : (c.entryAt? w.address).isNone = w.adds
  put : after.entryAt? w.address = w.entry?
  differ : DifferAt c after w.address
  lookups : (∀ id, w.address.name ≠ .subscription id) → SameLookups c after

section Effects
variable {c after : Catalog} {w : Write} {result : Option Entry}

theorem entryAt?_ne_subscription {address : Scoped EntryName}
    (other : ∀ id, address.name ≠ .subscription id) (s : Subscription) :
    c.entryAt? address ≠ some (.subscription s) := by
  obtain ⟨space, name⟩ := address
  cases name with
  | eventType type => simp [entryAt?]
  | function id => simp [entryAt?]
  | subscription id => exact absurd rfl (other id)

theorem effect_of_write (reachable : Reachable c) (ok : c.write w = .ok (result, after)) :
    Effect c w result after := by
  obtain ⟨given, stood, entries⟩ := entryAt?_write reachable.sound ok
  have differ : DifferAt c after w.address := by
    refine differAt_of_entries reachable (reachable.write ok) fun other apart => ?_
    rw [entries, if_neg apart]
  refine ⟨given, stood, ?_, differ, fun plain => ?_⟩
  · rw [entries, if_pos rfl]
  · exact differ.sameLookups fun s =>
      ⟨entryAt?_ne_subscription plain s, entryAt?_ne_subscription plain s⟩

end Effects
end Catalog

namespace ConfigApi

open Catalog (Effect Entry SameLookups Write)

inductive Ends (c : Catalog) (request : Request) (outcome : Outcome) : Prop
  | refused (refuses : Refuses outcome.response) (kept : outcome.catalog = c)
  | seen (status : outcome.response.status = 200)
      (reads : request.method = "GET" ∨ request.method = "HEAD") (kept : outcome.catalog = c)
  | written {resource : Resource} {w : Write} {result : Option Entry}
      (path : Resource.ofPath? request.uri.path = some resource)
      (names : resource.Names w.address) (method : request.method = writeMethod w)
      (ok : c.write w = .ok (result, outcome.catalog))
      (response : outcome.response = acknowledged w result)

section Endings
variable (c : Catalog) (request : Request)

theorem status_acknowledged (w : Write) (result : Option Entry) :
    (acknowledged w result).status < 400 := by
  cases result with
  | none => simp [acknowledged, removed, Response.ofStatus]
  | some entry =>
      by_cases adds : w.adds = true
      · simp [acknowledged, adds, created, Response.json]
      · simp [acknowledged, adds, replaced, Response.json]

theorem ends_found {α : Type} (toJson : α → Json) (outcome : Except CatalogError α)
    (reads : request.method = "GET" ∨ request.method = "HEAD") :
    Ends c request (found c toJson outcome) := by
  cases outcome with
  | error e => exact .refused (ApiError.refuses _) rfl
  | ok x => exact .seen rfl reads rfl

theorem Asks.ends {a : Ask} (asks : Asks request a) : Ends c request (a.outcome c) := by
  cases asks with
  | nothing refuses => exact .refused refuses rfl
  | status path reads => exact .seen rfl reads rfl
  | list path decoded reads => exact .seen rfl reads rfl
  | @entry kind _ _ _ _ path decoded reads =>
      cases kind with
      | eventTypes => exact ends_found c request _ _ reads
      | functions => exact ends_found c request _ _ reads
      | subscriptions => exact ends_found c request _ _ reads
  | @write w resource path names method =>
      rw [Ask.outcome]
      cases outcome : c.write w with
      | error e => exact .refused (ApiError.refuses _) rfl
      | ok success => exact .written path names method outcome rfl

theorem ends_handle (key : Option String) (limit : Nat) :
    Ends c request (handle c key limit request) := by
  rw [handle_eq]
  exact (asks_ask request limit key).ends c

end Endings

/-- A write that is refused changes nothing, and one that succeeds changes what it is about; so it
is with the requests that ask for one. -/
theorem writes_all_or_nothing {c : Catalog} (reachable : c.Reachable) :
    (∀ w e, c.write w = .error e →
      c.apply w.operation = c ∧ SameLookups c (c.apply w.operation)) ∧
    (∀ w result after, c.write w = .ok (result, after) →
      c.apply w.operation = after ∧ Effect c w result after) ∧
    (∀ key limit request,
      (400 ≤ (handle c key limit request).response.status →
        (handle c key limit request).response.status < 500 ∧
        (handle c key limit request).catalog = c ∧
        SameLookups c (handle c key limit request).catalog) ∧
      ((handle c key limit request).response.status < 400 →
        (request.method = "GET" ∨ request.method = "HEAD") ∧
          (handle c key limit request).catalog = c ∨
        ∃ resource w result, Resource.ofPath? request.uri.path = some resource ∧
          resource.Names w.address ∧ request.method = writeMethod w ∧
          (handle c key limit request).response = acknowledged w result ∧
          c.write w = .ok (result, (handle c key limit request).catalog) ∧
          Effect c w result (handle c key limit request).catalog)) := by
  have unchanged := reachable.sameLookups
  refine ⟨?_, ?_, ?_⟩
  · intro w e failed
    have kept : c.apply w.operation = c := by
      rw [Catalog.apply_operation, failed, Catalog.afterOutcome]
    rw [kept]
    exact ⟨rfl, unchanged⟩
  · intro w result after ok
    have done : c.apply w.operation = after := by
      rw [Catalog.apply_operation, ok, Catalog.afterOutcome]
    exact ⟨done, Catalog.effect_of_write reachable ok⟩
  · intro key limit request
    cases ends_handle c request key limit with
    | refused refuses kept =>
        refine ⟨fun _ => ⟨refuses.2, kept, ?_⟩, fun success => ?_⟩
        · rwa [kept]
        · exact absurd refuses.1 (Nat.not_le.mpr success)
    | seen status reads kept =>
        refine ⟨fun failure => ?_, fun _ => Or.inl ⟨reads, kept⟩⟩
        omega
    | @written resource w result path names method ok response =>
        have success := status_acknowledged w result
        rw [← response] at success
        refine ⟨fun failure => absurd failure (Nat.not_le.mpr success), fun _ => Or.inr ?_⟩
        exact ⟨resource, w, result, path, names, method, response, ok,
          Catalog.effect_of_write reachable ok⟩

/-- A request to remove the function of the example's subscriptions. -/
def exampleRemoval : Request :=
  ⟨"DELETE", ⟨none, none, "/v1/spaces/default/functions/crm", none⟩, [], []⟩

theorem exampleCatalog_keeps_function :
    (handle Catalog.exampleCatalog none 100 exampleRemoval).response.status = 409 ∧
    (handle Catalog.exampleCatalog none 100 exampleRemoval).catalog = Catalog.exampleCatalog ∧
    ∃ result after,
      Catalog.exampleCatalog.write (.deleteSubscription "default" Catalog.exampleAsync.computeId) =
        .ok (result, after) ∧
      Effect Catalog.exampleCatalog
        (.deleteSubscription "default" Catalog.exampleAsync.computeId) result after := by
  obtain ⟨-, done, requested⟩ := writes_all_or_nothing Catalog.reachable_exampleCatalog
  have refused : (handle Catalog.exampleCatalog none 100 exampleRemoval).response.status = 409 := by
    decide +kernel
  obtain ⟨-, kept, -⟩ := (requested none 100 exampleRemoval).1 (by rw [refused]; decide)
  refine ⟨refused, kept, _, _, rfl, ?_⟩
  exact (done _ _ _ rfl).2

end ConfigApi
end EventRelay
