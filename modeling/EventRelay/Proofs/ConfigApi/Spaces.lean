import EventRelay.Proofs.Catalog.Isolation
import EventRelay.Proofs.ConfigApi.Requests

set_option autoImplicit false

/-!
Spaces are isolated on the configuration side too: the space of a request is the one that its path
names, whatever its body says.
-/
namespace EventRelay.ConfigApi

open Catalog (AgreeOn Reachable SameEntries Write verdict)

/-- The space of a resource as the path writes it. -/
def Resource.spacePart? : Resource → Option String
  | .status => none
  | .entries _ space => some space
  | .entry _ space _ => some space

def Ask.Within (space : String) : Ask → Prop
  | .nothing _ => True
  | .status => False
  | .list _ there => there = space
  | .entry _ there _ => there = space
  | .write w => w.address.space = space

section Paths
variable {part space : String} {rest : List String} {resource : Resource} {request : Request}

theorem Resource.spacePart?_of_path {path : String}
    (written : Text.pieces '/' path = "" :: "v1" :: "spaces" :: part :: rest)
    (found : Resource.ofPath? path = some resource) : resource.spacePart? = some part := by
  unfold ofPath? at found
  rw [written] at found
  rcases rest with _ | ⟨kindPart, _ | ⟨name, _ | ⟨more, others⟩⟩⟩
  · simp at found
  · simp only [Option.ite_none_left_eq_some, Option.map_eq_some_iff] at found
    obtain ⟨-, kind, -, rfl⟩ := found
    rfl
  · simp only [Option.ite_none_left_eq_some, Option.map_eq_some_iff] at found
    obtain ⟨-, kind, -, rfl⟩ := found
    rfl
  · simp at found

theorem Resource.Names.space_eq {address : Scoped Catalog.EntryName}
    (names : resource.Names address) (there : resource.spacePart? = some part)
    (decoded : decodePart "space" part = .ok space) : address.space = space := by
  cases resource with
  | status => cases there
  | entries kind written =>
      cases there
      rw [names.1] at decoded
      exact Except.ok.inj decoded
  | entry kind written name =>
      cases there
      rw [names.1] at decoded
      exact Except.ok.inj decoded

theorem Asks.within {a : Ask} (asks : Asks request a)
    (written : Text.pieces '/' request.uri.path = "" :: "v1" :: "spaces" :: part :: rest)
    (decoded : decodePart "space" part = .ok space) : a.Within space := by
  cases asks with
  | nothing refuses => trivial
  | status path reads => cases Resource.spacePart?_of_path written path
  | list path there reads =>
      cases Resource.spacePart?_of_path written path
      rw [there] at decoded
      exact Except.ok.inj decoded
  | entry path there reads =>
      cases Resource.spacePart?_of_path written path
      rw [there] at decoded
      exact Except.ok.inj decoded
  | write path names method =>
      exact Resource.Names.space_eq names (Resource.spacePart?_of_path written path) decoded

end Paths

def Alike (first second : Outcome) : Prop :=
  first.response = second.response ∧ first.reported = second.reported

section Outcomes
variable {space : String} {c d : Catalog} {a : Ask}

theorem alike_shown {value other : Json} (same : value = other) :
    Alike (shown c value) (shown d other) := by
  subst same
  exact ⟨rfl, rfl⟩

theorem catalog_found {α : Type} (toJson : α → Json) (outcome : Except CatalogError α) :
    (found c toJson outcome).catalog = c := by
  cases outcome <;> rfl

theorem alike_found {α : Type} (toJson : α → Json) {first second : Except CatalogError α}
    (same : first = second) : Alike (found c toJson first) (found d toJson second) := by
  subst same
  cases first <;> exact ⟨rfl, rfl⟩

theorem catalog_written {α : Type} (reported : Bool) (response : α → Response)
    (outcome : Except CatalogError (α × Catalog)) :
    (written c reported response outcome).catalog = c.afterOutcome outcome := by
  cases outcome <;> rfl

theorem alike_written {α : Type} (reported : Bool) (response : α → Response)
    {first second : Except CatalogError (α × Catalog)} (same : verdict first = verdict second) :
    Alike (written c reported response first) (written d reported response second) := by
  cases first with
  | error e =>
      cases second with
      | error f =>
          cases same
          exact ⟨rfl, rfl⟩
      | ok success => cases same
  | ok success =>
      cases second with
      | error f => cases same
      | ok other =>
          have value : success.1 = other.1 := Except.ok.inj same
          refine ⟨?_, rfl⟩
          rw [written, written, value]

/-- The catalog after a request is the one after its write, if it asks for one. -/
theorem catalog_outcome (c : Catalog) (a : Ask) :
    (a.outcome c).catalog = match a with
      | .write w => c.apply w.operation
      | _ => c := by
  cases a with
  | nothing response => rfl
  | status => rfl
  | list kind space => rfl
  | entry kind space name => cases kind <;> exact catalog_found ..
  | write w => exact (catalog_written ..).trans (Catalog.apply_operation w).symm

theorem Ask.alike_outcome (within : a.Within space) (same : SameEntries space c d)
    (reachable : Reachable c) (otherReachable : Reachable d) :
    Alike (a.outcome c) (a.outcome d) := by
  have agree := same.agreeOn reachable otherReachable
  cases a with
  | nothing response => exact ⟨rfl, rfl⟩
  | status => exact absurd within id
  | list kind there =>
      cases within
      cases kind with
      | eventTypes => exact alike_shown (congrArg (listed _ _) agree.listEventTypes)
      | functions => exact alike_shown (congrArg (listed _ _) agree.listFunctions)
      | subscriptions => exact alike_shown (congrArg (listed _ _) agree.listSubscriptions)
  | entry kind there name =>
      cases within
      cases kind with
      | eventTypes => exact alike_found _ (agree.getEventType _)
      | functions => exact alike_found _ (agree.getFunction _)
      | subscriptions => exact alike_found _ (agree.getSubscription _)
  | write w => exact alike_written _ _ (same.verdict_write reachable otherReachable within)

theorem Ask.agreeOn_outcome (within : a.Within space) (same : SameEntries space c d)
    (reachable : Reachable c) (otherReachable : Reachable d) :
    AgreeOn space (a.outcome c).catalog (a.outcome d).catalog := by
  rw [catalog_outcome, catalog_outcome]
  cases a with
  | write w =>
      exact (same.write reachable otherReachable within).agreeOn (reachable.next _)
        (otherReachable.next _)
  | _ => exact same.agreeOn reachable otherReachable

theorem Ask.agreeOn_other (within : a.Within space) (reachable : Reachable c) {other : String}
    (elsewhere : other ≠ space) : AgreeOn other c (a.outcome c).catalog := by
  rw [catalog_outcome]
  cases a with
  | write w =>
      cases within
      exact (Catalog.sameEntries_write reachable elsewhere).agreeOn reachable (reachable.next _)
  | _ => exact SameEntries.agreeOn (fun name => rfl) reachable reachable

end Outcomes

/-- Catalogs that have the same entries in a space agree on all that it is asked, answer its writes
and its requests alike, and still agree afterwards; no other space changes. -/
theorem spaces_are_isolated {space : String} {c d : Catalog} (reachable : Reachable c)
    (otherReachable : Reachable d) (same : SameEntries space c d) :
    AgreeOn space c d ∧
    (∀ w : Write, w.address.space = space →
      verdict (c.write w) = verdict (d.write w) ∧
      AgreeOn space (c.apply w.operation) (d.apply w.operation) ∧
      ∀ other, other ≠ space →
        AgreeOn other c (c.apply w.operation) ∧ AgreeOn other d (d.apply w.operation)) ∧
    (∀ key limit request part rest,
      Text.pieces '/' request.uri.path = "" :: "v1" :: "spaces" :: part :: rest →
      decodePart "space" part = .ok space →
      (handle c key limit request).response = (handle d key limit request).response ∧
      (handle c key limit request).reported = (handle d key limit request).reported ∧
      AgreeOn space (handle c key limit request).catalog (handle d key limit request).catalog ∧
      ∀ other, other ≠ space → AgreeOn other c (handle c key limit request).catalog ∧
        AgreeOn other d (handle d key limit request).catalog) := by
  refine ⟨(Catalog.agreeOn_iff_sameEntries reachable otherReachable).mpr same, ?_, ?_⟩
  · intro w here
    refine ⟨same.verdict_write reachable otherReachable here, ?_, ?_⟩
    · exact (same.write reachable otherReachable here).agreeOn (reachable.next _)
        (otherReachable.next _)
    · intro other elsewhere
      subst here
      have kept := Catalog.sameEntries_write reachable elsewhere
      have otherKept := Catalog.sameEntries_write otherReachable elsewhere
      exact ⟨kept.agreeOn reachable (reachable.next _),
        otherKept.agreeOn otherReachable (otherReachable.next _)⟩
  · intro key limit request part rest written decoded
    rw [handle_eq, handle_eq]
    have within := (asks_ask request limit key).within written decoded
    obtain ⟨response, reported⟩ := Ask.alike_outcome within same reachable otherReachable
    refine ⟨response, reported, Ask.agreeOn_outcome within same reachable otherReachable, ?_⟩
    intro other elsewhere
    exact ⟨Ask.agreeOn_other within reachable elsewhere,
      Ask.agreeOn_other within otherReachable elsewhere⟩

/-- A catalog that has the entries of another one's default space, and a function elsewhere. -/
def exampleNeighbour : Catalog :=
  Catalog.exampleCatalog.apply
    (Write.registerFunction ⟨"other", ⟨"crm"⟩, .weighted [⟨⟨"crm-v2"⟩, 1⟩]⟩).operation

/-- A request to make a subscription, whose body names another space than its path. -/
def exampleSubscribing : Request where
  method := "POST"
  uri := ⟨none, none, "/v1/spaces/default/subscriptions", none⟩
  headers := [⟨"content-type", Text.encode "application/json"⟩]
  body := Text.encode
    "\x7b\"space\":\"other\",\"eventType\":\"user.created\",\"functionId\":\"crm\",\"path\":\"/a\"\x7d"

theorem exampleNeighbour_isolated :
    exampleNeighbour ≠ Catalog.exampleCatalog ∧
    (handle Catalog.exampleCatalog none 100 exampleSubscribing).response.status = 201 ∧
    (handle Catalog.exampleCatalog none 100 exampleSubscribing).response =
      (handle exampleNeighbour none 100 exampleSubscribing).response ∧
    AgreeOn "other" exampleNeighbour
      (handle exampleNeighbour none 100 exampleSubscribing).catalog := by
  have same : SameEntries "default" Catalog.exampleCatalog exampleNeighbour :=
    Catalog.sameEntries_write Catalog.reachable_exampleCatalog (by decide)
  obtain ⟨-, -, requested⟩ := spaces_are_isolated Catalog.reachable_exampleCatalog
    (Catalog.reachable_exampleCatalog.next _) same
  obtain ⟨response, -, -, kept⟩ := requested none 100 exampleSubscribing "default"
    ["subscriptions"] (by decide +kernel) (by decide +kernel)
  exact ⟨by decide +kernel, by decide +kernel, response, (kept "other" (by decide)).2⟩

end EventRelay.ConfigApi
