import EventRelay.Proofs.ConfigApi.Writes

set_option autoImplicit false

/-!
Which requests make a function come or go. What a request does to the functions of a catalog is told
by its method and its path: only one that adds the function of a name makes it come, and only one
that removes it makes it go.
-/
namespace EventRelay

namespace Catalog

def HasFunction (c : Catalog) (space : String) (id : FunctionId) : Prop :=
  ∃ f, Keyed.get? c.functions ⟨space, id⟩ = some f

section Functions
variable {c : Catalog} {f : FunctionEntry} {space : String} {id : FunctionId}

theorem hasFunction_iff_contains :
    c.HasFunction space id ↔ Keyed.contains c.functions ⟨space, id⟩ = true :=
  (Keyed.contains_eq_true_iff ..).symm

theorem not_hasFunction_iff :
    ¬ c.HasFunction space id ↔ Keyed.get? c.functions ⟨space, id⟩ = none := by
  rw [hasFunction_iff_contains, Bool.not_eq_true, Keyed.contains_eq_false_iff]

theorem hasFunction_iff_entryAt? :
    c.HasFunction space id ↔ (c.entryAt? ⟨space, .function id⟩).isNone = false := by
  rw [entryAt?, Option.isNone_map, Option.isNone_eq_false_iff, Option.isSome_iff_exists,
    HasFunction]

theorem getFunction_of_not_hasFunction (lacking : ¬ c.HasFunction space id) :
    c.getFunction space id = .error (.functionNotFound id) := by
  rw [getFunction, not_hasFunction_iff.mp lacking]

theorem getFunction_putFunction (c : Catalog) (f : FunctionEntry) :
    (c.putFunction f).getFunction f.space f.id = .ok f := by
  rw [getFunction_eq_ok_iff, putFunction, Keyed.get?_insert_self]

section WellFormed
variable (wellFormed : f.WellFormed)
include wellFormed

theorem registerFunction_of_hasFunction (stands : c.HasFunction f.space f.id) :
    c.registerFunction f = .error (.functionAlreadyRegistered f.id) := by
  have passed := (validateFunction_eq_ok_iff f ()).mpr wellFormed
  simp [registerFunction, passed, hasFunction_iff_contains.mp stands, bind, Except.bind, throw,
    throwThe, MonadExceptOf.throw]

theorem registerFunction_of_not_hasFunction (lacking : ¬ c.HasFunction f.space f.id) :
    c.registerFunction f = .ok (f, c.putFunction f) :=
  (registerFunction_eq_ok_iff ..).mpr ⟨wellFormed, not_hasFunction_iff.mp lacking, rfl, rfl⟩

theorem updateFunction_of_hasFunction (stands : c.HasFunction f.space f.id) :
    c.updateFunction f.space f.id f.provider = .ok (f, c.putFunction f) :=
  (updateFunction_eq_ok_iff ..).mpr ⟨wellFormed, stands, rfl, rfl⟩

theorem updateFunction_of_not_hasFunction (lacking : ¬ c.HasFunction f.space f.id) :
    c.updateFunction f.space f.id f.provider = .error (.functionNotFound f.id) := by
  have passed := (validateFunction_eq_ok_iff f ()).mpr wellFormed
  simp [updateFunction, passed, mt hasFunction_iff_contains.mpr lacking, bind, Except.bind, throw,
    throwThe, MonadExceptOf.throw]

end WellFormed
end Functions
end Catalog

namespace ConfigApi

/-- A request with the catalog that it meets. -/
structure Seen where
  catalog : Catalog
  key : Option String
  limit : Nat
  request : Request

namespace Seen

def outcome (seen : Seen) : Outcome := handle seen.catalog seen.key seen.limit seen.request

/-- Whether the path of a request leads to a function. -/
def IsAbout (seen : Seen) (space : String) (id : FunctionId) : Prop :=
  ∃ resource, Resource.ofPath? seen.request.uri.path = some resource ∧
    resource.Names ⟨space, .function id⟩

structure Removes (seen : Seen) (space : String) (id : FunctionId) : Prop where
  method : seen.request.method = "DELETE"
  path : seen.IsAbout space id
  done : seen.catalog.deleteFunction space id = .ok ((), seen.outcome.catalog)

structure Registers (seen : Seen) (space : String) (id : FunctionId) : Prop where
  method : seen.request.method = "POST"
  path : seen.IsAbout space id
  done : ∃ provider, seen.catalog.registerFunction ⟨space, id, provider⟩ =
    .ok (⟨space, id, provider⟩, seen.outcome.catalog)

section Effects
variable {seen : Seen} {space : String} {id : FunctionId}

theorem reachable_outcome (reachable : seen.catalog.Reachable) :
    seen.outcome.catalog.Reachable := by
  have ends : Ends seen.catalog seen.request seen.outcome := ends_handle ..
  cases ends with
  | refused refuses same => rwa [same]
  | seen status reads same => rwa [same]
  | written path names method ok response => exact reachable.write ok

theorem Removes.not_hasFunction (removes : seen.Removes space id) :
    ¬ seen.outcome.catalog.HasFunction space id := by
  obtain ⟨-, -, same⟩ := (Catalog.deleteFunction_eq_ok_iff ..).mp removes.done
  rw [Catalog.not_hasFunction_iff, ← same, Keyed.get?_erase, if_pos rfl]

theorem Registers.hasFunction (registers : seen.Registers space id) :
    seen.outcome.catalog.HasFunction space id := by
  obtain ⟨provider, registered⟩ := registers.done
  obtain ⟨-, -, -, same⟩ := (Catalog.registerFunction_eq_ok_iff ..).mp registered
  exact ⟨⟨space, id, provider⟩, by rw [← same, Catalog.putFunction, Keyed.get?_insert_self]⟩

theorem registers_or_removes (sound : seen.catalog.Sound) :
    (seen.outcome.catalog.HasFunction space id ↔ seen.catalog.HasFunction space id) ∨
      seen.Registers space id ∨ seen.Removes space id := by
  have ends : Ends seen.catalog seen.request seen.outcome := ends_handle ..
  cases ends with
  | refused refuses same => exact Or.inl (by rw [same])
  | seen status reads same => exact Or.inl (by rw [same])
  | @written resource w result path names method ok response =>
      obtain ⟨rfl, stood, entries⟩ := Catalog.entryAt?_write sound ok
      by_cases here : w.address = ⟨space, .function id⟩
      · cases w with
        | registerFunction f =>
            cases here
            rw [Catalog.write, Catalog.labelled_eq_ok_iff] at ok
            obtain ⟨value, registered, -⟩ := ok
            obtain ⟨-, -, rfl, -⟩ := (Catalog.registerFunction_eq_ok_iff ..).mp registered
            exact Or.inr (Or.inl ⟨method, ⟨resource, path, names⟩, f.provider, registered⟩)
        | deleteFunction there name =>
            cases here
            rw [Catalog.write, Catalog.labelled_eq_ok_iff] at ok
            obtain ⟨_, deleted, -⟩ := ok
            exact Or.inr (Or.inr ⟨method, ⟨resource, path, names⟩, deleted⟩)
        | updateFunction there name provider =>
            -- the function stands before and after
            cases here
            refine Or.inl (iff_of_true ?_ (Catalog.hasFunction_iff_entryAt?.mpr stood))
            rw [Catalog.hasFunction_iff_entryAt?, entries]
            exact congrArg Option.isNone (if_pos rfl)
        | createEventType => cases here
        | deleteEventType => cases here
        | createSubscription => cases here
        | updateSubscription => cases here
        | deleteSubscription => cases here
      · left
        rw [Catalog.hasFunction_iff_entryAt?, Catalog.hasFunction_iff_entryAt?, entries,
          if_neg here]

end Effects

/-- Some request removes a function, and none after it adds it again. -/
def Lost (space : String) (id : FunctionId) (requests : List Seen) : Prop :=
  ∃ before seen after, requests = before ++ seen :: after ∧ seen.Removes space id ∧
    ∀ later ∈ after, ¬ later.Registers space id

section Lost
variable {requests : List Seen} {seen : Seen} {space : String} {id : FunctionId}

theorem not_lost_nil : ¬ Lost space id [] := by
  rintro ⟨before, seen, after, split, -⟩
  simp at split

theorem lost_concat_iff : Lost space id (requests ++ [seen]) ↔
    seen.Removes space id ∨ Lost space id requests ∧ ¬ seen.Registers space id := by
  constructor
  · rintro ⟨before, removing, after, split, removes, unlike⟩
    rcases List.eq_nil_or_concat after with rfl | ⟨rest, last, rfl⟩
    · obtain ⟨-, same⟩ := List.append_inj' split rfl
      cases same
      exact Or.inl removes
    · rw [List.concat_eq_append] at unlike split
      rw [← List.cons_append, ← List.append_assoc] at split
      obtain ⟨same, lastSame⟩ := List.append_inj' split rfl
      cases lastSame
      refine Or.inr ⟨⟨before, removing, rest, same, removes, ?_⟩, ?_⟩
      · exact fun later member => unlike later (List.mem_append_left _ member)
      · exact unlike seen (List.mem_append_right _ List.mem_cons_self)
  · rintro (removes | ⟨⟨before, removing, after, rfl, removes, unlike⟩, other⟩)
    · exact ⟨requests, seen, [], rfl, removes, by simp⟩
    · refine ⟨before, removing, after ++ [seen], by simp, removes, ?_⟩
      intro later member
      rcases List.mem_append.mp member with earlier | here
      · exact unlike later earlier
      · cases List.mem_singleton.mp here
        exact other

/-- A function that stood goes exactly when it is lost. -/
theorem hasFunction_concat_iff (sound : seen.catalog.Sound)
    (before : seen.catalog.HasFunction space id ↔ ¬ Lost space id requests) :
    seen.outcome.catalog.HasFunction space id ↔ ¬ Lost space id (requests ++ [seen]) := by
  rw [lost_concat_iff]
  have effect : (seen.outcome.catalog.HasFunction space id ↔ seen.catalog.HasFunction space id) ∨
      seen.Registers space id ∨ seen.Removes space id := registers_or_removes sound
  constructor
  · rintro stands (removes | ⟨lost, other⟩)
    · exact removes.not_hasFunction stands
    · rcases effect with same | registers | removes
      · exact before.mp (same.mp stands) lost
      · exact other registers
      · exact removes.not_hasFunction stands
  · intro kept
    rcases effect with same | registers | removes
    · refine Classical.byContradiction fun gone => kept (Or.inr ⟨?_, ?_⟩)
      · exact Classical.byContradiction fun safe => gone (same.mpr (before.mpr safe))
      · exact fun registers => gone registers.hasFunction
    · exact registers.hasFunction
    · exact absurd (Or.inl removes) kept

end Lost
end Seen
end ConfigApi
end EventRelay
