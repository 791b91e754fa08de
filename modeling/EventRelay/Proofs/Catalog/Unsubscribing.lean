import EventRelay.Proofs.Catalog.Lookups

set_option autoImplicit false

/-!
What is different once a subscription has been deleted: it is gone from the catalog, and of the
lookups of sync events only those change that it answered.
-/
namespace EventRelay.Catalog

open RoutingTable (Answers)

/-- A catalog has the subscriptions of another but for one. -/
structure Without (without c : Catalog) (s : Subscription) : Prop where
  reachable : without.Reachable
  mem_iff : ∀ t, t ∈ without.allSubscriptions ↔ t ∈ c.allSubscriptions ∧ t ≠ s

section Stored
variable {c : Catalog} {s : Subscription}

theorem Reachable.supports (reachable : c.Reachable) (stored : s ∈ c.allSubscriptions) :
    ∃ key, (key, s) ∈ c.subscriptions ∧ c.Supports key s := by
  obtain ⟨⟨key, s⟩, listed, rfl⟩ := List.mem_map.mp stored
  exact ⟨key, listed, reachable.sound.subscription key s listed⟩

theorem Reachable.isSpaceName_of_stored (reachable : c.Reachable)
    (stored : s ∈ c.allSubscriptions) : isSpaceName s.space = true := by
  obtain ⟨_, -, supports⟩ := reachable.supports stored
  obtain ⟨entry, found⟩ := supports.function
  obtain ⟨named, wellFormed⟩ := reachable.sound.function _ _ (Keyed.mem_of_get? found)
  have here : s.space = entry.space := congrArg Scoped.space named
  rw [here]
  exact wellFormed.1

theorem Supports.key_eq {key : Scoped SubscriptionId} (supports : c.Supports key s) :
    key = ⟨s.space, s.id⟩ := by
  rw [supports.key, supports.normal.id]

theorem Reachable.exists_without (reachable : c.Reachable) (stored : s ∈ c.allSubscriptions) :
    ∃ without, c.deleteSubscription s.space s.id = .ok ((), without) ∧ Without without c s := by
  have ascending := reachable.sound.subscriptions
  obtain ⟨key, listed, supports⟩ := reachable.supports stored
  obtain rfl := supports.key_eq
  have deleted : c.deleteSubscription s.space s.id =
      .ok ((), { c with subscriptions := Keyed.erase c.subscriptions ⟨s.space, s.id⟩ }) :=
    (deleteSubscription_eq_ok_iff c _ s.space s.id ()).mpr ⟨⟨s, ascending.get?_of_mem listed⟩, rfl⟩
  refine ⟨_, deleted, ?_, fun t => ?_⟩
  · have next := reachable.next (.deleteSubscription s.space s.id)
    rwa [apply, deleted] at next
  · constructor
    · intro member
      obtain ⟨⟨other, t⟩, left, rfl⟩ := List.mem_map.mp member
      obtain ⟨unlike, kept⟩ := Keyed.mem_erase_iff.mp left
      refine ⟨mem_allSubscriptions kept, ?_⟩
      rintro rfl
      exact unlike (reachable.sound.subscription other t kept).key_eq
    · rintro ⟨member, unlike⟩
      obtain ⟨other, kept, -⟩ := reachable.supports member
      refine List.mem_map.mpr ⟨(other, t), Keyed.mem_erase_iff.mpr ⟨?_, kept⟩, rfl⟩
      rintro rfl
      have found := ascending.get?_of_mem kept
      rw [ascending.get?_of_mem listed] at found
      exact unlike (Option.some.inj found).symm

end Stored

section Lookups
variable {c without : Catalog} {s : Subscription} {routes others : RoutingTable}
  {space method path : String} {type : EventType} {params : Route.Params}

variable (reachable : c.Reachable) (absent : Without without c s)
  (recompiled : without.Compiles others)
include reachable absent recompiled

theorem syncTarget_without_eq_none (stored : s ∈ c.allSubscriptions)
    (answers : Answers s space method path type params) :
    others.syncTarget space method path type = none := by
  rw [Option.eq_none_iff_forall_ne_some]
  rintro ⟨found, captured⟩ led
  obtain ⟨t, listed, answersToo, -⟩ :=
    (absent.reachable.compiled_syncTarget_eq_some_iff recompiled found).mp led
  obtain ⟨member, other⟩ := (absent.mem_iff t).mp listed
  obtain ⟨first, here, -⟩ := reachable.supports stored
  obtain ⟨second, there, -⟩ := reachable.supports member
  exact other (reachable.eq_of_answers there answersToo here answers).2.1

/-- What a subscription does not answer is found without it as it is found with it. -/
theorem syncTarget_without_eq (compiled : c.Compiles routes)
    (unanswered : ∀ params, ¬ Answers s space method path type params) :
    others.syncTarget space method path type = routes.syncTarget space method path type := by
  refine syncTarget_eq absent.reachable reachable recompiled compiled fun t params answers => ?_
  rw [absent.mem_iff t, and_iff_left_iff_imp]
  rintro member rfl
  exact unanswered params answers

end Lookups
end EventRelay.Catalog
