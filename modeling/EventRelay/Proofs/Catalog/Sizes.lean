import EventRelay.Proofs.Catalog.SeedSteps

set_option autoImplicit false

/-!
The size of a catalog. It is decided by the names under which entries stand, so replacing an entry
keeps it, and where nothing is taken away it grows by the names that are new.
-/
namespace EventRelay.Catalog

namespace Stats

instance : Zero Stats := ⟨⟨0, 0, 0⟩⟩

instance : Add Stats := ⟨fun first second =>
  ⟨first.eventTypes + second.eventTypes, first.functions + second.functions,
    first.subscriptions + second.subscriptions⟩⟩

variable (first second third : Stats)

theorem add_mk (types functions subscriptions : Nat) :
    first + ⟨types, functions, subscriptions⟩ =
      ⟨first.eventTypes + types, first.functions + functions,
        first.subscriptions + subscriptions⟩ :=
  rfl

theorem add_assoc : first + second + third = first + (second + third) := by
  obtain ⟨types, functions, subscriptions⟩ := second
  obtain ⟨otherTypes, otherFunctions, otherSubscriptions⟩ := third
  simp only [add_mk, Nat.add_assoc]

theorem add_zero : first + 0 = first := rfl

theorem zero_add : 0 + first = first := by
  obtain ⟨types, functions, subscriptions⟩ := first
  simp [add_mk, OfNat.ofNat, Zero.zero]

theorem add_eq_left_iff : first + second = first ↔ second = 0 := by
  obtain ⟨types, functions, subscriptions⟩ := first
  obtain ⟨otherTypes, otherFunctions, otherSubscriptions⟩ := second
  simp [add_mk, OfNat.ofNat, Zero.zero]

end Stats

/-- How many entries of each kind a catalog has under names that another one has not. -/
def added (before after : Catalog) : Stats :=
  ⟨(Keyed.added before.eventTypes after.eventTypes).length,
    (Keyed.added before.functions after.functions).length,
    (Keyed.added before.subscriptions after.subscriptions).length⟩

section Sizes
variable {c d : Catalog}

theorem stats_add_added (sound : c.Sound) (later : d.Sound) (grown : d.Extends c) :
    c.stats + added c d = d.stats := by
  have types := sound.eventTypes.length_add_added later.eventTypes fun key => by
    simpa [entryAt?, Keyed.contains] using grown.isSome_entryAt? ⟨key.space, .eventType key.name⟩
  have functions := sound.functions.length_add_added later.functions fun key => by
    simpa [entryAt?, Keyed.contains] using grown.isSome_entryAt? ⟨key.space, .function key.name⟩
  have subscriptions := sound.subscriptions.length_add_added later.subscriptions fun key => by
    simpa [entryAt?, Keyed.contains] using grown.isSome_entryAt? ⟨key.space, .subscription key.name⟩
  simp only [added, Stats.add_mk, stats, types, functions, subscriptions]

/-- Catalogs with entries under the same names are of one size. -/
theorem stats_eq (sound : c.Sound) (other : d.Sound)
    (same : ∀ address, (c.entryAt? address).isSome = (d.entryAt? address).isSome) :
    c.stats = d.stats := by
  have types := sound.eventTypes.length_eq other.eventTypes fun key => by
    simpa [entryAt?, Keyed.contains] using same ⟨key.space, .eventType key.name⟩
  have functions := sound.functions.length_eq other.functions fun key => by
    simpa [entryAt?, Keyed.contains] using same ⟨key.space, .function key.name⟩
  have subscriptions := sound.subscriptions.length_eq other.subscriptions fun key => by
    simpa [entryAt?, Keyed.contains] using same ⟨key.space, .subscription key.name⟩
  simp only [stats, types, functions, subscriptions]

/-- A write that neither adds nor removes an entry leaves the size as it is. -/
theorem stats_write {w : Write} {result : Option Entry} (reachable : c.Reachable)
    (ok : c.write w = .ok (result, d)) (adds : w.adds = false) (puts : w.entry?.isNone = false) :
    d.stats = c.stats := by
  obtain ⟨-, stood, entries⟩ := entryAt?_write reachable.sound ok
  refine stats_eq (reachable.write ok).sound reachable.sound fun address => ?_
  rw [entries]
  by_cases here : w.address = address
  · -- the entry that is replaced was there, and another one is
    rw [adds, here] at stood
    rw [if_pos here, ← Option.not_isNone, ← Option.not_isNone, puts, stood]
  · rw [if_neg here]

end Sizes

end EventRelay.Catalog
