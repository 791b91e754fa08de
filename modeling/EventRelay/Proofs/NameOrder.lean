import EventRelay.Catalog.Basic

set_option autoImplicit false

/-!
The orders that the catalog and the routing table keep their entries in are strict total orders:
names compare as their texts do, scoped names by the space first.
-/
namespace EventRelay

section Named
variable {α : Type} [Ord α] (text : α → String)

theorem transOrd_of_text (same : ∀ a b : α, compare a b = compare (text a) (text b)) :
    Std.TransOrd α := by
  have byText : (compare : α → α → Ordering) = compareOn text := by
    funext a b
    exact same a b
  unfold Std.TransOrd
  rw [byText]
  infer_instance

theorem lawfulEqOrd_of_text (same : ∀ a b : α, compare a b = compare (text a) (text b))
    (injective : ∀ a b : α, text a = text b → a = b) : Std.LawfulEqOrd α where
  compare_self {a} := by rw [same]; exact Std.ReflCmp.compare_self
  eq_of_compare {a b} equal := by
    rw [same] at equal
    exact injective a b (Std.LawfulEqCmp.eq_of_compare equal)

end Named

theorem FunctionId.compare_eq (a b : FunctionId) : compare a b = compare a.text b.text := by
  change (compare a.text b.text).then .eq = _
  rw [Ordering.then_eq]

theorem SubscriptionId.compare_eq (a b : SubscriptionId) :
    compare a b = compare a.text b.text := by
  change (compare a.text b.text).then .eq = _
  rw [Ordering.then_eq]

theorem EventType.compare_eq (a b : EventType) : compare a b = compare a.name b.name := by
  change (compare a.name b.name).then .eq = _
  rw [Ordering.then_eq]

instance : Std.TransOrd FunctionId := transOrd_of_text FunctionId.text FunctionId.compare_eq

instance : Std.TransOrd SubscriptionId :=
  transOrd_of_text SubscriptionId.text SubscriptionId.compare_eq

instance : Std.TransOrd EventType := transOrd_of_text EventType.name EventType.compare_eq

instance : Std.LawfulEqOrd FunctionId :=
  lawfulEqOrd_of_text FunctionId.text FunctionId.compare_eq fun a b h => by
    cases a; cases b; simpa using h

instance : Std.LawfulEqOrd SubscriptionId :=
  lawfulEqOrd_of_text SubscriptionId.text SubscriptionId.compare_eq fun a b h => by
    cases a; cases b; simpa using h

instance : Std.LawfulEqOrd EventType :=
  lawfulEqOrd_of_text EventType.name EventType.compare_eq fun a b h => by
    cases a; cases b; simpa using h

namespace Scoped
variable {α : Type} [Ord α]

theorem compare_eq (a b : Scoped α) :
    compare a b = (compare a.space b.space).then (compare a.name b.name) := by
  change (compare a.space b.space).then ((compare a.name b.name).then .eq) = _
  rw [Ordering.then_eq]

instance [Std.TransOrd α] : Std.TransOrd (Scoped α) := by
  have lexicographic : (compare : Scoped α → Scoped α → Ordering) =
      compareLex (compareOn Scoped.space) (compareOn Scoped.name) := by
    funext a b
    exact compare_eq a b
  unfold Std.TransOrd
  rw [lexicographic]
  infer_instance

instance [Std.LawfulEqOrd α] : Std.LawfulEqOrd (Scoped α) where
  compare_self {a} := by simp [compare_eq, Std.ReflCmp.compare_self]
  eq_of_compare {a b} equal := by
    rw [compare_eq, Ordering.then_eq_eq] at equal
    have space : a.space = b.space := Std.LawfulEqCmp.eq_of_compare equal.1
    have name : a.name = b.name := Std.LawfulEqCmp.eq_of_compare equal.2
    cases a
    cases b
    simp_all

end Scoped
end EventRelay
