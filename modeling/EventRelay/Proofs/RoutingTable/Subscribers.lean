import EventRelay.Proofs.NameOrder
import Mathlib.Data.List.Sort

set_option autoImplicit false

/-!
The subscribers that a table lists for an event type on a path: the functions of the async
subscriptions it was built from, each once and in ascending order. The order in which the table
was built leaves no trace.
-/
namespace EventRelay.RoutingTable

def Ascending (ids : List FunctionId) : Prop := ids.Pairwise fun a b => a.text < b.text

theorem compare_eq_lt_iff (a b : FunctionId) : compare a b = .lt ↔ a.text < b.text := by
  rw [FunctionId.compare_eq]
  exact compareOfLessAndEq_eq_lt

/-- Ascending lists of the same names are the same. -/
theorem Ascending.ext {ids others : List FunctionId} (ascending : Ascending ids)
    (other : Ascending others) (same : ∀ id, id ∈ ids ↔ id ∈ others) : ids = others := by
  have irreflexive : Std.Irrefl fun a b : FunctionId => a.text < b.text :=
    ⟨fun id => String.lt_irrefl id.text⟩
  have antisymmetric : Std.Antisymm fun a b : FunctionId => a.text < b.text :=
    ⟨fun a b less greater => absurd (String.lt_trans less greater) (String.lt_irrefl a.text)⟩
  exact List.Pairwise.eq_of_mem_iff ascending other same

theorem mem_insertAscending (id other : FunctionId) (ids : List FunctionId) :
    other ∈ insertAscending id ids ↔ other = id ∨ other ∈ ids := by
  induction ids with
  | nil => simp [insertAscending]
  | cons first rest ih =>
      by_cases same : id = first
      · subst same
        simp [insertAscending]
      · by_cases before : (compare id first).isLT
        · simp [insertAscending, same, before]
        · simp only [insertAscending, same, before, ↓reduceIte, Bool.false_eq_true, List.mem_cons,
            ih]
          exact or_left_comm

theorem Ascending.insertAscending {ids : List FunctionId} (ascending : Ascending ids)
    (id : FunctionId) : Ascending (RoutingTable.insertAscending id ids) := by
  induction ids with
  | nil => simp [RoutingTable.insertAscending, Ascending]
  | cons first rest ih =>
      obtain ⟨least, tail⟩ := List.pairwise_cons.mp ascending
      by_cases same : id = first
      · simpa [RoutingTable.insertAscending, same] using ascending
      · by_cases before : (compare id first).isLT
        · have less : id.text < first.text :=
            (compare_eq_lt_iff id first).mp (Ordering.isLT_iff_eq_lt.mp before)
          simp only [RoutingTable.insertAscending, same, before, ↓reduceIte]
          refine List.pairwise_cons.mpr ⟨?_, ascending⟩
          intro other member
          rcases List.mem_cons.mp member with rfl | later
          · exact less
          · exact String.lt_trans less (least other later)
        · simp only [RoutingTable.insertAscending, same, before, ↓reduceIte, Bool.false_eq_true]
          refine List.pairwise_cons.mpr ⟨?_, ih tail⟩
          intro other member
          rcases (mem_insertAscending id other rest).mp member with rfl | old
          · rw [← compare_eq_lt_iff, ← Std.OrientedCmp.gt_iff_lt]
            cases order : compare other first with
            | lt => simp [order] at before
            | eq => exact absurd (Std.LawfulEqCmp.eq_of_compare order) same
            | gt => rfl
          · exact least other old

theorem subscribers_empty (space path : String) (type : EventType) :
    empty.subscribers space path type = [] := rfl

section Insert
variable (table : RoutingTable) (s : Subscription) (space path : String) (type : EventType)

/-- Adding a subscription changes one list, by the one name, and that only if it is async. -/
theorem subscribers_insert : (table.insert s).subscribers space path type =
    if s.kind = .async ∧ asyncKey s = ⟨space, path, type⟩ then
      insertAscending s.functionId (table.subscribers space path type)
    else table.subscribers space path type := by
  cases kind : s.kind with
  | sync => simp [insert, kind, subscribers]
  | async =>
      simp only [insert, kind, subscribers, Keyed.alter, Keyed.get?_insert, true_and]
      by_cases same : asyncKey s = ⟨space, path, type⟩ <;> simp [same]

theorem mem_subscribers_insert (id : FunctionId) :
    id ∈ (table.insert s).subscribers space path type ↔
      id ∈ table.subscribers space path type ∨
        (s.kind = .async ∧ asyncKey s = ⟨space, path, type⟩ ∧ s.functionId = id) := by
  rw [subscribers_insert]
  by_cases here : s.kind = .async ∧ asyncKey s = ⟨space, path, type⟩
  · simp [here, mem_insertAscending, or_comm, eq_comm]
  · rw [if_neg here, ← and_assoc]
    simp [here]

end Insert

section Build
variable (subscriptions : List Subscription) (space path : String) (type : EventType)

theorem mem_subscribers_foldl (table : RoutingTable) (id : FunctionId) :
    id ∈ (subscriptions.foldl insert table).subscribers space path type ↔
      id ∈ table.subscribers space path type ∨ ∃ s ∈ subscriptions,
        s.kind = .async ∧ asyncKey s = ⟨space, path, type⟩ ∧ s.functionId = id := by
  induction subscriptions generalizing table with
  | nil => simp
  | cons s rest ih =>
      rw [List.foldl_cons, ih, mem_subscribers_insert, or_assoc]
      simp

/-- The subscribers are the functions of the async subscriptions of the event type on the path. -/
theorem mem_subscribers_build (id : FunctionId) :
    id ∈ (build subscriptions).subscribers space path type ↔ ∃ s ∈ subscriptions,
      s.kind = .async ∧ asyncKey s = ⟨space, path, type⟩ ∧ s.functionId = id := by
  rw [build, mem_subscribers_foldl, subscribers_empty]
  simp

theorem ascending_subscribers_foldl (table : RoutingTable)
    (ascending : Ascending (table.subscribers space path type)) :
    Ascending ((subscriptions.foldl insert table).subscribers space path type) := by
  induction subscriptions generalizing table with
  | nil => exact ascending
  | cons s rest ih =>
      apply ih
      rw [subscribers_insert]
      split
      · exact ascending.insertAscending s.functionId
      · exact ascending

theorem ascending_subscribers_build :
    Ascending ((build subscriptions).subscribers space path type) :=
  ascending_subscribers_foldl subscriptions space path type empty List.Pairwise.nil

end Build
end EventRelay.RoutingTable
