import EventRelay.Keyed
import Mathlib.Data.List.Induction
import Mathlib.Data.List.Sort

set_option autoImplicit false

/-!
Finite maps whose keys ascend strictly. Every key then stands once, so what a map lists is what it
finds, and putting in and taking out keep the order.
-/
namespace EventRelay.Keyed

variable {κ ν : Type} [DecidableEq κ]

theorem mem_of_get? {entries : List (κ × ν)} {key : κ} {value : ν}
    (found : get? entries key = some value) : (key, value) ∈ entries := by
  induction entries with
  | nil => cases found
  | cons entry rest ih =>
      obtain ⟨k, v⟩ := entry
      by_cases same : k = key
      · subst same
        simp only [get?, ↓reduceIte, Option.some.injEq] at found
        simp [found]
      · simp only [get?, same, ↓reduceIte] at found
        exact List.mem_cons_of_mem _ (ih found)

theorem contains_eq_true_iff (entries : List (κ × ν)) (key : κ) :
    contains entries key = true ↔ ∃ value, get? entries key = some value := by
  rw [contains, Option.isSome_iff_exists]

theorem contains_eq_false_iff (entries : List (κ × ν)) (key : κ) :
    contains entries key = false ↔ get? entries key = none := by
  simp [contains]

theorem mem_erase_iff {entries : List (κ × ν)} {key other : κ} {found : ν} :
    (other, found) ∈ erase entries key ↔ other ≠ key ∧ (other, found) ∈ entries := by
  simp [erase, and_comm]

theorem get?_filter (kept : κ → Bool) (entries : List (κ × ν)) (key : κ) :
    get? (entries.filter fun entry => kept entry.1) key =
      if kept key = true then get? entries key else none := by
  induction entries with
  | nil => simp
  | cons entry rest ih =>
      obtain ⟨k, v⟩ := entry
      by_cases keeps : kept k = true
      · by_cases same : k = key
        · subst same
          simp [get?, keeps]
        · simp [get?, keeps, same, ih]
      · by_cases same : k = key
        · subst same
          simp [keeps, ih]
        · simp [get?, keeps, same, ih]

variable [Ord κ]

def Ascending (entries : List (κ × ν)) : Prop :=
  entries.Pairwise fun first second => compare first.1 second.1 = .lt

instance (entries : List (κ × ν)) : Decidable (Ascending entries) :=
  inferInstanceAs (Decidable (List.Pairwise _ _))

omit [DecidableEq κ] in
theorem ascending_nil : Ascending ([] : List (κ × ν)) := List.Pairwise.nil

theorem Ascending.erase {entries : List (κ × ν)} (ascending : Ascending entries) (key : κ) :
    Ascending (Keyed.erase entries key) :=
  List.Pairwise.filter _ ascending

theorem mem_of_mem_insert {entries : List (κ × ν)} {key : κ} {value : ν} {entry : κ × ν}
    (member : entry ∈ insert entries key value) : entry = (key, value) ∨ entry ∈ entries := by
  induction entries with
  | nil => simpa [insert] using member
  | cons first rest ih =>
      obtain ⟨k, v⟩ := first
      by_cases same : k = key
      · simp only [insert, same, ↓reduceIte, List.mem_cons] at member
        rcases member with new | old
        · exact Or.inl new
        · exact Or.inr (List.mem_cons_of_mem _ old)
      · by_cases before : (compare key k).isLT
        · simpa [insert, same, before] using member
        · simp only [insert, same, before, ↓reduceIte, List.mem_cons, Bool.false_eq_true] at member
          rcases member with head | tail
          · exact Or.inr (by simp [head])
          · exact (ih tail).imp_right (List.mem_cons_of_mem _)

theorem mem_of_mem_ofList {entries : List (κ × ν)} {entry : κ × ν}
    (member : entry ∈ ofList entries) : entry ∈ entries := by
  have kept : ∀ (rest start : List (κ × ν)),
      entry ∈ rest.foldl (fun all e => insert all e.1 e.2) start →
        entry ∈ start ∨ entry ∈ rest := by
    intro rest
    induction rest with
    | nil => exact fun start found => Or.inl found
    | cons first rest ih =>
        intro start found
        rcases ih _ found with early | late
        · rcases mem_of_mem_insert early with rfl | old
          · exact Or.inr List.mem_cons_self
          · exact Or.inl old
        · exact Or.inr (List.mem_cons_of_mem _ late)
  rcases kept entries [] member with early | listed
  · cases early
  · exact listed

theorem get?_ofList (entries : List (κ × ν)) (key : κ) :
    get? (ofList entries) key = entries.reverse.lookup key := by
  -- from the end, for the map takes in the last entry last
  induction entries using List.reverseRecOn with
  | nil => rfl
  | append_singleton before last ih =>
      obtain ⟨k, v⟩ := last
      have whole : ofList (before ++ [(k, v)]) = insert (ofList before) k v := by
        simp [ofList]
      rw [whole, get?_insert, ih, List.reverse_append]
      by_cases same : k = key
      · simp [same]
      · have unlike : (key == k) = false := beq_eq_false_iff_ne.mpr (Ne.symm same)
        simp [same, List.lookup_cons, unlike]

theorem get?_ofList_map (keys : List κ) (f : κ → ν) (key : κ) :
    get? (ofList (keys.map fun key => (key, f key))) key =
      if key ∈ keys then some (f key) else none := by
  rw [get?_ofList, ← List.map_reverse]
  split
  · rename_i listed
    exact List.lookup_graph f (List.mem_reverse.mpr listed)
  · rename_i absent
    refine List.lookup_eq_none_iff.mpr fun entry listed => ?_
    obtain ⟨other, member, rfl⟩ := List.mem_map.mp listed
    rw [bne_iff_ne]
    rintro rfl
    exact absent (List.mem_reverse.mp member)

omit [DecidableEq κ] in
theorem Ascending.filter {entries : List (κ × ν)} (ascending : Ascending entries)
    (kept : κ × ν → Bool) : Ascending (entries.filter kept) :=
  List.Pairwise.filter _ ascending

variable [Std.LawfulEqOrd κ]

omit [DecidableEq κ] in
theorem Ascending.ne {first : κ × ν} {rest : List (κ × ν)}
    (ascending : Ascending (first :: rest)) {entry : κ × ν} (member : entry ∈ rest) :
    first.1 ≠ entry.1 := by
  intro same
  have less := (List.pairwise_cons.mp ascending).1 entry member
  rw [same, Std.compare_self] at less
  cases less

omit [DecidableEq κ] in
theorem Ascending.nodup {entries : List (κ × ν)} (ascending : Ascending entries) :
    (entries.map (·.1)).Nodup := by
  refine List.pairwise_map.mpr (ascending.imp fun less same => ?_)
  rw [same, Std.compare_self] at less
  cases less

theorem Ascending.get?_of_mem {entries : List (κ × ν)} (ascending : Ascending entries) {key : κ}
    {value : ν} (member : (key, value) ∈ entries) : get? entries key = some value := by
  induction entries with
  | nil => cases member
  | cons first rest ih =>
      obtain ⟨k, v⟩ := first
      rcases List.mem_cons.mp member with same | later
      · cases same
        simp [get?]
      · have apart : k ≠ key := ascending.ne later
        simpa only [get?, apart, ↓reduceIte] using ih (List.pairwise_cons.mp ascending).2 later

theorem Ascending.mem_iff {entries : List (κ × ν)} (ascending : Ascending entries) {key : κ}
    {value : ν} : (key, value) ∈ entries ↔ get? entries key = some value :=
  ⟨ascending.get?_of_mem, mem_of_get?⟩

variable [Std.TransOrd κ]

theorem Ascending.insert {entries : List (κ × ν)} (ascending : Ascending entries) (key : κ)
    (value : ν) : Ascending (Keyed.insert entries key value) := by
  induction entries with
  | nil => simp [Keyed.insert, Ascending]
  | cons first rest ih =>
      obtain ⟨k, v⟩ := first
      obtain ⟨least, tail⟩ := List.pairwise_cons.mp ascending
      by_cases same : k = key
      · subst same
        simp only [Keyed.insert, ↓reduceIte]
        exact List.pairwise_cons.mpr ⟨least, tail⟩
      · by_cases before : (compare key k).isLT
        · have less : compare key k = .lt := Ordering.isLT_iff_eq_lt.mp before
          simp only [Keyed.insert, same, before, ↓reduceIte]
          refine List.pairwise_cons.mpr ⟨?_, ascending⟩
          intro entry member
          rcases List.mem_cons.mp member with rfl | later
          · exact less
          · exact Std.TransCmp.lt_trans less (least entry later)
        · simp only [Keyed.insert, same, before, ↓reduceIte, Bool.false_eq_true]
          refine List.pairwise_cons.mpr ⟨?_, ih tail⟩
          intro entry member
          rcases mem_of_mem_insert member with rfl | old
          · -- neither equal nor greater, so less: the order is total
            rw [← Std.OrientedCmp.gt_iff_lt]
            cases order : compare key k with
            | lt => simp [order] at before
            | eq => exact absurd (Std.LawfulEqCmp.eq_of_compare order).symm same
            | gt => rfl
          · exact least entry old

theorem ascending_ofList (entries : List (κ × ν)) : Ascending (ofList entries) := by
  have kept : ∀ (rest start : List (κ × ν)), Ascending start →
      Ascending (rest.foldl (fun all e => Keyed.insert all e.1 e.2) start) := by
    intro rest
    induction rest with
    | nil => exact fun start ascending => ascending
    | cons first rest ih => exact fun start ascending => ih _ (ascending.insert _ _)
  exact kept entries [] ascending_nil

theorem insert_last {entries : List (κ × ν)} {key : κ} {value : ν}
    (last : ∀ entry ∈ entries, compare entry.1 key = .lt) :
    Keyed.insert entries key value = entries ++ [(key, value)] := by
  induction entries with
  | nil => rfl
  | cons first rest ih =>
      obtain ⟨k, v⟩ := first
      have less : compare k key = .lt := last (k, v) List.mem_cons_self
      have apart : k ≠ key := by
        rintro rfl
        rw [Std.compare_self] at less
        cases less
      have after : (compare key k).isLT = false := by
        rw [Std.OrientedCmp.gt_of_lt less]
        rfl
      have tail := ih fun entry member => last entry (List.mem_cons_of_mem _ member)
      simp only [Keyed.insert, apart, ↓reduceIte, after, Bool.false_eq_true, tail, List.cons_append]

theorem Ascending.ofList_eq {entries : List (κ × ν)} (ascending : Ascending entries) :
    ofList entries = entries := by
  have kept : ∀ (rest start : List (κ × ν)), Ascending (start ++ rest) →
      rest.foldl (fun all e => Keyed.insert all e.1 e.2) start = start ++ rest := by
    intro rest
    induction rest with
    | nil => exact fun start _ => (List.append_nil start).symm
    | cons first rest ih =>
        intro start joined
        have last : ∀ entry ∈ start, compare entry.1 first.1 = .lt := by
          intro entry member
          exact (List.pairwise_append.mp joined).2.2 entry member first List.mem_cons_self
        rw [List.foldl_cons, insert_last last, ih]
        · rw [List.append_assoc, List.singleton_append]
        · rwa [List.append_assoc, List.singleton_append]
  exact kept entries [] ascending

theorem Ascending.mem_insert_iff {entries : List (κ × ν)} (ascending : Ascending entries)
    {key other : κ} {value found : ν} :
    (other, found) ∈ Keyed.insert entries key value ↔
      (other = key ∧ found = value) ∨ (other ≠ key ∧ (other, found) ∈ entries) := by
  rw [(ascending.insert key value).mem_iff, get?_insert, ascending.mem_iff]
  by_cases same : key = other
  · subst same
    simp [eq_comm]
  · simp [same, Ne.symm same]

omit [DecidableEq κ] in
/-- Maps that list the same are the same. -/
theorem Ascending.eq_of_mem_iff {entries others : List (κ × ν)} (ascending : Ascending entries)
    (other : Ascending others) (same : ∀ entry, entry ∈ entries ↔ entry ∈ others) :
    entries = others := by
  have irreflexive : Std.Irrefl fun first second : κ × ν => compare first.1 second.1 = .lt := by
    refine ⟨fun entry less => ?_⟩
    rw [Std.compare_self] at less
    cases less
  have antisymmetric : Std.Antisymm fun first second : κ × ν => compare first.1 second.1 = .lt := by
    refine ⟨fun first second less greater => ?_⟩
    exact absurd (Std.TransCmp.lt_trans less greater) (irreflexive.irrefl first)
  exact List.Pairwise.eq_of_mem_iff ascending other same

theorem Ascending.ext {entries others : List (κ × ν)} (ascending : Ascending entries)
    (other : Ascending others) (same : ∀ key, get? entries key = get? others key) :
    entries = others := by
  refine ascending.eq_of_mem_iff other ?_
  rintro ⟨key, value⟩
  rw [ascending.mem_iff, other.mem_iff, same]

theorem Ascending.insert_of_get? {entries : List (κ × ν)} (ascending : Ascending entries) {key : κ}
    {value : ν} (found : get? entries key = some value) :
    Keyed.insert entries key value = entries := by
  refine (ascending.insert key value).ext ascending fun other => ?_
  rw [get?_insert]
  split
  · rename_i same
    rw [← same, found]
  · rfl

theorem Ascending.insert_erase {entries : List (κ × ν)} (ascending : Ascending entries) {key : κ}
    {value : ν} (found : get? entries key = some value) :
    Keyed.insert (Keyed.erase entries key) key value = entries := by
  refine ((ascending.erase key).insert key value).ext ascending fun other => ?_
  rw [get?_insert, get?_erase]
  split
  · rename_i same
    rw [← same, found]
  · rfl

theorem Ascending.length_eq {entries others : List (κ × ν)} (ascending : Ascending entries)
    (other : Ascending others) (same : ∀ key, contains entries key = contains others key) :
    entries.length = others.length := by
  have keys : mapValues (fun _ => ()) entries = mapValues (fun _ => ()) others := by
    have first : Ascending (mapValues (fun _ => ()) entries) := List.pairwise_map.mpr ascending
    have second : Ascending (mapValues (fun _ => ()) others) := List.pairwise_map.mpr other
    refine first.ext second fun key => ?_
    rw [get?_mapValues, get?_mapValues]
    have present := same key
    unfold contains at present
    cases here : get? entries key <;> cases there : get? others key <;> simp_all
  simpa [mapValues] using congrArg List.length keys

/-- The entries of a map under keys that another one has not. -/
def added (before after : List (κ × ν)) : List (κ × ν) :=
  after.filter fun entry => !contains before entry.1

theorem Ascending.length_add_added {before after : List (κ × ν)} (ascending : Ascending before)
    (other : Ascending after)
    (kept : ∀ key, contains before key = true → contains after key = true) :
    before.length + (added before after).length = after.length := by
  have old : before.length = (after.filter fun entry => contains before entry.1).length := by
    refine ascending.length_eq (other.filter _) fun key => ?_
    rw [contains, contains, get?_filter, ← contains]
    cases present : contains before key with
    | true => exact (kept key present).symm
    | false => rfl
  rw [old, added]
  exact (List.length_eq_length_filter_add _).symm

theorem mem_ofList_of_distinct {entries : List (κ × ν)} (distinct : (entries.map (·.1)).Nodup)
    {entry : κ × ν} (member : entry ∈ entries) : entry ∈ ofList entries := by
  have kept : ∀ (rest start : List (κ × ν)), Ascending start →
      (∀ old ∈ start, old.1 ∉ rest.map (·.1)) → (rest.map (·.1)).Nodup →
      entry ∈ start ∨ entry ∈ rest →
        entry ∈ rest.foldl (fun all e => insert all e.1 e.2) start := by
    intro rest
    induction rest with
    | nil =>
        intro start _ _ _ found
        exact found.resolve_right (List.not_mem_nil)
    | cons first rest ih =>
        intro start ascending fresh distinct found
        obtain ⟨unlike, distinctRest⟩ := List.nodup_cons.mp distinct
        refine ih _ (ascending.insert _ _) ?_ distinctRest ?_
        · intro old listed
          rcases mem_of_mem_insert listed with rfl | before
          · exact unlike
          · exact fun again => fresh old before (List.mem_cons_of_mem _ again)
        · rcases found with before | listed
          · have other : entry.1 ≠ first.1 := by
              intro same
              exact fresh entry before (same ▸ List.mem_cons_self)
            exact Or.inl ((ascending.mem_insert_iff).mpr (Or.inr ⟨other, before⟩))
          · rcases List.mem_cons.mp listed with rfl | later
            · exact Or.inl ((ascending.mem_insert_iff).mpr (Or.inl ⟨rfl, rfl⟩))
            · exact Or.inr later
  exact kept entries [] ascending_nil (fun _ none => nomatch none) distinct (Or.inr member)

/-- The map of a list in which no key stands twice is the list in ascending order. -/
theorem ofList_eq_of_perm {entries sorted : List (κ × ν)} (perm : entries.Perm sorted)
    (ascending : Ascending sorted) : ofList entries = sorted := by
  have distinct : (entries.map (·.1)).Nodup := (perm.map (·.1)).nodup_iff.mpr ascending.nodup
  refine (ascending_ofList entries).eq_of_mem_iff ascending fun entry => ?_
  rw [← perm.mem_iff]
  exact ⟨mem_of_mem_ofList, mem_ofList_of_distinct distinct⟩

end EventRelay.Keyed
