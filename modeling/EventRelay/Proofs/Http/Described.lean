import EventRelay.Http.ResponseObject
import EventRelay.Proofs.Http.Fields
import Mathlib.Data.List.Induction

set_option autoImplicit false

/-!
The header fields of responses that functions describe: a name is among them exactly if some entry
of the object is a field of this name. Names are the same in any letter case, and a later entry
takes the place of earlier ones that spell the same name. So the response depends on the order in
which the entries are taken, unless those that spell one name give it one value.
-/
namespace EventRelay

namespace Headers
variable {headers : Headers} {name : String}

theorem has_iff : headers.has name = true ↔ ∃ field ∈ headers, field.name = name := by
  simp [has, first?]

theorem has_iff_getAll : headers.has name = true ↔ headers.getAll name ≠ [] := by
  simp [has_iff, getAll, List.filter_eq_nil_iff]

theorem has_set_iff {other : String} {value : Bytes} :
    (headers.set other value).has name = true ↔ other = name ∨ headers.has name = true := by
  simp only [has_iff, set, List.mem_append, List.mem_filter, List.mem_singleton, bne_iff_ne, ne_eq]
  constructor
  · rintro ⟨field, ⟨member, -⟩ | rfl, named⟩
    · exact Or.inr ⟨field, member, named⟩
    · exact Or.inl named
  · rintro (same | ⟨field, member, named⟩)
    · exact ⟨_, Or.inr rfl, same⟩
    · by_cases replaced : field.name = other
      · exact ⟨_, Or.inr rfl, replaced.symm.trans named⟩
      · exact ⟨field, Or.inl ⟨member, replaced⟩, named⟩

end Headers

namespace ResponseObject
variable {headers : Headers} {name : String}

/-- Whether an entry of an object is a header field of a name. -/
def Spells (entry : String × String) (name : String) : Prop :=
  ∃ field, HeaderField.of? entry.1 (Text.encode entry.2) = some field ∧ field.name = name

theorem has_addHeader_iff (entry : String × String) :
    (addHeader headers entry).has name = true ↔ Spells entry name ∨ headers.has name = true := by
  unfold addHeader Spells
  cases HeaderField.of? entry.1 (Text.encode entry.2) with
  | none => simp
  | some field => simp [Headers.has_set_iff]

theorem has_foldl_addHeader_iff (entries : List (String × String)) :
    (entries.foldl addHeader headers).has name = true ↔
      (∃ entry ∈ entries, Spells entry name) ∨ headers.has name = true := by
  induction entries generalizing headers with
  | nil => simp
  | cons entry rest ih =>
      rw [List.foldl_cons, ih, has_addHeader_iff, List.exists_mem_cons_iff]
      constructor
      · rintro (later | first | before)
        · exact Or.inl (Or.inr later)
        · exact Or.inl (Or.inl first)
        · exact Or.inr before
      · rintro ((first | later) | before)
        · exact Or.inr (Or.inl first)
        · exact Or.inl later
        · exact Or.inr (Or.inr before)

theorem has_toResponse_iff (found : ResponseObject) :
    found.toResponse.headers.has name = true ↔ ∃ entry ∈ found.headers, Spells entry name := by
  rw [toResponse, has_foldl_addHeader_iff]
  simp [Headers.has, Headers.first?]

end ResponseObject

/-- Responses that are the same but for the order of fields of different names. -/
structure Response.Alike (first second : Response) : Prop where
  status : first.status = second.status
  body : first.body = second.body
  headers : ∀ name, first.headers.getAll name = second.headers.getAll name

theorem getLast?_eq_of_perm {α : Type} {first second : List α} (perm : first.Perm second)
    (alike : ∀ a ∈ second, ∀ b ∈ second, a = b) : first.getLast? = second.getLast? := by
  cases last : first.getLast? with
  | none =>
      rw [List.getLast?_eq_none_iff] at last
      subst last
      rw [List.nil_perm.mp perm, List.getLast?_nil]
  | some a =>
      have here := perm.mem_iff.mp (List.mem_of_getLast? last)
      rw [List.getLast?_eq_some_getLast (List.ne_nil_of_mem here), Option.some.injEq]
      exact alike a here _ (List.getLast_mem _)

namespace ResponseObject

section Entries
variable {r : ResponseObject} {headers : Headers} {entry : String × String}
  {entries order : List (String × String)} {name : String} {field : HeaderField}

/-- The field that an entry spells, if it may be one. -/
def field? (entry : String × String) : Option HeaderField :=
  HeaderField.of? entry.1 (Text.encode entry.2)

theorem addHeader_of_none (none : field? entry = none) : addHeader headers entry = headers := by
  rw [field?] at none
  rw [addHeader, none]

theorem getAll_addHeader (spells : field? entry = some field) :
    (addHeader headers entry).getAll name =
      if field.name = name then [field] else headers.getAll name := by
  rw [field?] at spells
  simp only [addHeader, spells]
  by_cases same : field.name = name
  · rw [if_pos same, ← same, Headers.getAll_set_self]
  · rw [if_neg same, Headers.getAll_set_of_ne (Ne.symm same)]

/-- Of the entries that spell a name the last one is kept. -/
theorem getAll_foldl_addHeader (entries : List (String × String)) (name : String) :
    Headers.getAll (entries.foldl addHeader []) name =
      (Headers.getAll (entries.filterMap field?) name).getLast?.toList := by
  -- from the end, for the last entry is added last
  induction entries using List.reverseRecOn with
  | nil => rfl
  | append_singleton before entry ih =>
      rw [List.foldl_concat, List.filterMap_append]
      cases spells : field? entry with
      | none => simp [addHeader_of_none spells, spells, ih]
      | some field =>
          rw [getAll_addHeader spells, ih]
          by_cases same : field.name = name
          · simp [spells, Headers.getAll, same]
          · simp [spells, Headers.getAll, same]

/-- The response of an object whose entries are taken in an order. -/
def inOrder (r : ResponseObject) (order : List (String × String)) : Response :=
  { r with headers := order }.toResponse

theorem getAll_inOrder (r : ResponseObject) (order : List (String × String)) (name : String) :
    (r.inOrder order).headers.getAll name =
      (Headers.getAll (order.filterMap field?) name).getLast?.toList :=
  getAll_foldl_addHeader order name

theorem exists_order_of_mem (listed : entry ∈ entries) (spells : field? entry = some field) :
    ∃ order, order.Perm entries ∧ ∀ r : ResponseObject,
      (r.inOrder order).headers.getAll field.name = [field] := by
  refine ⟨entries.erase entry ++ [entry], ?_, fun r => ?_⟩
  · exact (List.perm_append_singleton entry _).trans (List.perm_cons_erase listed).symm
  · rw [getAll_inOrder, List.filterMap_append]
    simp [spells, Headers.getAll]

/-- Entries that spell one name give it one value. -/
def Agrees (entries : List (String × String)) : Prop :=
  ∀ entry ∈ entries, ∀ other ∈ entries, ∀ field ∈ field? entry, ∀ found ∈ field? other,
    field.name = found.name → field = found

/-- Where entries agree, each name has the same field in every order. -/
theorem Agrees.getAll_eq (agrees : Agrees entries) (perm : order.Perm entries) (name : String) :
    (r.inOrder order).headers.getAll name = (r.inOrder entries).headers.getAll name := by
  rw [getAll_inOrder, getAll_inOrder]
  congr 1
  refine getLast?_eq_of_perm ((perm.filterMap field?).filter _) fun field here found there => ?_
  obtain ⟨spelled, named⟩ := List.mem_filter.mp here
  obtain ⟨spelledToo, namedToo⟩ := List.mem_filter.mp there
  obtain ⟨entry, listed, spells⟩ := List.mem_filterMap.mp spelled
  obtain ⟨other, listedToo, spellsToo⟩ := List.mem_filterMap.mp spelledToo
  exact agrees entry listed other listedToo field spells found spellsToo
    ((beq_iff_eq.mp named).trans (beq_iff_eq.mp namedToo).symm)

end Entries

/-- The response of an object is the same in whatever order its header entries are taken exactly if
those of them that spell one name, in any letter case, give it one value. -/
theorem orders_are_alike_iff (r : ResponseObject) :
    (∀ first second, first.Perm r.headers → second.Perm r.headers →
      (r.inOrder first).Alike (r.inOrder second)) ↔ Agrees r.headers := by
  constructor
  · intro alike entry listed other listedToo field spells found spellsToo same
    obtain ⟨first, perm, last⟩ := exists_order_of_mem listed spells
    obtain ⟨second, permToo, lastToo⟩ := exists_order_of_mem listedToo spellsToo
    have told := (alike first second perm permToo).headers field.name
    rw [last r, same, lastToo r] at told
    exact List.singleton_inj.mp told
  · intro agrees first second perm permToo
    refine ⟨rfl, rfl, fun name => ?_⟩
    rw [agrees.getAll_eq perm, agrees.getAll_eq permToo]

/-- Spells one name twice, with different values. -/
def exampleClash : ResponseObject := ⟨302, [("Location", "/a"), ("location", "/b")], .null⟩

/-- A result that describes it leads to one place or to the other. -/
theorem exampleClash_depends_on_order :
    decode? (Text.encode
      "\x7b\"statusCode\":302,\"headers\":\x7b\"Location\":\"/a\",\"location\":\"/b\"\x7d\x7d") =
        some exampleClash ∧
    (exampleClash.inOrder [("Location", "/a"), ("location", "/b")]).headers.getAll "location" =
      [⟨"location", Text.encode "/b"⟩] ∧
    (exampleClash.inOrder [("location", "/b"), ("Location", "/a")]).headers.getAll "location" =
      [⟨"location", Text.encode "/a"⟩] ∧
    [("location", "/b"), ("Location", "/a")].Perm exampleClash.headers := by
  have first : field? ("Location", "/a") = some ⟨"location", Text.encode "/a"⟩ := by decide +kernel
  have second : field? ("location", "/b") = some ⟨"location", Text.encode "/b"⟩ := by decide +kernel
  refine ⟨by decide +kernel, ?_, ?_, .swap _ _ _⟩
  · rw [getAll_inOrder]
    simp [first, second, Headers.getAll]
  · rw [getAll_inOrder]
    simp [first, second, Headers.getAll]

def lowered (entry : String × String) : HeaderField := ⟨Text.lower entry.1, Text.encode entry.2⟩

/-- Entries that may be header fields, with names that differ in more than the case of letters. -/
structure Proper (entries : List (String × String)) : Prop where
  named : ∀ entry ∈ entries, (HeaderField.name? entry.1).isSome = true
  valued : ∀ entry ∈ entries, HeaderField.isValue (Text.encode entry.2) = true
  apart : (entries.map fun entry => Text.lower entry.1).Nodup

section Proper
variable {r : ResponseObject} {entry : String × String} {entries order : List (String × String)}

theorem field?_eq_lowered (named : (HeaderField.name? entry.1).isSome = true)
    (valued : HeaderField.isValue (Text.encode entry.2) = true) :
    field? entry = some (lowered entry) := by
  have lower : HeaderField.name? entry.1 = some (Text.lower entry.1) := by
    unfold HeaderField.name? at named ⊢
    split at named
    · cases named
    · rename_i valid
      exact if_neg valid
  simp only [field?, HeaderField.of?, lower, valued, ↓reduceIte, lowered]

theorem Proper.of_perm (proper : Proper entries) (perm : order.Perm entries) : Proper order where
  named entry listed := proper.named entry (perm.mem_iff.mp listed)
  valued entry listed := proper.valued entry (perm.mem_iff.mp listed)
  apart := (perm.map _).nodup_iff.mpr proper.apart

theorem Proper.foldl_addHeader (proper : Proper entries) :
    entries.foldl addHeader [] = entries.map lowered := by
  -- from the end, for the last entry is added last
  induction entries using List.reverseRecOn with
  | nil => rfl
  | append_singleton before entry ih =>
      obtain ⟨named, valued, apart⟩ := proper
      rw [List.forall_mem_append] at named valued
      rw [List.map_append, List.nodup_append] at apart
      have spells : field? entry = some (lowered entry) :=
        field?_eq_lowered (named.2 entry List.mem_cons_self) (valued.2 entry List.mem_cons_self)
      have kept : (before.map lowered).filter (·.name != (lowered entry).name) =
          before.map lowered := by
        refine List.filter_eq_self.mpr fun field listed => bne_iff_ne.mpr ?_
        obtain ⟨other, member, rfl⟩ := List.mem_map.mp listed
        exact apart.2.2 _ (List.mem_map_of_mem member) _ List.mem_cons_self
      rw [field?] at spells
      rw [List.foldl_concat, ih ⟨named.1, valued.1, apart.1⟩, addHeader, spells, List.map_append]
      exact congrArg (· ++ [lowered entry]) kept

/-- Each entry is a field of the response, in whatever order they are taken. -/
theorem Proper.headers_inOrder (proper : Proper r.headers) (perm : order.Perm r.headers) :
    (r.inOrder order).headers = order.map lowered :=
  (proper.of_perm perm).foldl_addHeader

end Proper
end ResponseObject
end EventRelay
