import EventRelay.Proofs.Keyed
import EventRelay.Toml.Parser

set_option autoImplicit false

/-!
The integers of a document of TOML are those of signed words of 64 bits, wherever in it they stand.
What reads a value reads no others, and a table that grows line by line holds what was read.
-/
namespace EventRelay.Toml

/-- A value whose integers are those of signed words of 64 bits. -/
inductive Value.Fits : Value → Prop
  | string (s : String) : Fits (.string s)
  | integer {n : Int} (least : -Int.pow 2 63 ≤ n) (most : n < Int.pow 2 63) : Fits (.integer n)
  | float : Fits .float
  | bool (b : Bool) : Fits (.bool b)
  | datetime (text : String) : Fits (.datetime text)
  | array {items : List Value} (all : ∀ item ∈ items, Fits item) : Fits (.array items)
  | inlineTable {entries : List (String × Value)} (all : ∀ entry ∈ entries, Fits entry.2) :
      Fits (.inlineTable entries)
  | table {origin : Origin} {entries : List (String × Value)}
      (all : ∀ entry ∈ entries, Fits entry.2) : Fits (.table origin entries)
  | tables {found : List (List (String × Value))}
      (all : ∀ entries ∈ found, ∀ entry ∈ entries, Fits entry.2) : Fits (.tables found)

def EntriesFit (entries : Entries) : Prop := ∀ entry ∈ entries, entry.2.Fits

def Yields {α : Type} (P : α → Prop) (found : Option α) : Prop := ∀ value ∈ found, P value

section Yields
variable {α β : Type} {P : α → Prop} {Q : β → Prop}

theorem yields_none : Yields P none := nofun

theorem yields_some {value : α} : Yields P (some value) ↔ P value := by
  simp [Yields]

theorem yields_bind {first : Option β} {next : β → Option α}
    (goesOn : ∀ value ∈ first, Yields P (next value)) : Yields P (first.bind next) := by
  intro value found
  obtain ⟨before, read, rest⟩ := Option.mem_bind_iff.mp found
  exact goesOn before read value rest

theorem Yields.bind {first : Option β} {next : β → Option α} (yields : Yields Q first)
    (goesOn : ∀ value, Q value → Yields P (next value)) : Yields P (first.bind next) :=
  yields_bind fun value found => goesOn value (yields value found)

theorem Yields.map {first : Option β} {f : β → α} (yields : Yields Q first)
    (goesOn : ∀ value, Q value → P (f value)) : Yields P (first.map f) := by
  intro value found
  obtain ⟨before, read, rfl⟩ := Option.mem_map.mp found
  exact goesOn before (yields before read)

theorem Yields.or {first second : Option α} (left : Yields P first) (right : Yields P second) :
    Yields P (first.or second) := by
  intro value found
  rcases Option.or_eq_some_iff.mp found with here | ⟨-, there⟩
  · exact left value here
  · exact right value there

end Yields

/-- A value that is read with the text after it fits. -/
abbrev ReadsFit (found : Option (Value × List Char)) : Prop :=
    Yields (fun read => read.1.Fits) found

section Scalars
variable (cs : List Char)

theorem integer?_fits (n : Int) : Yields Value.Fits (integer? n) := by
  unfold integer?
  split
  · rename_i within
    exact yields_some.mpr (.integer within.1 within.2)
  · exact yields_none

theorem based?_fits (base : Nat) (isDigit : Char → Bool) : ReadsFit (based? base isDigit cs) := by
  refine yields_bind fun (digits, rest) _ => ?_
  exact (integer?_fits _).bind fun value fits => yields_some.mpr fits

theorem float?_fits (negative : Bool) (digits fraction : List Char) (exponent : Int) :
    Yields Value.Fits (float? negative digits fraction exponent) := by
  unfold float?
  split
  · exact yields_none
  · exact yields_some.mpr .float

theorem decimal?_fits : ReadsFit (decimal? cs) := by
  unfold decimal?
  dsimp only
  split
  · exact yields_some.mpr .float
  · exact yields_some.mpr .float
  · refine yields_bind fun (digits, rest) _ => yields_bind fun (fraction, rest) _ =>
      yields_bind fun (exponent, rest) _ => ?_
    dsimp only
    split
    · exact (float?_fits _ _ _ _).bind fun value fits => yields_some.mpr fits
    · exact (integer?_fits _).bind fun value fits => yields_some.mpr fits

theorem number?_fits : ReadsFit (number? cs) := by
  unfold number?
  split
  · exact based?_fits _ _ _
  · exact based?_fits _ _ _
  · exact based?_fits _ _ _
  · exact decimal?_fits _

theorem datetime?_fits : ReadsFit (datetime? cs) :=
  Yields.map (Q := fun _ => True) (fun _ _ => trivial) fun _ _ => .datetime _

theorem scalar?_fits : ReadsFit (scalar? cs) := by
  unfold scalar?
  split
  · exact Yields.map (Q := fun _ => True) (fun _ _ => trivial) fun _ _ => .string _
  · exact Yields.map (Q := fun _ => True) (fun _ _ => trivial) fun _ _ => .string _
  · exact yields_some.mpr (.bool true)
  · exact yields_some.mpr (.bool false)
  · exact (datetime?_fits _).or (number?_fits _)

end Scalars

section Tables
variable {key : String} {value : Value} {entries inner : Entries} {origin : Origin}

/-- A change of a table that puts in nothing that does not fit. -/
def Keeps (change : Origin → Entries → Option (Origin × Entries)) : Prop :=
  ∀ origin entries, EntriesFit entries →
    Yields (fun found => EntriesFit found.2) (change origin entries)

theorem EntriesFit.insert (fit : EntriesFit entries) (fits : value.Fits) :
    EntriesFit (Keyed.insert entries key value) := by
  intro entry member
  rcases Keyed.mem_of_mem_insert member with rfl | old
  · exact fits
  · exact fit entry old

theorem EntriesFit.get? (fit : EntriesFit entries) (found : Keyed.get? entries key = some value) :
    value.Fits :=
  fit (key, value) (Keyed.mem_of_get? found)

theorem entriesFit_nil : EntriesFit [] := by simp [EntriesFit]

theorem entriesFit_of_table (fits : (Value.table origin entries).Fits) : EntriesFit entries := by
  cases fits with
  | table all => exact all

theorem entriesFit_of_tables {found : List Entries} (fits : (Value.tables found).Fits) :
    ∀ entries ∈ found, EntriesFit entries := by
  cases fits with
  | tables all => exact all

theorem Keeps.descend {change : Origin → Entries → Option (Origin × Entries)} (keeps : Keeps change)
    (dotted : Bool) (path : List String) :
    Keeps fun origin => descend dotted origin change path := by
  induction path with
  | nil => exact keeps
  | cons key path ih =>
      intro origin entries fit
      dsimp only
      unfold Toml.descend
      dsimp only
      split
      · refine (ih _ _ entriesFit_nil).map fun found inside => ?_
        exact fit.insert (.table inside)
      · rename_i o inner found
        split
        · exact yields_none
        · have before := entriesFit_of_table (fit.get? found)
          exact (ih o inner before).map fun found inside => fit.insert (.table inside)
      · rename_i last before found
        have all := entriesFit_of_tables (fit.get? found)
        refine (ih _ last (all last List.mem_cons_self)).map fun found inside =>
          fit.insert (.tables ?_)
        intro entries member
        rcases List.mem_cons.mp member with rfl | earlier
        · exact inside
        · exact all entries (List.mem_cons_of_mem last earlier)
      · exact yields_none

theorem keeps_addHere (fits : value.Fits) (plain : Bool) (key : String) :
    Keeps (addHere plain key value) := by
  intro origin entries fit
  unfold addHere
  split
  · exact yields_none
  · split
    · exact yields_none
    · exact yields_some.mpr (fit.insert fits)

theorem keeps_addValue (fits : value.Fits) (path : List String) (key : String) :
    Keeps (addValue path key value) :=
  (keeps_addHere fits path.isEmpty key).descend true path

theorem keeps_beginHere (key : String) : Keeps (beginHere key) := by
  intro origin entries fit
  unfold beginHere
  split
  · exact yields_some.mpr (fit.insert (.table entriesFit_nil))
  · rename_i inner found
    have before := entriesFit_of_table (fit.get? found)
    exact yields_some.mpr (fit.insert (.table before))
  · exact yields_none

theorem keeps_beginNextHere (key : String) : Keeps (beginNextHere key) := by
  intro origin entries fit
  unfold beginNextHere
  split
  · exact yields_some.mpr (fit.insert (.tables (by simp)))
  · rename_i before found
    have all := entriesFit_of_tables (fit.get? found)
    refine yields_some.mpr (fit.insert (.tables fun entries member => ?_))
    rcases List.mem_cons.mp member with rfl | earlier
    · exact entriesFit_nil
    · exact all entries earlier
  · exact yields_none

theorem inlineOf?_fits {members : List ((List String × String) × Value)}
    (fit : ∀ member ∈ members, member.2.Fits) : Yields Value.Fits (inlineOf? members) := by
  have grown : ∀ table : Option (Origin × Entries), Yields (fun found => EntriesFit found.2) table →
      Yields (fun found => EntriesFit found.2) (members.foldl
        (fun table member => table.bind fun (origin, entries) =>
          addValue member.1.1 member.1.2 member.2 origin entries) table) := by
    induction members with
    | nil => exact fun table before => before
    | cons member rest ih =>
        intro table before
        refine ih (fun other listed => fit other (List.mem_cons_of_mem _ listed)) _ ?_
        exact before.bind fun found inside =>
          keeps_addValue (fit member List.mem_cons_self) _ _ found.1 found.2 inside
  have whole := grown (some (.header, [])) (yields_some.mpr entriesFit_nil)
  exact whole.map fun found inside => .inlineTable inside

end Tables

/-- What is read from a text with so much fuel fits. -/
structure FitsWith (fuel : Nat) : Prop where
  value : ∀ depth cs, ReadsFit (valueAt? fuel depth cs)
  items : ∀ depth cs, Yields (fun read => ∀ item ∈ read.1, item.Fits) (itemsAt? fuel depth cs)
  members : ∀ depth cs, Yields (fun read => ∀ member ∈ read.1, member.2.Fits)
    (membersAt? fuel depth cs)

section Values
variable {fuel : Nat} (fits : FitsWith fuel) (depth : Nat) (cs : List Char)
include fits

theorem FitsWith.value_succ : ReadsFit (valueAt? (fuel + 1) depth cs) := by
  unfold valueAt?
  split
  · dsimp only
    split
    · exact yields_none
    · exact (fits.items _ _).bind fun read all => yields_some.mpr (.array all)
  · dsimp only
    split
    · exact yields_none
    · split
      · exact yields_some.mpr (.inlineTable nofun)
      · refine (fits.members _ _).bind fun read all => ?_
        exact (inlineOf?_fits all).bind fun table inside => yields_some.mpr inside
  · exact scalar?_fits _

theorem FitsWith.items_succ : Yields (fun read => ∀ item ∈ read.1, item.Fits)
    (itemsAt? (fuel + 1) depth cs) := by
  unfold itemsAt?
  refine yields_bind fun after _ => ?_
  split
  · exact yields_some.mpr nofun
  · refine (fits.value depth _).bind fun (item, rest) inside => yields_bind fun after _ => ?_
    split
    · exact yields_some.mpr (List.forall_mem_singleton.mpr inside)
    · refine (fits.items depth _).bind fun read all => ?_
      exact yields_some.mpr (List.forall_mem_cons.mpr ⟨inside, all⟩)
    · exact yields_none

theorem FitsWith.members_succ : Yields (fun read => ∀ member ∈ read.1, member.2.Fits)
    (membersAt? (fuel + 1) depth cs) := by
  unfold membersAt?
  refine yields_bind fun (key, rest) _ => yields_bind fun rest _ => ?_
  refine (fits.value depth _).bind fun (value, rest) inside => ?_
  dsimp only
  split
  · exact yields_some.mpr (List.forall_mem_singleton.mpr inside)
  · refine (fits.members depth _).bind fun read all => ?_
    exact yields_some.mpr (List.forall_mem_cons.mpr ⟨inside, all⟩)
  · exact yields_none

end Values

theorem fitsWith (fuel : Nat) : FitsWith fuel := by
  induction fuel with
  | zero => exact ⟨fun _ _ => yields_none, fun _ _ => yields_none, fun _ _ => yields_none⟩
  | succ fuel ih => exact ⟨ih.value_succ, ih.items_succ, ih.members_succ⟩

def Line.Fits : Line → Prop
  | .entry _ _ value => value.Fits
  | _ => True

theorem line?_fits (cs : List Char) : Yields (fun read => read.1.Fits) (line? cs) := by
  unfold line?
  split
  · exact yields_some.mpr trivial
  · exact yields_some.mpr trivial
  · exact yields_some.mpr trivial
  · exact yields_some.mpr trivial
  · refine yields_bind fun ((path, key), rest) _ => yields_bind fun rest _ => ?_
    refine yields_bind fun rest _ => ?_
    exact yields_some.mpr trivial
  · refine yields_bind fun ((path, key), rest) _ => yields_bind fun rest _ => ?_
    exact yields_some.mpr trivial
  · refine yields_bind fun ((path, key), rest) _ => yields_bind fun rest _ => ?_
    exact ((fitsWith _).value 0 _).bind fun read inside => yields_some.mpr inside

theorem follow?_fits {draft : Draft} (fit : EntriesFit draft.root) {line : Line}
    (fits : line.Fits) : Yields (fun after => EntriesFit after.root) (draft.follow? line) := by
  cases line with
  | nothing => exact yields_some.mpr fit
  | header several path key =>
      have keeps : Keeps (if several then beginNextHere key else beginHere key) := by
        cases several
        · exact keeps_beginHere key
        · exact keeps_beginNextHere key
      exact (keeps.descend false path .header draft.root fit).map fun found inside => inside
  | entry path key value =>
      have keeps := keeps_addValue fits path key
      exact (keeps.descend false draft.current .header draft.root fit).map
        fun found inside => inside

theorem readLines?_fits (fuel : Nat) (cs : List Char) {draft : Draft}
    (fit : EntriesFit draft.root) :
    Yields (fun after => EntriesFit after.root) (readLines? fuel cs draft) := by
  induction fuel generalizing cs draft with
  | zero => exact yields_none
  | succ fuel ih =>
      unfold readLines?
      refine (line?_fits cs).bind fun (line, rest) fits => ?_
      refine (follow?_fits fit fits).bind fun after inside => yields_bind fun rest _ => ?_
      split
      · exact yields_some.mpr inside
      · exact yields_bind fun rest _ => ih rest inside

/-- Every integer in a text is one of a signed word of 64 bits. -/
theorem parse?_fits (text : String) : Yields EntriesFit (parse? text) :=
  (readLines?_fits _ _ entriesFit_nil).map fun _ inside => inside

end EventRelay.Toml
