import EventRelay.Keyed
set_option autoImplicit false

/-!
Documents of TOML: values, and tables that grow line by line. How a table came to be decides what
may be added to it later.
-/
namespace EventRelay.Toml

/-- How a table came to be. -/
inductive Origin where
  /-- By a header of its own. -/
  | header
  /-- By the header of a table below it. -/
  | implied
  /-- By a key with points. -/
  | dotted
deriving DecidableEq, Repr

inductive Value where
  | string (s : String)
  | integer (n : Int)
  /-- A number with a fraction or an exponent; nothing that is configured is one. -/
  | float
  | bool (b : Bool)
  /-- A date, a time or both, as it is written. -/
  | datetime (text : String)
  | array (items : List Value)
  /-- A table in braces, which is complete. -/
  | inlineTable (entries : List (String × Value))
  | table (origin : Origin) (entries : List (String × Value))
  /-- Tables with headers in two pairs of brackets, the last one first. -/
  | tables (tables : List (List (String × Value)))
deriving Repr, Inhabited

abbrev Entries := List (String × Value)

/-- Applies a change to the table at the end of a path from a table. Tables on the way are made
where they are missing; a key with points may pass only through tables that have no header. -/
def descend (dotted : Bool) (origin : Origin)
    (change : Origin → Entries → Option (Origin × Entries)) :
    List String → Entries → Option (Origin × Entries)
  | [], entries => change origin entries
  | key :: path, entries =>
    let made := if dotted then Origin.dotted else Origin.implied
    let into := fun (o : Origin) (inner : Entries) (wrap : Origin × Entries → Value) =>
      (descend dotted o change path inner).map fun found =>
        (origin, Keyed.insert entries key (wrap found))
    match Keyed.get? entries key with
    | none => into made [] fun found => .table found.1 found.2
    | some (.table o inner) =>
      if dotted ∧ o = .header then none else into o inner fun found => .table found.1 found.2
    | some (.tables (last :: before)) => into .header last fun found => .tables (found.2 :: before)
    | some _ => none

/-- Adds a value under a key to a table, if the key is new. A plain key goes into a table with a
header, the last part of one with points into a table that such keys made. -/
def addHere (plain : Bool) (key : String) (value : Value) (origin : Origin) (entries : Entries) :
    Option (Origin × Entries) :=
  if (origin = .dotted) = plain then none
  else if Keyed.contains entries key then none
  else some (origin, Keyed.insert entries key value)

/-- Adds a value under a key with or without points. -/
def addValue (path : List String) (key : String) (value : Value) (origin : Origin)
    (entries : Entries) :
    Option (Origin × Entries) :=
  descend true origin (addHere path.isEmpty key value) path entries

/-- Begins a table with a header: a new one, or one that was only implied. -/
def beginHere (key : String) (origin : Origin) (entries : Entries) : Option (Origin × Entries) :=
  match Keyed.get? entries key with
  | none => some (origin, Keyed.insert entries key (.table .header []))
  | some (.table .implied inner) => some (origin, Keyed.insert entries key (.table .header inner))
  | some _ => none

/-- Begins a further table of several. -/
def beginNextHere (key : String) (origin : Origin) (entries : Entries) :
    Option (Origin × Entries) :=
  match Keyed.get? entries key with
  | none => some (origin, Keyed.insert entries key (.tables [[]]))
  | some (.tables before) => some (origin, Keyed.insert entries key (.tables ([] :: before)))
  | some _ => none

/-- A document while it is read: the whole of it, and the path of the table that lines add to. -/
structure Draft where
  root : Entries
  current : List String

def Draft.begin? (draft : Draft) (several : Bool) (path : List String) (key : String) :
    Option Draft :=
  let change := if several then beginNextHere key else beginHere key
  (descend false .header change path draft.root).map fun found => ⟨found.2, path ++ [key]⟩

def Draft.add? (draft : Draft) (path : List String) (key : String) (value : Value) : Option Draft :=
  (descend false .header (addValue path key value) draft.current draft.root).map fun found =>
    { draft with root := found.2 }

end EventRelay.Toml
