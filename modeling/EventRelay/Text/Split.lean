set_option autoImplicit false

/-!
Cutting a text at a character. A text without the character is one piece, so there is always a
piece.
-/
namespace EventRelay.Text

def piecesOf (sep : Char) : List Char → List (List Char)
  | [] => [[]]
  | c :: rest =>
    if c = sep then [] :: piecesOf sep rest
    else match piecesOf sep rest with
      | [] => [[c]]
      | piece :: pieces => (c :: piece) :: pieces

/-- The pieces of a text between the occurrences of a character. -/
def pieces (sep : Char) (text : String) : List String :=
  (piecesOf sep text.toList).map String.ofList

/-- What stands before and after the first occurrence of a character. -/
def cutOf? (sep : Char) : List Char → Option (List Char × List Char)
  | [] => none
  | c :: rest =>
    if c = sep then some ([], rest)
    else (cutOf? sep rest).map fun (before, after) => (c :: before, after)

def cut? (sep : Char) (text : String) : Option (String × String) :=
  (cutOf? sep text.toList).map fun (before, after) => (String.ofList before, String.ofList after)

/-- The rest of a text that begins with the given characters. -/
def dropStart? : List Char → List Char → Option (List Char)
  | [], cs => some cs
  | _ :: _, [] => none
  | p :: ps, c :: cs => if p = c then dropStart? ps cs else none

/-- The rest of a text after the text it begins with. -/
def after? (start text : String) : Option String :=
  (dropStart? start.toList text.toList).map String.ofList

def beginsWith (start text : String) : Bool := (after? start text).isSome

def occursIn (part : List Char) : List Char → Bool
  | [] => part.isEmpty
  | c :: rest => (dropStart? part (c :: rest)).isSome || occursIn part rest

def contains (part text : String) : Bool := occursIn part.toList text.toList

def endsWith (ending text : String) : Bool :=
  (dropStart? ending.toList.reverse text.toList.reverse).isSome

theorem piecesOf_ne_nil (sep : Char) (cs : List Char) : piecesOf sep cs ≠ [] := by
  cases cs with
  | nil => simp [piecesOf]
  | cons c rest =>
    by_cases here : c = sep
    · simp [piecesOf, here]
    · simp only [piecesOf, here, if_false]
      split <;> simp

theorem dropStart?_eq_some_iff (start cs rest : List Char) :
    dropStart? start cs = some rest ↔ cs = start ++ rest := by
  induction start generalizing cs with
  | nil => simp [dropStart?, eq_comm]
  | cons p ps ih =>
    cases cs with
    | nil => simp [dropStart?]
    | cons c cs =>
      by_cases same : p = c
      · simp [dropStart?, same, ih]
      · simp [dropStart?, same, Ne.symm same]

theorem cutOf?_eq_some_iff (sep : Char) (cs before after : List Char) :
    cutOf? sep cs = some (before, after) ↔ cs = before ++ sep :: after ∧ sep ∉ before := by
  induction cs generalizing before with
  | nil => simp [cutOf?]
  | cons c rest ih =>
    by_cases here : c = sep
    · subst here
      cases before with
      | nil => simp [cutOf?, eq_comm]
      | cons b bs => simp [cutOf?]; rintro rfl; simp
    · cases before with
      | nil => simp [cutOf?, here]
      | cons b bs =>
        simp only [cutOf?, here, if_false, Option.map_eq_some_iff, Prod.exists, Prod.mk.injEq,
          List.cons.injEq, List.cons_append, List.mem_cons, not_or]
        constructor
        · rintro ⟨x, y, found, ⟨rfl, rfl⟩, rfl⟩
          obtain ⟨split, absent⟩ := (ih x).1 found
          exact ⟨⟨rfl, split⟩, fun eq => here eq.symm, absent⟩
        · rintro ⟨⟨rfl, split⟩, _, absent⟩
          exact ⟨bs, after, (ih bs).2 ⟨split, absent⟩, ⟨rfl, rfl⟩, rfl⟩

end EventRelay.Text
