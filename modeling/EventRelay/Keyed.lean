set_option autoImplicit false

/-!
Finite maps as lists of pairs in ascending key order. Looking up sees the first pair of a key, so
the laws of `insert` and `erase` hold on every list, ordered or not.
-/
namespace EventRelay.Keyed

variable {κ ν μ : Type} [DecidableEq κ]

def get? : List (κ × ν) → κ → Option ν
  | [], _ => none
  | (k, v) :: rest, key => if k = key then some v else get? rest key

def contains (entries : List (κ × ν)) (key : κ) : Bool := (get? entries key).isSome

/-- Puts a value under a key, in place of the one that was there. -/
def insert [Ord κ] : List (κ × ν) → κ → ν → List (κ × ν)
  | [], key, value => [(key, value)]
  | (k, v) :: rest, key, value =>
    if k = key then (key, value) :: rest
    else if (compare key k).isLT then (key, value) :: (k, v) :: rest
    else (k, v) :: insert rest key value

def erase (entries : List (κ × ν)) (key : κ) : List (κ × ν) :=
  entries.filter fun entry => !decide (entry.1 = key)

def mapValues (f : ν → μ) (entries : List (κ × ν)) : List (κ × μ) :=
  entries.map fun entry => (entry.1, f entry.2)

/-- The map of a list of pairs; the last pair of a key counts. -/
def ofList [Ord κ] (entries : List (κ × ν)) : List (κ × ν) :=
  entries.foldl (fun all entry => insert all entry.1 entry.2) []

/-- Changes the value under a key, which starts as `start` when there is none. -/
def alter [Ord κ] (entries : List (κ × ν)) (key : κ) (start : ν) (f : ν → ν) : List (κ × ν) :=
  insert entries key (f ((get? entries key).getD start))

@[simp] theorem get?_nil (key : κ) : get? ([] : List (κ × ν)) key = none := rfl

theorem get?_insert [Ord κ] (entries : List (κ × ν)) (key other : κ) (value : ν) :
    get? (insert entries key value) other =
      if key = other then some value else get? entries other := by
  induction entries with
  | nil => simp [insert, get?]
  | cons entry rest ih =>
    obtain ⟨k, v⟩ := entry
    by_cases same : k = key
    · subst same
      by_cases found : k = other <;> simp [insert, get?, found]
    · by_cases before : (compare key k).isLT
      · simp [insert, get?, same, before]
      · by_cases found : k = other
        · subst found
          simp [insert, get?, same, before, Ne.symm same]
        · simp [insert, get?, same, before, found, ih]

@[simp] theorem get?_insert_self [Ord κ] (entries : List (κ × ν)) (key : κ) (value : ν) :
    get? (insert entries key value) key = some value := by simp [get?_insert]

theorem get?_erase (entries : List (κ × ν)) (key other : κ) :
    get? (erase entries key) other = if key = other then none else get? entries other := by
  induction entries with
  | nil => simp [erase, get?]
  | cons entry rest ih =>
    obtain ⟨k, v⟩ := entry
    simp only [erase] at ih
    by_cases same : k = key
    · subst same
      by_cases found : k = other <;> simp_all [erase, get?]
    · by_cases found : k = other
      · subst found
        simp [erase, get?, same, Ne.symm same]
      · simp [erase, get?, same, found, ih]

theorem get?_mapValues (f : ν → μ) (entries : List (κ × ν)) (key : κ) :
    get? (mapValues f entries) key = (get? entries key).map f := by
  induction entries with
  | nil => rfl
  | cons entry rest ih =>
    obtain ⟨k, v⟩ := entry
    simp only [mapValues] at ih
    by_cases found : k = key <;> simp [mapValues, get?, found, ih]

end EventRelay.Keyed
