import EventRelay.Proofs.Event.Sources

set_option autoImplicit false

/-!
Names that stand repeatedly, in header fields and in queries. A map that is made along a list keeps
under each name what it makes of the values of this name, taken in their order; the maps differ in
what they make of a second value.
-/
namespace EventRelay

namespace Keyed

section Listed
variable {κ ν μ : Type} [DecidableEq κ]

/-- The values that a list has under a key, in order. -/
def listed (entries : List (κ × ν)) (key : κ) : List ν :=
  (entries.filter fun entry => entry.1 = key).map (·.2)

/-- A map made along a list has under a key what comes of the values of this key alone. -/
theorem get?_foldl [Ord κ] (combine : Option μ → ν → μ) (entries : List (κ × ν))
    (start : List (κ × μ)) (key : κ) :
    get? (entries.foldl (fun found entry =>
        insert found entry.1 (combine (get? found entry.1) entry.2)) start) key =
      (listed entries key).foldl (fun found value => some (combine found value))
        (get? start key) := by
  induction entries generalizing start with
  | nil => rfl
  | cons entry rest ih =>
      rw [List.foldl_cons, ih, get?_insert]
      by_cases same : entry.1 = key
      · simp [listed, same]
      · simp [listed, same]

end Listed
end Keyed

namespace Headers

variable (headers : Headers) (name : String)

/-- The values of a name that are text, in order. -/
def readable : List String := (headers.getAll name).filterMap HeaderField.text?

theorem listed_texts : Keyed.listed headers.texts name = headers.readable name := by
  induction headers with
  | nil => rfl
  | cons field rest ih =>
      simp only [Keyed.listed, readable, texts, getAll] at ih ⊢
      by_cases same : field.name = name
      · cases text : field.text? <;> simp [text, same, ih]
      · cases text : field.text? <;> simp [text, same, ih]

theorem foldl_last (values : List String) :
    values.foldl (fun _ value => some value) none = values.getLast? := by
  induction values using List.reverseRecOn with
  | nil => rfl
  | append_singleton before value _ => simp

theorem get?_lastTexts : Keyed.get? headers.lastTexts name = (headers.readable name).getLast? := by
  have kept := Keyed.get?_foldl (fun _ value => value) headers.texts [] name
  rw [listed_texts] at kept
  exact kept.trans (foldl_last _)

/-- A value after those before it, if there are any. -/
def afterComma : Option String → String → String
  | some text, value => text ++ ", " ++ value
  | none, value => value

theorem joinedTexts_eq_foldl : headers.joinedTexts = headers.texts.foldl (fun found entry =>
    Keyed.insert found entry.1 (afterComma (Keyed.get? found entry.1) entry.2)) [] := by
  unfold joinedTexts
  congr 1
  funext found entry
  cases Keyed.get? found entry.1 <;> rfl

theorem foldl_afterComma (text : String) (values : List String) :
    values.foldl (fun found value => some (afterComma found value)) (some text) =
      some (", ".intercalate (text :: values)) := by
  induction values generalizing text with
  | nil => simp
  | cons value rest ih =>
      rw [List.foldl_cons, ih]
      simp [afterComma, String.append_assoc]

theorem get?_joinedTexts : Keyed.get? headers.joinedTexts name =
    if headers.readable name = [] then none
    else some (", ".intercalate (headers.readable name)) := by
  rw [joinedTexts_eq_foldl, Keyed.get?_foldl, listed_texts]
  cases headers.readable name with
  | nil => rfl
  | cons value rest => exact foldl_afterComma value rest

end Headers

theorem length_le_intercalate {value : String} {values : List String} (member : value ∈ values)
    (separator : String) : value.length ≤ (separator.intercalate values).length := by
  induction values with
  | nil => cases member
  | cons first rest ih =>
      cases rest with
      | nil =>
          rw [List.mem_singleton.mp member, String.intercalate_singleton]
      | cons second rest =>
          rw [String.intercalate_cons_cons, String.length_append, String.length_append]
          rcases List.mem_cons.mp member with rfl | later
          · omega
          · have shorter := ih later
            omega

namespace Headers

variable {headers : Headers}

/-- What keeps the last value and what keeps all agree only where there is no second one. -/
theorem lastTexts_eq_joinedTexts_iff :
    headers.lastTexts = headers.joinedTexts ↔ ∀ name, (headers.readable name).length ≤ 1 := by
  constructor
  · intro same name
    have found : Keyed.get? headers.lastTexts name = Keyed.get? headers.joinedTexts name := by
      rw [same]
    rw [get?_lastTexts, get?_joinedTexts] at found
    match values : headers.readable name with
    | [] => simp
    | [_] => simp
    | first :: second :: rest =>
        rw [values, if_neg (List.cons_ne_nil _ _), List.getLast?_cons_cons] at found
        have shorter := length_le_intercalate (List.mem_of_getLast? found) ", "
        rw [String.intercalate_cons_cons, String.length_append, String.length_append] at shorter
        have comma : ", ".length = 2 := by decide
        omega
  · intro single
    refine (Keyed.ascending_ofList _).ext (ascending_joinedTexts headers) fun name => ?_
    rw [← lastTexts, get?_lastTexts, get?_joinedTexts]
    match values : headers.readable name with
    | [] => rfl
    | [value] => simp
    | first :: second :: rest =>
        have few := single name
        rw [values, List.length_cons, List.length_cons] at few
        omega

end Headers

theorem Form.foldl_append (before values : List String) :
    values.foldl (fun found value => some (found.getD [] ++ [value])) (some before) =
      some (before ++ values) := by
  induction values generalizing before with
  | nil => simp
  | cons value rest ih =>
      rw [List.foldl_cons, ih]
      simp

end EventRelay
