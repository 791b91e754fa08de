import EventRelay.Settings.Watch
import Mathlib.Data.List.Chain

set_option autoImplicit false

/-!
What a watcher makes of a file that changes. Of all that is seen of the file only the texts that
hold a configuration have an effect, and of these one that repeats the one before it has none. So
what takes effect are the configurations of the texts that differ from the one before, and the last
of them is always that of the last text that holds one.
-/
namespace EventRelay.Settings.Watcher

/-- The text of a file's content, if it holds a configuration. -/
def validText? (content : Option Bytes) : Option String :=
  (textOf? content).filter fun text => (load text).isOk

/-- The texts that differ from the one before; `before` stands before the first. -/
def changes (before : String) (texts : List String) : List String :=
  ((before :: texts).zip texts).filterMap fun (last, text) =>
    if text = last then none else some text

section Changes
variable {before text : String} {texts : List String}

@[simp] theorem changes_nil (before : String) : changes before [] = [] := rfl

theorem changes_cons : changes before (text :: texts) =
    if text = before then changes text texts else text :: changes text texts := by
  by_cases same : text = before
  · simp [changes, same]
  · simp [changes, same]

/-- No text stands twice in a row among the changes. -/
theorem isChain_changes (before : String) (texts : List String) :
    (before :: changes before texts).IsChain (· ≠ ·) := by
  induction texts generalizing before with
  | nil => exact .singleton before
  | cons text rest ih =>
      rw [changes_cons]
      split
      · rename_i same
        subst same
        exact ih text
      · rename_i unlike
        exact .cons_cons (Ne.symm unlike) (ih text)

end Changes

section Looks
variable {content : Option Bytes} {text before : String} {settings : Settings}

theorem validText?_of_load_ok (read : textOf? content = some text)
    (valid : load text = .ok settings) : validText? content = some text := by
  simp [validText?, read, valid, Except.isOk, Except.toBool]

theorem textOf?_of_validText? (valid : validText? content = some text) :
    textOf? content = some text ∧ ∃ settings, load text = .ok settings := by
  obtain ⟨read, holds⟩ := Option.filter_eq_some_iff.mp valid
  refine ⟨read, ?_⟩
  cases loaded : load text with
  | error e =>
      rw [loaded] at holds
      cases holds
  | ok settings => exact ⟨settings, rfl⟩

/-- What holds no configuration has no effect, whatever took effect last. -/
theorem look_of_not_valid (invalid : validText? content = none) (w : Watcher) :
    w.look content = (w, none) := by
  unfold look
  cases read : textOf? content with
  | none => rfl
  | some text =>
      cases loaded : load text with
      | error e => simp only [loaded, ite_self]
      | ok settings =>
          rw [validText?_of_load_ok read loaded] at invalid
          cases invalid

/-- A text that holds a configuration takes effect unless it repeats the one that took effect
last. -/
theorem look_of_valid (read : textOf? content = some text) (valid : load text = .ok settings)
    (before : String) :
    look ⟨some before⟩ content = (⟨some text⟩, if text = before then none else some settings) := by
  unfold look
  by_cases same : text = before
  · simp [read, same]
  · simp [read, same, Ne.symm same, valid]

end Looks

section Runs
variable {seen rest : List (Option Bytes)} {content : Option Bytes} {text before start : String}
  {settings : Settings}

theorem run_cons_of_not_valid (invalid : validText? content = none) (w : Watcher) :
    run w (content :: rest) = run w rest := by
  rw [run, look_of_not_valid invalid]
  rfl

theorem run_cons_of_valid (read : textOf? content = some text) (valid : load text = .ok settings)
    (before : String) : run ⟨some before⟩ (content :: rest) =
      if text = before then run ⟨some text⟩ rest else settings :: run ⟨some text⟩ rest := by
  rw [run, look_of_valid read valid]
  by_cases same : text = before
  · simp [same]
  · simp [same]

theorem run_append_of_not_valid (invalid : validText? content = none) (w : Watcher)
    (seen rest : List (Option Bytes)) : run w (seen ++ content :: rest) = run w (seen ++ rest) := by
  induction seen generalizing w with
  | nil => exact run_cons_of_not_valid invalid w
  | cons first more ih => simp only [List.cons_append, run, ih]

theorem run_eq_changes (before : String) (seen : List (Option Bytes)) :
    (run ⟨some before⟩ seen).map .ok = (changes before (seen.filterMap validText?)).map load := by
  induction seen generalizing before with
  | nil => rfl
  | cons content rest ih =>
      cases found : validText? content with
      | none => rw [run_cons_of_not_valid found, List.filterMap_cons_none found, ih]
      | some text =>
          obtain ⟨read, settings, valid⟩ := textOf?_of_validText? found
          rw [run_cons_of_valid read valid, List.filterMap_cons_some found, changes_cons]
          by_cases same : text = before
          · simp only [same, ↓reduceIte, ih]
          · simp only [same, ↓reduceIte, List.map_cons, ih, valid]

/-- The configuration in force is that of the last text that holds one. -/
theorem load_getLastD_run (valid : load before = .ok settings) (seen : List (Option Bytes)) :
    load ((seen.filterMap validText?).getLastD before) =
      .ok ((run ⟨some before⟩ seen).getLastD settings) := by
  induction seen generalizing before settings with
  | nil => exact valid
  | cons content rest ih =>
      cases found : validText? content with
      | none => rw [run_cons_of_not_valid found, List.filterMap_cons_none found, ih valid]
      | some text =>
          obtain ⟨read, next, loaded⟩ := textOf?_of_validText? found
          rw [run_cons_of_valid read loaded, List.filterMap_cons_some found, List.getLastD_cons,
            ih loaded]
          by_cases same : text = before
          · -- what repeats the text in force holds what is in force
            subst same
            rw [loaded] at valid
            cases valid
            rw [if_pos rfl]
          · rw [if_neg same, List.getLastD_cons]

end Runs

/-- Reloads converge and repeat nothing. Let a watcher remember the text with whose configuration a
service has started, and look at the file again and again, where it may find anything. Of the texts
that hold a configuration those take effect, with their configurations, that differ from the one
before, the first one from the text of the start; so no text takes effect twice in a row. What holds
no configuration has no effect at all. The configuration in force is always that of the last text
seen that holds one, so it is that of a text just seen. -/
theorem reloads_converge {start : String} {settings : Settings} (valid : load start = .ok settings)
    (seen : List (Option Bytes)) :
    (run ⟨some start⟩ seen).map .ok = (changes start (seen.filterMap validText?)).map load ∧
    (start :: changes start (seen.filterMap validText?)).IsChain (· ≠ ·) ∧
    (∀ content, validText? content = none → ∀ w : Watcher, w.look content = (w, none) ∧
      ∀ rest, run w (seen ++ content :: rest) = run w (seen ++ rest)) ∧
    load ((seen.filterMap validText?).getLastD start) =
      .ok ((run ⟨some start⟩ seen).getLastD settings) ∧
    ∀ content text, validText? content = some text →
      load text = .ok ((run ⟨some start⟩ (seen ++ [content])).getLastD settings) := by
  refine ⟨run_eq_changes start seen, isChain_changes start _, fun content invalid w => ?_,
    load_getLastD_run valid seen, fun content text found => ?_⟩
  · exact ⟨look_of_not_valid invalid w, run_append_of_not_valid invalid w seen⟩
  · have last := load_getLastD_run valid (seen ++ [content])
    rwa [List.filterMap_append, List.filterMap_cons_some found, List.filterMap_nil,
      List.getLastD_concat] at last

/-- The file is changed, removed, damaged and changed to the same text, and at last is as it was. -/
def exampleEdits : List (Option Bytes) :=
  [some (Text.encode "default_space = \"acme\""), none, some [0xFF],
    some (Text.encode "[dispatch]\nworkers = 0"), some (Text.encode "default_space = \"acme\""),
      some []]

/-- Of six changes to the file of an empty configuration the first and the last take effect. -/
theorem exampleEdits_converge : load "" = .ok .standard ∧
    exampleEdits.filterMap validText? =
      ["default_space = \"acme\"", "default_space = \"acme\"", ""] ∧
    (run ⟨some ""⟩ exampleEdits).map .ok = ["default_space = \"acme\"", ""].map load ∧
    (run ⟨some ""⟩ exampleEdits).getLastD .standard = .standard := by
  have started : load "" = .ok .standard := rfl
  have texts : exampleEdits.filterMap validText? =
      ["default_space = \"acme\"", "default_space = \"acme\"", ""] := by decide +kernel
  obtain ⟨taken, -, -, last, -⟩ := reloads_converge started exampleEdits
  rw [texts] at taken last
  have stands : load "" = .ok ((run ⟨some ""⟩ exampleEdits).getLastD .standard) := last
  rw [started, Except.ok.injEq] at stands
  exact ⟨started, texts, taken, stands.symm⟩

end EventRelay.Settings.Watcher
