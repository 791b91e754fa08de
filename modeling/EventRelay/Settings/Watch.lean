import EventRelay.Settings.Validation
set_option autoImplicit false

/-!
Watching the file of a configuration. A new text takes effect when it holds a configuration; the
text that took effect last, at first the one that was there at the start, is not taken again.
-/
namespace EventRelay.Settings

/-- What a watcher remembers: the text that took effect last. -/
structure Watcher where
  last : Option String
deriving DecidableEq, Repr

namespace Watcher

def textOf? (content : Option Bytes) : Option String := content.bind Text.decode?

/-- A watcher that starts while the file has the given content. -/
def start (content : Option Bytes) : Watcher := ⟨textOf? content⟩

/-- Looks at the file, and tells of the configuration that takes effect. -/
def look (w : Watcher) (content : Option Bytes) : Watcher × Option Settings :=
  match textOf? content with
  | none => (w, none)
  | some text =>
    if w.last = some text then (w, none)
    else
      match load text with
      | .ok settings => (⟨some text⟩, some settings)
      | .error _ => (w, none)

def run : Watcher → List (Option Bytes) → List Settings
  | _, [] => []
  | w, content :: rest =>
    let (w, found) := w.look content
    found.toList ++ run w rest

end Watcher
end EventRelay.Settings
