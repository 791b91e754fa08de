import EventRelay.Settings.Basic
import EventRelay.Text.Characters
import EventRelay.Text.Split
set_option autoImplicit false

/-!
Which messages a program logs. A filter lists directives; of those whose target begins that of a
message, the one with the longest target tells from which level on it is logged.
-/
namespace EventRelay.Log

/-- The levels of messages, the gravest first. -/
inductive Level where
  | error
  | warn
  | info
  | debug
  | trace
deriving DecidableEq, Repr

def Level.rank : Level → Nat
  | .error => 1
  | .warn => 2
  | .info => 3
  | .debug => 4
  | .trace => 5

/-- What a filter lets pass: nothing at rank zero, everything at rank five. -/
def rankNames : List (String × Nat) :=
  [("off", 0), ("error", 1), ("warn", 2), ("info", 3), ("debug", 4), ("trace", 5),
    ("0", 0), ("1", 1), ("2", 2), ("3", 3), ("4", 4), ("5", 5)]

def rank? (name : String) : Option Nat := rankNames.lookup (Text.lower name)

/-- A part of a filter. The empty target begins all others. -/
structure Directive where
  target : String
  rank : Nat
deriving DecidableEq, Repr

def isTargetChar (c : Char) : Bool := c.isAlphanum || c == '_' || c == ':' || c == '-'

def isTarget (text : String) : Bool := !text.isEmpty && text.toList.all isTargetChar

/-- The directive that a text writes: a level, a target, or both. -/
def Directive.of? (text : String) : Option Directive :=
  match rank? text with
  | some rank => some ⟨"", rank⟩
  | none =>
    match Text.cut? '=' text with
    | none => if isTarget text then some ⟨text, 5⟩ else none
    | some (target, level) =>
      if ¬ isTarget target then none
      else if level.isEmpty then some ⟨target, 5⟩
      else (rank? level).map (⟨target, ·⟩)

def directiveTexts (filter : String) : List String :=
  (Text.pieces ',' filter).filter fun text => !text.isEmpty

/-- The filter without directives: only errors are logged. -/
def orErrors (directives : List Directive) : List Directive :=
  if directives.isEmpty then [⟨"", 1⟩] else directives

/-- The directives of a filter, all of which have to be well formed. -/
def strict? (filter : String) : Option (List Directive) :=
  ((directiveTexts filter).mapM Directive.of?).map orErrors

/-- The directives of a filter, without those that are not well formed. -/
def lenient (filter : String) : List Directive :=
  orErrors ((directiveTexts filter).filterMap Directive.of?)

def ofLevel (level : String) : List Directive :=
  lenient ("event_gateway=" ++ level ++ ",tower_http=" ++ level)

/-- The filter of the environment, or else that of the settings. -/
def filterOf (environment : Option String) (level : String) : List Directive :=
  (environment.bind strict?).getD (ofLevel level)

/-- The more special of two directives; of two for the same target the later one. -/
def moreSpecial (best : Option Directive) (d : Directive) : Option Directive :=
  match best with
  | none => some d
  | some b => if b.target.length ≤ d.target.length then some d else some b

def allows (directives : List Directive) (target : String) (level : Level) : Bool :=
  match (directives.filter fun d => Text.beginsWith d.target target).foldl moreSpecial none with
  | none => false
  | some d => level.rank ≤ d.rank

inductive Form where
  | text
  | json
deriving DecidableEq, Repr

/-- How the messages of settings are written. -/
def formOf (settings : ObservabilitySettings) : Form := if settings.jsonLogs then .json else .text

end EventRelay.Log
