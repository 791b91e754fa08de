import EventRelay.CommandLine.Arguments
set_option autoImplicit false

/-!
The commands by which a gateway is managed, and how they are given on a command line: options that
hold for all commands, the name of a command, and the words that it takes.
-/
namespace EventRelay.CommandLine

inductive Command where
  | status
  | eventTypes
  | createEventType (name : String)
  | functions
  | registerFunction (id url : String)
  | deleteFunction (id : String)
  | subscriptions
  | subscribe (eventType functionId path : String)
  | subscribeHttp (method path functionId : String)
  | unsubscribe (id : String)
  | emit (event data : String)
  | invoke (functionId data : String)
deriving DecidableEq, Repr

/-- A command with the gateway that it is for. -/
structure Order where
  /-- The URL of the configuration side. -/
  url : String
  eventsUrl : String
  key : Option String
  space : String
  command : Command
deriving DecidableEq, Repr

/-- The names of commands, each with the number of words that it takes. -/
def names : List (String × Nat) :=
  [("status", 0), ("event-types", 0), ("create-event-type", 1), ("functions", 0),
    ("register-function", 2), ("delete-function", 1), ("subscriptions", 0), ("subscribe", 2),
    ("subscribe-http", 3), ("unsubscribe", 1), ("emit", 2), ("invoke", 2)]

/-- The command of a name with its words and, for a subscription, its path. -/
def Command.of? (name : String) (words : List String) (path : String) : Option Command :=
  match name, words with
  | "status", [] => some .status
  | "event-types", [] => some .eventTypes
  | "create-event-type", [name] => some (.createEventType name)
  | "functions", [] => some .functions
  | "register-function", [id, url] => some (.registerFunction id url)
  | "delete-function", [id] => some (.deleteFunction id)
  | "subscriptions", [] => some .subscriptions
  | "subscribe", [eventType, functionId] => some (.subscribe eventType functionId path)
  | "subscribe-http", [method, path, functionId] => some (.subscribeHttp method path functionId)
  | "unsubscribe", [id] => some (.unsubscribe id)
  | "emit", [event, data] => some (.emit event data)
  | "invoke", [functionId, data] => some (.invoke functionId data)
  | _, _ => none

def orderLayout : Layout where
  choices := [⟨"url", some 'u'⟩, ⟨"events-url", some 'e'⟩, ⟨"key", some 'k'⟩, ⟨"space", some 's'⟩]
  most := 0
  ends := "help" :: names.map (·.1)
  versioned := false

def commandLayout (name : String) (most : Nat) : Layout where
  choices := if name = "subscribe" then [⟨"path", none⟩] else []
  most
  ends := []
  versioned := false

def helpOn : List String → Stop
  | [] => .help
  | [name] => if name ∈ orderLayout.ends then .help else .misuse
  | _ => .misuse

def readCommand (name : String) (arguments : List String) : Except Stop Command :=
  match names.lookup name with
  | none => .error .misuse
  | some most => do
    let (taken, _) ← (commandLayout name most).read arguments .nothing
    match Command.of? name taken.words ((taken.value? "path").getD "/") with
    | some command => .ok command
    | none => .error .misuse

def Order.read (arguments : List String) : Except Stop Order := do
  let (taken, rest) ← orderLayout.read arguments .nothing
  match rest with
  | [] => .error .misuse
  | "help" :: topic => .error (helpOn topic)
  | name :: arguments => do
    let command ← readCommand name arguments
    return {
      url := (taken.value? "url").getD "http://localhost:4001"
      eventsUrl := (taken.value? "events-url").getD "http://localhost:4000"
      key := taken.value? "key"
      space := (taken.value? "space").getD "default"
      command }

end EventRelay.CommandLine
