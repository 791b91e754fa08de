import EventRelay.Catalog.Basic
set_option autoImplicit false

/-!
What the gateway counts, and the page on which it shows the counts. A count appears with its first
event; the sizes of the catalog appear when they are first reported.
-/
namespace EventRelay

/-- The classes of events that are received. -/
inductive EventClass where
  | custom
  | http
  | invoke
  | system
deriving DecidableEq, Ord, Repr

def EventClass.name : EventClass → String
  | .custom => "custom"
  | .http => "http"
  | .invoke => "invoke"
  | .system => "system"

/-- What calls are counted by: the function, and whether it succeeded. -/
structure InvocationKey where
  function : String
  succeeded : Bool
deriving DecidableEq, Ord, Repr

structure RequestKey where
  method : String
  status : Nat
deriving DecidableEq, Ord, Repr

structure Metrics where
  received : List (EventClass × Nat)
  dropped : Nat
  invocations : List (InvocationKey × Nat)
  requests : List (RequestKey × Nat)
  entries : Option Catalog.Stats
deriving DecidableEq, Repr

namespace Metrics

def empty : Metrics := ⟨[], 0, [], [], none⟩

def increment {κ : Type} [DecidableEq κ] [Ord κ] (counts : List (κ × Nat)) (key : κ) :
    List (κ × Nat) :=
  Keyed.alter counts key 0 (· + 1)

def countReceived (m : Metrics) (kind : EventClass) : Metrics :=
  { m with received := increment m.received kind }

/-- Counts an event that finds the queue full. -/
def countDropped (m : Metrics) : Metrics := { m with dropped := m.dropped + 1 }

def countInvocation (m : Metrics) (id : FunctionId) (succeeded : Bool) : Metrics :=
  { m with invocations := increment m.invocations ⟨id.text, succeeded⟩ }

def countRequest (m : Metrics) (method : String) (status : Nat) : Metrics :=
  { m with requests := increment m.requests ⟨method, status⟩ }

/-- Takes over the sizes of a catalog. -/
def report (m : Metrics) (stats : Catalog.Stats) : Metrics := { m with entries := some stats }

def escapedChar (c : Char) : List Char :=
  if c = '\\' then ['\\', '\\']
  else if c = '"' then ['\\', '"']
  else if c = '\n' then ['\\', 'n']
  else [c]

def label (name value : String) : String :=
  name ++ "=\"" ++ String.ofList (value.toList.flatMap escapedChar) ++ "\""

def sample (name : String) (labels : List String) (value : Nat) : String :=
  let shown := if labels.isEmpty then "" else "\x7b" ++ ",".intercalate labels ++ "\x7d"
  name ++ shown ++ " " ++ toString value

/-- The lines of a family of counts, if there are any. -/
def family (name kind help : String) (samples : List String) : List String :=
  if samples.isEmpty then []
  else ["# HELP " ++ name ++ " " ++ help, "# TYPE " ++ name ++ " " ++ kind] ++ samples

def calls (m : Metrics) : List (String × Nat) :=
  m.invocations.foldl
    (fun found entry => Keyed.alter found entry.1.function 0 (· + entry.2)) []

/-- The lines of the page, without measured times. -/
def lines (m : Metrics) : List String :=
  family "gateway_events_received_total" "counter" "Events received by the events API"
    (m.received.map fun (c, n) =>
      sample "gateway_events_received_total" [label "class" c.name] n)
  ++ family "gateway_events_dropped_total" "counter"
    "Async events dropped because the work queue was full"
    (if m.dropped = 0 then [] else [sample "gateway_events_dropped_total" [] m.dropped])
  ++ family "gateway_function_invocations_total" "counter" "Function invocations by outcome"
    (m.invocations.map fun (key, n) =>
      sample "gateway_function_invocations_total"
        [label "function" key.function,
          label "outcome" (if key.succeeded then "success" else "failure")] n)
  ++ family "gateway_requests_total" "counter" "Events API responses by status"
    (m.requests.map fun (key, n) =>
      sample "gateway_requests_total"
        [label "method" key.method, label "status" (toString key.status)] n)
  ++ family "gateway_catalog_entries" "gauge" "Registered catalog entries by kind"
    (match m.entries with
      | none => []
      | some stats =>
        [("event_types", stats.eventTypes), ("functions", stats.functions),
          ("subscriptions", stats.subscriptions)].map fun (kind, n) =>
            sample "gateway_catalog_entries" [label "kind" kind] n)
  ++ family "gateway_function_duration_seconds" "summary" "Function invocation latency"
    (m.calls.map fun (function, n) =>
      sample "gateway_function_duration_seconds_count" [label "function" function] n)

end Metrics
end EventRelay
