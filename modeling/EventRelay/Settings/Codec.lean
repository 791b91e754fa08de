import EventRelay.Catalog.Codec
import EventRelay.Settings.Basic
import EventRelay.Toml.Parser
set_option autoImplicit false

/-!
Configurations as JSON and as TOML. The entries of the seed stand beside the sections, and members
that are not known are passed over.
-/
namespace EventRelay

open Json (Document Fault Reader Record)

inductive Notation where
  | json
  | toml
deriving DecidableEq, Repr

def wordReader : Reader UInt64 := fun document =>
  (Reader.nat (Nat.pow 2 64 - 1) document).map .ofNat

def Listener.record : Record Listener where
  names := ["bind_address"]
  required := []
  blank := .standard
  take _ document _ := (Reader.text document).map (⟨·⟩)

def DispatchSettings.record : Record DispatchSettings where
  names := ["workers", "queue_capacity", "drain_timeout_secs"]
  required := []
  blank := .standard
  take name document s :=
    match name with
    | "workers" => do return { s with workers := ← wordReader document }
    | "queue_capacity" => do
      return { s with queueCapacity := ← Reader.optional wordReader document }
    | _ => do return { s with drainSeconds := ← wordReader document }

def RetrySettings.record : Record RetrySettings where
  names := ["enabled", "max_attempts", "base_delay_ms", "max_delay_ms"]
  required := []
  blank := .standard
  take name document s :=
    match name with
    | "enabled" => do return { s with enabled := ← Reader.bool document }
    | "max_attempts" => do
      return { s with maxAttempts := UInt32.ofNat (← Reader.nat (Nat.pow 2 32 - 1) document) }
    | "base_delay_ms" => do return { s with baseDelayMs := ← wordReader document }
    | _ => do return { s with maxDelayMs := ← wordReader document }

def TimeoutSettings.record : Record TimeoutSettings where
  names := ["request_secs", "function_call_secs"]
  required := []
  blank := .standard
  take name document s :=
    match name with
    | "request_secs" => do return { s with requestSeconds := ← wordReader document }
    | _ => do return { s with functionCallSeconds := ← wordReader document }

def LimitSettings.record : Record LimitSettings where
  names := ["max_body_size"]
  required := []
  blank := .standard
  take _ document _ := (wordReader document).map (⟨·⟩)

def ObservabilitySettings.record : Record ObservabilitySettings where
  names := ["log_level", "json_logs", "metrics_enabled", "metrics_address"]
  required := []
  blank := .standard
  take name document s :=
    match name with
    | "log_level" => do return { s with logLevel := ← Reader.text document }
    | "json_logs" => do return { s with jsonLogs := ← Reader.bool document }
    | "metrics_enabled" => do return { s with metricsEnabled := ← Reader.bool document }
    | _ => do return { s with metricsAddress := ← Reader.text document }

def AdminSettings.record : Record AdminSettings where
  names := ["api_key"]
  required := []
  blank := ⟨none⟩
  take _ document _ := (Reader.optional Reader.text document).map (⟨·⟩)

namespace Settings

def sections : List String :=
  ["events", "config_api", "default_space", "dispatch", "retries", "timeouts", "limits",
    "observability", "admin"]

/-- Reads a section. One written as an array may be longer than the section in TOML. -/
def readSection {σ : Type} (form : Notation) (record : Record σ) : Reader σ
  | .array items closed =>
    record.read (.array (if form = .toml then items.take record.names.length else items) closed)
  | document => record.read document

def record (form : Notation) : Record Settings where
  names := sections ++ Seed.names
  required := []
  blank := .standard
  take name document s :=
    match name with
    | "events" => do return { s with events := ← readSection form Listener.record document }
    | "config_api" => do return { s with configApi := ← readSection form Listener.record document }
    | "default_space" => do return { s with defaultSpace := ← Reader.text document }
    | "dispatch" => do
      return { s with dispatch := ← readSection form DispatchSettings.record document }
    | "retries" => do return { s with retries := ← readSection form RetrySettings.record document }
    | "timeouts" => do
      return { s with timeouts := ← readSection form TimeoutSettings.record document }
    | "limits" => do return { s with limits := ← readSection form LimitSettings.record document }
    | "observability" => do
      return { s with observability := ← readSection form ObservabilitySettings.record document }
    | "admin" => do return { s with admin := ← readSection form AdminSettings.record document }
    | name => do
      return { s with seed := ← (Seed.record true (form = .json)).take name document s.seed }

def reader (form : Notation) : Reader Settings
  | .object members closed => (record form).read (.object members closed)
  | document => Reader.misfit document

def toJson (s : Settings) : Json :=
  let listener := fun (l : Listener) => Json.ofMembers [("bind_address", .string l.address)]
  let word := fun (n : UInt64) => Json.ofNat n.toNat
  Json.ofMembers ([("events", listener s.events), ("config_api", listener s.configApi),
    ("default_space", .string s.defaultSpace),
    ("dispatch", Json.ofMembers [("workers", word s.dispatch.workers),
      ("queue_capacity", (s.dispatch.queueCapacity.map word).getD .null),
      ("drain_timeout_secs", word s.dispatch.drainSeconds)]),
    ("retries", Json.ofMembers [("enabled", .bool s.retries.enabled),
      ("max_attempts", Json.ofNat s.retries.maxAttempts.toNat),
      ("base_delay_ms", word s.retries.baseDelayMs), ("max_delay_ms", word s.retries.maxDelayMs)]),
    ("timeouts", Json.ofMembers [("request_secs", word s.timeouts.requestSeconds),
      ("function_call_secs", word s.timeouts.functionCallSeconds)]),
    ("limits", Json.ofMembers [("max_body_size", word s.limits.maxBodySize)]),
    ("observability", Json.ofMembers [("log_level", .string s.observability.logLevel),
      ("json_logs", .bool s.observability.jsonLogs),
      ("metrics_enabled", .bool s.observability.metricsEnabled),
      ("metrics_address", .string s.observability.metricsAddress)]),
    ("admin", Json.ofMembers [("api_key", (s.admin.apiKey.map .string).getD .null)])]
    ++ s.seed.members)

end Settings

namespace Toml

/-- The name under which a date or time stands for itself. -/
def datetimeName : String := "$__toml_private_datetime"

mutual

def Value.toDocument : Value → Document
  | .string s => .string s
  | .integer n => .number (.integer n)
  | .float => .number (.double ⟨0⟩)
  | .bool b => .bool b
  | .datetime text => .object [(some datetimeName, .string text)] true
  | .array items => .array (itemDocuments items) true
  | .inlineTable entries => .object (entryDocuments entries) true
  | .table _ entries => .object (entryDocuments entries) true
  | .tables found => .array (tableDocuments found).reverse true

def itemDocuments : List Value → List Document
  | [] => []
  | item :: rest => item.toDocument :: itemDocuments rest

def entryDocuments : List (String × Value) → List (Option String × Document)
  | [] => []
  | (key, value) :: rest => (some key, value.toDocument) :: entryDocuments rest

def tableDocuments : List (List (String × Value)) → List Document
  | [] => []
  | entries :: rest => .object (entryDocuments entries) true :: tableDocuments rest

end

end Toml

namespace Settings

def ofToml? (text : String) : Option Settings :=
  (Toml.parse? text).bind fun entries =>
    (reader .toml (.object (Toml.entryDocuments entries) true)).toOption

def ofJson? (value : Json) : Option Settings := (Json.readValue (reader .json) value).toOption

end Settings
end EventRelay
