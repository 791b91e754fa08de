import EventRelay.Net.Ip
import EventRelay.Settings.Codec
set_option autoImplicit false

/-!
What a configuration has to keep to besides its form. All errors are told, in the order of the
checks.
-/
namespace EventRelay.Settings

inductive Problem where
  | address (text : String)
  | space (error : CatalogError)
  | notPositive
  | aboveMaximum
  | provider (error : ProviderError)
  | blank
deriving DecidableEq, Repr

def Problem.message : Problem → String
  | .address text => "invalid socket address " ++ Text.quoted text
  | .space e => e.message
  | .notPositive => "must be greater than 0"
  | .aboveMaximum => "must not exceed max_delay_ms"
  | .provider e => e.message
  | .blank => "must not be empty when set"

structure Refusal where
  field : String
  problem : Problem
deriving DecidableEq, Repr

def Refusal.message (refusal : Refusal) : String := refusal.field ++ ": " ++ refusal.problem.message

def check (passed : Bool) (field : String) (problem : Problem) : List Refusal :=
  if passed then [] else [⟨field, problem⟩]

def checkAddress (field address : String) : List Refusal :=
  check (Net.isSocketAddress address) field (.address address)

def checkFunction (index : Nat) (entry : FunctionEntry) : List Refusal :=
  match entry.provider.validate with
  | .ok () => []
  | .error e => [⟨"functions[" ++ toString index ++ "]", .provider e⟩]

def checkFunctions : Nat → List FunctionEntry → List Refusal
  | _, [] => []
  | index, entry :: rest => checkFunction index entry ++ checkFunctions (index + 1) rest

def refusals (s : Settings) : List Refusal :=
  checkAddress "events.bind_address" s.events.address
    ++ checkAddress "config_api.bind_address" s.configApi.address
    ++ (if s.observability.metricsEnabled then
        checkAddress "observability.metrics_address" s.observability.metricsAddress else [])
    ++ (match validateSpace s.defaultSpace with
      | .ok () => []
      | .error e => [⟨"default_space", .space e⟩])
    ++ check (s.dispatch.workers != 0) "dispatch.workers" .notPositive
    ++ check (s.timeouts.requestSeconds != 0) "timeouts.request_secs" .notPositive
    ++ check (s.timeouts.functionCallSeconds != 0) "timeouts.function_call_secs" .notPositive
    ++ check (s.retries.baseDelayMs ≤ s.retries.maxDelayMs) "retries.base_delay_ms" .aboveMaximum
    ++ checkFunctions 0 s.seed.functions
    ++ (match s.admin.apiKey with
      | none => []
      | some key => check (!(Text.trim key).isEmpty) "admin.api_key" .blank)

/-- Why a text is no configuration. -/
inductive LoadError where
  /-- There is no text. -/
  | unreadable
  /-- The text has not the form of a configuration. -/
  | malformed
  | refused (refusals : List Refusal)
deriving DecidableEq, Repr

def refusalsMessage (found : List Refusal) : String :=
  "Validation failed: " ++ ", ".intercalate (found.map Refusal.message)

def validated (s : Settings) : Except LoadError Settings :=
  match s.refusals with
  | [] => .ok s
  | found => .error (.refused found)

/-- The configuration that a text holds. -/
def load (text : String) : Except LoadError Settings :=
  match ofToml? text with
  | none => .error .malformed
  | some s => s.validated

/-- The configuration that a file holds, if it is there. -/
def loadFile : Option Bytes → Except LoadError Settings
  | none => .error .unreadable
  | some bytes =>
    match Text.decode? bytes with
    | none => .error .unreadable
    | some text => load text

end EventRelay.Settings
