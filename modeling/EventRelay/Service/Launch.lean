import EventRelay.CommandLine.Arguments
import EventRelay.ConfigApi.Handler
import EventRelay.Service.Log
import EventRelay.Settings.Watch
set_option autoImplicit false

/-!
How the two services start: from a command line, a configuration file and the environment. A
service that cannot start ends with a code; messages are logged from the moment the configuration
is known.
-/
namespace EventRelay.Service

open CommandLine (Layout Stop Taken)

inductive Launch (α : Type) where
  /-- It ends without a message, perhaps with some output. -/
  | refused (exit : Nat) (output : String)
  /-- It ends after the first message. -/
  | failed (first : Option Log.Form)
  /-- It runs. -/
  | running (service : α) (filter : List Log.Directive) (first : Option Log.Form)

/-- The end of a start whose command line cannot be followed. -/
def Launch.stopped {α : Type} (version : String) : Stop → Launch α
  | .help => .refused 0 ""
  | .version => .refused 0 (version ++ "\n")
  | .misuse => .refused 2 ""

def firstMessage (filter : List Log.Directive) (target : String) (level : Log.Level)
    (form : Log.Form) :
    Option Log.Form :=
  if Log.allows filter target level then some form else none

/-- The settings with what the command line says. -/
def withOptions (taken : Taken) (s : Settings) : Settings :=
  let or := fun (name given : String) => (taken.value? name).getD given
  { s with
    events := ⟨or "events-address" s.events.address⟩
    configApi := ⟨or "config-address" s.configApi.address⟩
    observability := { s.observability with logLevel := or "log-level" s.observability.logLevel } }

def gatewayLayout : Layout where
  choices :=
    [⟨"config", some 'c'⟩, ⟨"events-address", none⟩, ⟨"config-address", none⟩, ⟨"log-level", none⟩]
  most := 0
  ends := []
  versioned := true

def canListen (s : Settings) : Bool :=
  Net.isSocketAddress s.events.address && Net.isSocketAddress s.configApi.address
    && (s.events.address != s.configApi.address || Text.endsWith ":0" s.events.address)

/-- Starts the gateway; `files` tells what a file holds. -/
def launchGateway (arguments : List String) (files : String → Option Bytes)
    (environment : Option String) :
    Launch Settings :=
  match gatewayLayout.read arguments .nothing with
  | .error stop => .stopped ("event-gateway " ++ ConfigApi.version) stop
  | .ok (taken, _) =>
    let loaded : Except Settings.LoadError Settings := match taken.value? "config" with
      | none => .ok Settings.standard
      | some path => Settings.loadFile (files path)
    match loaded with
    | .error _ => .refused 1 ""
    | .ok settings =>
      let settings := withOptions taken settings
      let filter := Log.filterOf environment settings.observability.logLevel
      let first := firstMessage filter "event_gateway" .info (Log.formOf settings.observability)
      if canListen settings then .running settings filter first else .failed first

def usersLayout : Layout where
  choices := [⟨"bind", some 'b'⟩, ⟨"log-level", none⟩]
  most := 0
  ends := []
  versioned := false

def launchUsers (arguments : List String) (environment : Option String) : Launch String :=
  match usersLayout.read arguments .nothing with
  | .error stop => .stopped "users-service" stop
  | .ok (taken, _) =>
    let address := (taken.value? "bind").getD "127.0.0.1:3000"
    let filter := Log.filterOf environment ((taken.value? "log-level").getD "info")
    if Net.isSocketAddress address then
      .running address filter (firstMessage filter "users_service" .info .text)
    else .failed none

end EventRelay.Service
