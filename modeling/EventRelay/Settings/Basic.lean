import EventRelay.Catalog.Seed
set_option autoImplicit false

/-!
All that can be configured. Every setting has a standard value, so that an empty configuration is
one.
-/
namespace EventRelay

structure Listener where
  address : String
deriving DecidableEq, Repr, Inhabited

/-- The workers that deliver events in the background. -/
structure DispatchSettings where
  workers : UInt64
  /-- How many events may wait. -/
  queueCapacity : Option UInt64
  /-- How long to wait for them at the end. -/
  drainSeconds : UInt64
deriving DecidableEq, Repr, Inhabited

/-- How often and how soon a failed delivery is tried again. -/
structure RetrySettings where
  enabled : Bool
  maxAttempts : UInt32
  baseDelayMs : UInt64
  maxDelayMs : UInt64
deriving DecidableEq, Repr, Inhabited

/-- How long requests and function calls may take. -/
structure TimeoutSettings where
  requestSeconds : UInt64
  functionCallSeconds : UInt64
deriving DecidableEq, Repr, Inhabited

/-- How large a request may be. -/
structure LimitSettings where
  maxBodySize : UInt64
deriving DecidableEq, Repr, Inhabited

structure ObservabilitySettings where
  logLevel : String
  jsonLogs : Bool
  metricsEnabled : Bool
  metricsAddress : String
deriving DecidableEq, Repr, Inhabited

/-- Who may change the catalog; everyone, when there is no key. -/
structure AdminSettings where
  apiKey : Option String
deriving DecidableEq, Repr, Inhabited

structure Settings where
  events : Listener
  configApi : Listener
  /-- The space of requests that name none. -/
  defaultSpace : String
  dispatch : DispatchSettings
  retries : RetrySettings
  timeouts : TimeoutSettings
  limits : LimitSettings
  observability : ObservabilitySettings
  admin : AdminSettings
  seed : Seed
deriving DecidableEq, Repr, Inhabited

/-- Where events are listened for, and the standard of every listener. -/
def Listener.standard : Listener := ⟨"0.0.0.0:4000"⟩

def DispatchSettings.standard : DispatchSettings := ⟨20, none, 30⟩

def RetrySettings.standard : RetrySettings := ⟨true, 3, 100, 2000⟩

def TimeoutSettings.standard : TimeoutSettings := ⟨30, 5⟩

def LimitSettings.standard : LimitSettings := ⟨2097152⟩

/-- The standard values of logs and metrics. -/
def ObservabilitySettings.standard : ObservabilitySettings :=
  ⟨"info", false, false, "127.0.0.1:9090"⟩

def Settings.standard : Settings where
  events := .standard
  configApi := ⟨"127.0.0.1:4001"⟩
  defaultSpace := "default"
  dispatch := .standard
  retries := .standard
  timeouts := .standard
  limits := .standard
  observability := .standard
  admin := ⟨none⟩
  seed := .empty

/-- The number of places in the queue: twice the number of workers unless it is set, and at least
one. -/
def DispatchSettings.capacity (dispatch : DispatchSettings) : UInt64 :=
  max (dispatch.queueCapacity.getD (dispatch.workers * 2)) 1

/-- The number of attempts per delivery, with the first. -/
def RetrySettings.attempts (retries : RetrySettings) : UInt32 :=
  if retries.enabled then max retries.maxAttempts 1 else 1

end EventRelay
