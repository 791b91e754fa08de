import EventRelay.Gateway.Requests
import EventRelay.Service.Launch
set_option autoImplicit false

/-!
The gateway as a running service: it watches its configuration file, logs what comes of a change,
and has a page of metrics.
-/
namespace EventRelay.Service

/-- What comes of a file that has been written. -/
inductive FileNews where
  | applied
  | invalid
  /-- It holds what took effect last. -/
  | unchanged
deriving DecidableEq, Repr

/-- The message of news, if there is one and it is logged. -/
def FileNews.message? (filter : List Log.Directive) : FileNews → Option String
  | .applied =>
    if Log.allows filter "event_gateway::http::server" .info then
      some "Reloaded configuration applied"
    else none
  | .invalid =>
    if Log.allows filter "event_gateway::config::watcher" .error then some "Invalid config file"
    else none
  | .unchanged => none

/-- A gateway with its watcher and the filter of its messages. -/
structure Running where
  gateway : Gateway
  watcher : Settings.Watcher
  filter : List Log.Directive

namespace Running

/-- What comes of a text in the file. -/
def news (p : Running) (text : String) : FileNews :=
  if p.watcher.last = some text then .unchanged
  else if (p.watcher.look (some (Text.encode text))).2.isSome then .applied else .invalid

/-- The file is written; what is logged of it comes with it. -/
def fileWritten (p : Running) (text : String) : Running × Option String :=
  let (watcher, found) := p.watcher.look (some (Text.encode text))
  let gateway := match found with
    | some settings => p.gateway.reload settings
    | none => p.gateway
  ({ p with gateway, watcher }, (p.news text).message? p.filter)

/-- The lines of the page of metrics, where there is one. -/
def page? (p : Running) (address : String) : Option (List String) :=
  let observed := p.gateway.settings.observability
  if observed.metricsEnabled ∧ observed.metricsAddress = address then
    some p.gateway.metrics.lines
  else none

end Running
end EventRelay.Service
