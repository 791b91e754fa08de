import EventRelay.Http.Message
import EventRelay.Subscription.Basic
set_option autoImplicit false

/-!
Which web pages of other origins may read an answer. Sync subscriptions have settings of their
own, custom events are open to every origin.
-/
namespace EventRelay.Cors

/-- Whether a request asks beforehand if another may be sent. -/
def isPreflight (method : String) (headers : Headers) : Bool :=
  method == "OPTIONS" && headers.has "access-control-request-method"

/-- The names that a list between commas holds. -/
def listed (text : String) : List String := (Text.pieces ',' text).map Text.trim

/-- Whether a request asks beforehand if one with the field `Event` may be sent. -/
def isEventPreflight (method : String) (headers : Headers) : Bool :=
  method == "OPTIONS" &&
    (headers.getAll "access-control-request-headers").any fun field =>
      match field.text? with
      | some text => (listed text).any (Text.sameIgnoringCase "event")
      | none => false

/-- The method by which a request is routed: that of the request to come, if it asks for one. -/
def effectiveMethod (method : String) (headers : Headers) : String :=
  if isPreflight method headers then
    match headers.text? "access-control-request-method" with
    | some requested => Text.upper requested
    | none => method
  else method

/-- Whether an origin follows a pattern: with an asterisk, what stands before and after its first
one begins and ends the origin, which has room for both; without, the letters agree in any case. -/
def originMatches (pattern origin : String) : Bool :=
  match Text.cut? '*' pattern with
  | some (start, ending) =>
    start.utf8ByteSize + ending.utf8ByteSize ≤ origin.utf8ByteSize
      && Text.beginsWith start origin && Text.endsWith ending origin
  | none => Text.sameIgnoringCase pattern origin

def originAllowed (cors : CorsSettings) (origin : String) : Bool :=
  cors.origins.any (originMatches · origin)

def origin? (headers : Headers) : Option String := headers.text? "origin"

def allowedOrigin? (cors : CorsSettings) (headers : Headers) : Option String :=
  (origin? headers).filter (originAllowed cors)

/-- Lets pages that the browser has logged in read the answer, where settings say so. -/
def setCredentials (cors : CorsSettings) (headers : Headers) : Headers :=
  if cors.allowCredentials then headers.setText "access-control-allow-credentials" "true"
  else headers

/-- Tells caches that the answer depends on the origin. -/
def varyByOrigin (headers : Headers) : Headers := headers.append "vary" (Text.encode "Origin")

/-- The answer to a preflight for a sync subscription. -/
def preflight (cors : CorsSettings) (request : Headers) : Response :=
  match allowedOrigin? cors request with
  | none => .ofStatus 200
  | some origin =>
    let requested := (request.text? "access-control-request-method").getD ""
    if ¬ cors.methods.any (Text.sameIgnoringCase · requested) then .ofStatus 200
    else
      let headers : Headers := []
      let headers := headers.setText "access-control-allow-origin" origin
      let headers := headers.setText "access-control-allow-methods" (Text.upper requested)
      let headers := if cors.headers.isEmpty then headers
        else headers.setText "access-control-allow-headers" (", ".intercalate cors.headers)
      ⟨200, varyByOrigin (setCredentials cors headers), []⟩

/-- The answer with what lets an allowed origin read it. -/
def apply (cors : CorsSettings) (request : Headers) (response : Response) : Response :=
  match allowedOrigin? cors request with
  | none => response
  | some origin =>
    let headers := response.headers.setText "access-control-allow-origin" origin
    { response with headers := varyByOrigin (setCredentials cors headers) }

/-- The answer to a custom event, which every origin may read. -/
def allowAll (request : Headers) (response : Response) : Response :=
  if (origin? request).isSome then
    { response with
      headers := response.headers.set "access-control-allow-origin" (Text.encode "*") }
  else response

def allowAllPreflight (request : Headers) : Response :=
  let response := allowAll request (.ofStatus 200)
  let headers := response.headers.set "access-control-allow-methods" (Text.encode "POST")
  match request.first? "access-control-request-headers" with
  | some field =>
    { response with headers := headers.set "access-control-allow-headers" field.value }
  | none => { response with headers }

end EventRelay.Cors
