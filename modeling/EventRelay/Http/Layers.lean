import EventRelay.Http.Body
set_option autoImplicit false

/-!
What surrounds the handlers of both sides: every request has an id, which its response repeats,
and a request that declares too long a body is refused.
-/
namespace EventRelay

def requestIdName : String := "x-request-id"

/-- The request with an id; one that it has already is kept. -/
def Request.withId (request : Request) (id : String) : Request :=
  if request.headers.has requestIdName then request
  else { request with headers := request.headers.append requestIdName (Text.encode id) }

/-- The response with the id of its request, unless it has an id of its own. -/
def Response.withIdOf (response : Response) (request : Request) : Response :=
  if response.headers.has requestIdName then response
  else
    match request.headers.first? requestIdName with
    | some field => { response with headers := response.headers ++ [field] }
    | none => response

/-- The response to a request that declares too long a body. -/
def Response.tooLong : Response := .plain 413 "length limit exceeded"

/-- The response as it is sent, with the id of its request. -/
def Response.finished (response : Response) (request : Request) : Response :=
  (response.withIdOf request).sentTo request.method

end EventRelay
