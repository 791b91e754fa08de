import EventRelay.Identifier
import EventRelay.Text.Quoted
import EventRelay.Url.Parser
set_option autoImplicit false

/-!
Functions, which events are delivered to. A function is registered in a space and backed by a URL,
or by a weighted choice among other functions of its space.
-/
namespace EventRelay

/-- The name of a function within its space. -/
structure FunctionId where
  text : String
deriving DecidableEq, Ord, Repr, Inhabited

def FunctionId.isValid (id : FunctionId) : Bool := isIdentifier id.text

/-- A choice among functions: the name of one and its share. -/
structure WeightedFunction where
  functionId : FunctionId
  weight : UInt32
deriving DecidableEq, Repr, Inhabited

inductive Provider where
  /-- Events are posted to a URL. -/
  | http (url : String)
  /-- Each event goes to one of several functions. -/
  | weighted (functions : List WeightedFunction)
deriving DecidableEq, Repr, Inhabited

/-- A function registered in a space. -/
structure FunctionEntry where
  space : String
  id : FunctionId
  provider : Provider
deriving DecidableEq, Repr, Inhabited

inductive ProviderError where
  | invalidUrl (url : String) (error : Url.Error)
  | unsupportedScheme (url : String)
  | noFunctions
  | zeroWeight
deriving DecidableEq, Repr

def ProviderError.message : ProviderError → String
  | .invalidUrl url error => "invalid url " ++ Text.quoted url ++ ": " ++ error.message
  | .unsupportedScheme url => "url " ++ Text.quoted url ++ " must use http or https"
  | .noFunctions => "weighted provider requires at least one function"
  | .zeroWeight => "weighted function weights must be greater than 0"

def Provider.validate : Provider → Except ProviderError Unit
  | .http url =>
    match Url.parse url with
    | .error e => .error (.invalidUrl url e)
    | .ok parsed => if parsed.isCallable then .ok () else .error (.unsupportedScheme url)
  | .weighted functions =>
    if functions.isEmpty then .error .noFunctions
    else if functions.any (·.weight == 0) then .error .zeroWeight
    else .ok ()

inductive FunctionError where
  | notFound (id : FunctionId)
  /-- No answer came back. -/
  | callFailed (reason : String)
  /-- The function answered with a status that means failure. -/
  | runtime (status : Nat)
  | noWeightedTarget
  | nestedWeighted (id : FunctionId)
deriving DecidableEq, Repr

def FunctionId.cited (id : FunctionId) : String := "FunctionId(" ++ Text.quoted id.text ++ ")"

def FunctionError.message : FunctionError → String
  | .notFound id => "Function " ++ id.cited ++ " not found."
  | .callFailed reason => "Function call failed. Error: " ++ reason
  | .runtime status =>
    "Function call failed because of runtime error. Error: HTTP status code: " ++ toString status
  | .noWeightedTarget =>
    "target function weights sum to 0, there is not one function to target"
  | .nestedWeighted id => "weighted function " ++ id.cited ++ " must target http functions only"

def FunctionError.isRetryable : FunctionError → Bool
  | .callFailed _ => true
  | .runtime _ => true
  | _ => false

end EventRelay
