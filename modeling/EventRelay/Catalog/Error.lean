import EventRelay.Route.Tree
import EventRelay.Subscription.Basic
set_option autoImplicit false

/-!
Why the catalog refuses an operation.
-/
namespace EventRelay

/-- Why an entry is not well-formed. -/
inductive InvalidEntry where
  | space (name : String)
  | noEventTypeName
  | reservedEventType (type : EventType)
  | functionId (id : FunctionId)
  | provider (error : ProviderError)
  | subscription (error : SubscriptionError)
deriving DecidableEq, Repr

def InvalidEntry.message : InvalidEntry → String
  | .space name => "invalid space " ++ Text.quoted name
  | .noEventTypeName => "event type name is required"
  | .reservedEventType type =>
    "event type " ++ Text.quoted type.name ++ " uses the reserved system prefix"
  | .functionId id => "invalid functionId " ++ Text.quoted id.text
  | .provider error => error.message
  | .subscription error => error.message

/-- The fields of a subscription that an update keeps. -/
inductive FixedField where
  | kind
  | eventType
  | path
  | method
  | functionId
deriving DecidableEq, Repr

def FixedField.name : FixedField → String
  | .kind => "Type"
  | .eventType => "EventType"
  | .path => "Path"
  | .method => "Method"
  | .functionId => "FunctionID"

inductive CatalogError where
  | eventTypeNotFound (type : EventType)
  | eventTypeAlreadyExists (type : EventType)
  | eventTypeHasSubscriptions (type : EventType)
  | functionNotFound (id : FunctionId)
  | functionAlreadyRegistered (id : FunctionId)
  | functionHasSubscriptions (id : FunctionId)
  | subscriptionNotFound (id : SubscriptionId)
  | subscriptionAlreadyExists (id : SubscriptionId)
  | invalidSubscriptionUpdate (field : FixedField)
  | pathConflict (error : Route.RouteError)
  | validation (cause : InvalidEntry)
deriving DecidableEq, Repr

def CatalogError.message : CatalogError → String
  | .eventTypeNotFound type => "Event Type \"" ++ type.name ++ "\" not found."
  | .eventTypeAlreadyExists type => "Event Type \"" ++ type.name ++ "\" already exists."
  | .eventTypeHasSubscriptions type =>
    "Event Type \"" ++ type.name
      ++ "\" cannot be deleted because there are subscriptions using it."
  | .functionNotFound id => "Function \"" ++ id.text ++ "\" not found."
  | .functionAlreadyRegistered id => "Function \"" ++ id.text ++ "\" already registered."
  | .functionHasSubscriptions id =>
    "Function \"" ++ id.text
      ++ "\" cannot be deleted because it's subscribed to a least one event."
  | .subscriptionNotFound id => "Subscription \"" ++ id.text ++ "\" not found."
  | .subscriptionAlreadyExists id => "Subscription \"" ++ id.text ++ "\" already exists."
  | .invalidSubscriptionUpdate field =>
    "Invalid update. '" ++ field.name ++ "' of existing subscription cannot be updated."
  | .pathConflict error => "Subscription path conflict: " ++ error.message
  | .validation cause => "Validation error: " ++ cause.message

def validateSpace (space : String) : Except CatalogError Unit :=
  if isSpaceName space then .ok () else .error (.validation (.space space))

end EventRelay
