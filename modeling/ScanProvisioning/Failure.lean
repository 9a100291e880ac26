import ScanProvisioning.Duration

namespace ScanProvisioning

/-- A request to a provider that did not succeed. -/
inductive Failure
  /-- The provider answered with an error status. -/
  | refused (operation : String) (status : UInt16) (code : Option String) (message : String)
      (retryAfter : Option Duration)
  /-- There was no answer. -/
  | unreachable (operation message : String) (timedOut : Bool)
  /-- The answer makes no sense. -/
  | unreadable (operation message : String)
  /-- The provider cannot do what is asked. -/
  | unsupported (operation message : String)
  deriving DecidableEq

/-- A reconcile step that did not succeed. -/
inductive Setback
  /-- Expected to pass with time. -/
  | retry (delay : Duration) (reason : String)
  /-- Somebody has to step in. -/
  | fatal (reason : String)
  deriving DecidableEq

/-- What a failure means for the step in which it happened. -/
inductive Verdict
  | missing
  | retry (delay : Duration) (reason : String)
  | fatal (reason : String)
  deriving DecidableEq

def throttleDelay : Duration := .ofSeconds 15

def transientDelay : Duration := .ofSeconds 10

/-- The longest delay taken from a provider's hint. -/
def longestHint : Duration := .ofSeconds 300

/-- Codes that no waiting mends, whatever the status: authorization, quota, and missing parents. -/
def fatalCodes : List String := [
  "AuthorizationFailed", "AuthenticationFailed", "InvalidAuthenticationToken",
  "LinkedAuthorizationFailed", "AuthorizationPermissionMismatch",
  "QuotaExceeded", "OperationNotAllowed", "SkuNotAvailable",
  "ResourceGroupNotFound", "SubscriptionNotFound", "ParentResourceNotFound", "ContainerNotFound"]

def missingCodes : List String := ["ResourceNotFound", "NotFound", "BlobNotFound"]

def retryableCodes : List String := [
  "TooManyRequests", "ServerBusy", "OperationTimedOut", "InternalError", "RetryableError"]

namespace Setback

def reason : Setback → String
  | retry _ reason => reason
  | fatal reason => reason

def text : Setback → String
  | retry delay reason => "retry in " ++ toString delay.seconds ++ "s: " ++ reason
  | fatal reason => "fatal: " ++ reason

/-- Say what was being done; kind and delay stay. -/
def during (activity : String) : Setback → Setback
  | retry delay reason => retry delay (activity ++ ": " ++ reason)
  | fatal reason => fatal (activity ++ ": " ++ reason)

end Setback

namespace Failure

def refusal (operation : String) (status : UInt16) (code : Option String) (message : String) : Failure :=
  refused operation status code message none

def missing (operation : String) : Failure :=
  refusal operation 404 (some "ResourceNotFound") "resource not found"

def operation : Failure → String
  | refused operation .. => operation
  | unreachable operation .. => operation
  | unreadable operation _ => operation
  | unsupported operation _ => operation

/-- Attach a hint to a refusal; other failures carry none. -/
def withRetryAfter (hint : Option Duration) : Failure → Failure
  | refused operation status code message _ => refused operation status code message hint
  | f => f

def text : Failure → String
  | refused operation status code message _ =>
    operation ++ ": HTTP " ++ toString status.toNat ++ " [" ++ code.getD "-" ++ "]: " ++ message
  | unreachable operation message _ => operation ++ ": transport error: " ++ message
  | unreadable operation message => operation ++ ": unexpected response: " ++ message
  | unsupported operation message => operation ++ ": unsupported: " ++ message

/-- Statuses that pass with time: timeout, conflict, and the server's own errors. -/
def isTransientStatus (status : UInt16) : Bool :=
  status = 408 || status = 409 || (500 ≤ status && status ≤ 599)

/-- What a failure means. What is not known to pass with time is fatal. -/
def verdict (f : Failure) : Verdict :=
  match f with
  | refused _ status code _ retryAfter =>
    let code := code.getD ""
    let hint := retryAfter.map (min · longestHint)
    if fatalCodes.contains code then .fatal f.text
    else if status = 404 ∨ missingCodes.contains code then .missing
    else if status = 429 then .retry (hint.getD throttleDelay) ("throttled: " ++ f.text)
    else if isTransientStatus status ∨ retryableCodes.contains code then
      .retry (hint.getD transientDelay) f.text
    else .fatal f.text
  | unreachable .. => .retry transientDelay f.text
  | unreadable .. => .fatal f.text
  | unsupported .. => .fatal f.text

end Failure

/--
The setback of a step that depended on the failed request. Something missing that should be there is
lag between the provider's services, so it passes with time.
-/
def Verdict.setback : Verdict → Setback
  | missing => .retry transientDelay "dependency not visible yet"
  | retry delay reason => .retry delay reason
  | fatal reason => .fatal reason

def Failure.setback (f : Failure) : Setback := f.verdict.setback

end ScanProvisioning
