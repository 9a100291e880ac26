import ScanProvisioning.Azure.Account
import ScanProvisioning.Azure.Host
import ScanProvisioning.Json.Decoder

namespace ScanProvisioning.Azure

open Json Json.Decoder

/-- Tokens are renewed this long before they expire. -/
def renewalMargin : Duration := .ofSeconds 300

def CachedToken.isFresh (t : CachedToken) (now : Instant) : Bool := now + renewalMargin.nanos < t.expiresAt

/-- A token as the authority hands it out. -/
structure IssuedToken where
  token : String
  lifetime : Option UInt64

def IssuedToken.decoder : Decoder IssuedToken := fun d => do
  let found ← record "TokenResponse"
    [field "access_token" string, optionalField "expires_in" (orNull uint64)] d
  return {
    token := ← required found "access_token" string
    lifetime := ← withDefault found "expires_in" (orNull uint64) none }

def tokenRefusalDecoder : Decoder (String × String) := fun d => do
  let found ← record "TokenErrorResponse"
    [field "error" string, optionalField "error_description" (orNull string)] d
  return (← required found "error" string,
    (← withDefault found "error_description" (orNull string) none).getD "")

def tokenRefusal (operation : String) (status : UInt16) (body : String) : Failure :=
  match Decoder.ofText tokenRefusalDecoder body with
  | .ok (code, message) => .refusal operation status (some code) message
  | .error _ => .refusal operation status none body

/-- How tokens are requested. -/
structure Identity where
  credential : Credential
  /-- How long to wait for the authority. -/
  timeout : Option Duration

namespace Identity

open ScanProvisioning.Azure.Action

/-- Lifetime of a token that does not say. -/
def defaultLifetime : UInt64 := 3600

def assertionType : String := "urn:ietf:params:oauth:client-assertion-type:jwt-bearer"

def application (operation : String) (scope : Scope) :
    Credential → Action (String × List (String × String))
  | .issued _ => return ("", [])
  | .secret tenant client secret =>
    return (tenant, [
      ("grant_type", "client_credentials"), ("client_id", client), ("client_secret", secret),
      ("scope", scope.address)])
  | .federated tenant client file => do
    match ← ask (.readFile file) with
    | .error reason =>
      throw (.unreadable operation ("failed to read federated token " ++ file ++ ": " ++ reason))
    | .ok assertion =>
      return (tenant, [
        ("grant_type", "client_credentials"), ("client_id", client),
        ("client_assertion_type", assertionType), ("client_assertion", Text.trim assertion),
        ("scope", scope.address)])

def fetch (i : Identity) (scope : Scope) : Action CachedToken := do
  let operation := "acquiring " ++ scope.name ++ " token"
  let (tenant, form) ← application operation scope i.credential
  let address := "https://login.microsoftonline.com/" ++ tenant ++ "/oauth2/v2.0/token"
  let response ← exchange operation (Http.Draft.form form (Http.Request.draft .post address i.timeout))
  match response.text with
  | .error f => throw (.unreachable operation f.message f.timedOut)
  | .ok body =>
    if !response.isSuccess then throw (tokenRefusal operation response.status body)
    match Decoder.ofText IssuedToken.decoder body with
    | .error r => throw (.unreadable operation r.message)
    | .ok issued =>
      match Instant.after? (← ask .clock) (.ofSeconds (issued.lifetime.getD defaultLifetime)) with
      | none => (← ask .overflow).elim
      | some expiresAt => return { token := issued.token, expiresAt }

def renew (i : Identity) (scope : Scope) : Action String := do
  let fetched ← i.fetch scope
  ask (.keepToken scope fetched)
  return fetched.token

def token (i : Identity) (scope : Scope) : Action String := do
  match i.credential with
  | .issued token => return token
  | _ =>
    match ← ask (.tokenFor scope) with
    | none => i.renew scope
    | some cached =>
      if cached.isFresh (← ask .clock) then return cached.token else i.renew scope

end Identity

end ScanProvisioning.Azure
