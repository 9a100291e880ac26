import ScanProvisioning.Settings

namespace ScanProvisioning.Azure

/-- The image that scanner machines boot from. -/
structure BootImage where
  publisher : String
  offer : String
  sku : String
  version : String
  deriving DecidableEq

structure Config where
  subscription : String
  /-- Holds every resource of a scan. -/
  resourceGroup : String
  storageAccount : String
  storageContainer : String
  /-- The subnet of the scanners' network interfaces. -/
  subnet : String
  /-- The key that may log in to scanner machines. -/
  publicKey : String
  adminName : String
  image : BootImage
  deriving DecidableEq

namespace Config

def ofSettings (s : Settings) : Except SetupFault Config := do
  let required (name : String) : Except SetupFault String := s.required name (.required name)
  return {
    subscription := ← required "AZURE_SUBSCRIPTION_ID"
    resourceGroup := ← required "AZURE_SCANNER_RESOURCE_GROUP"
    storageAccount := ← required "AZURE_SCANNER_STORAGE_ACCOUNT"
    storageContainer := ← required "AZURE_SCANNER_STORAGE_CONTAINER"
    subnet := ← required "AZURE_SCANNER_SUBNET_ID"
    publicKey := ← required "AZURE_SCANNER_PUBLIC_KEY"
    adminName := (s "AZURE_SCANNER_ADMIN_USERNAME").getD "scanner"
    image := {
      publisher := (s "AZURE_SCANNER_IMAGE_PUBLISHER").getD "Canonical"
      offer := (s "AZURE_SCANNER_IMAGE_OFFER").getD "0001-com-ubuntu-server-jammy"
      sku := (s "AZURE_SCANNER_IMAGE_SKU").getD "22_04-lts-gen2"
      version := (s "AZURE_SCANNER_IMAGE_VERSION").getD "latest" } }

def resourceId (c : Config) (type name : String) : String :=
  "/subscriptions/" ++ c.subscription ++ "/resourceGroups/" ++ c.resourceGroup ++ "/providers/" ++ type ++
    "/" ++ name

def storageAccountId (c : Config) : String :=
  c.resourceId "Microsoft.Storage/storageAccounts" c.storageAccount

end Config

/-- How tokens are obtained. -/
inductive Credential
  /-- A token issued beforehand, good for every scope. -/
  | issued (token : String)
  | secret (tenant client secret : String)
  /-- A file holds the token of another issuer. -/
  | federated (tenant client file : String)
  deriving DecidableEq

namespace Credential

/-- A token issued beforehand wins over a secret, and a secret over a file. -/
def ofSettings (s : Settings) : Except SetupFault Credential :=
  match s "AZURE_ACCESS_TOKEN" with
  | some token => .ok (.issued token)
  | none => do
    let tenant ← s.required "AZURE_TENANT_ID" .noTenant
    let client ← s.required "AZURE_CLIENT_ID" .noClient
    match s "AZURE_CLIENT_SECRET" with
    | some password => return .secret tenant client password
    | none => return .federated tenant client (← s.required "AZURE_FEDERATED_TOKEN_FILE" .noProof)

/-- How a credential appears in messages; secrets stay out of them. -/
def shown : Credential → String
  | issued _ => "Static(<redacted>)"
  | secret _ client _ => "ClientSecret \x7b client_id: " ++ client ++ " \x7d"
  | federated _ client file =>
    "WorkloadIdentity \x7b client_id: " ++ client ++ ", token_file: " ++ file ++ " \x7d"

end Credential

/-- An account as its clients use it. -/
structure Account where
  config : Config
  credential : Credential
  deriving DecidableEq

def Account.ofSettings (s : Settings) : Except SetupFault Account := do
  return { config := ← Config.ofSettings s, credential := ← Credential.ofSettings s }

end ScanProvisioning.Azure
