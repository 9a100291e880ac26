import ScanProvisioning.Agent
import ScanProvisioning.Asset
import ScanProvisioning.Asset.Codec
import ScanProvisioning.Azure.Account
import ScanProvisioning.Azure.Body
import ScanProvisioning.Azure.BootScript
import ScanProvisioning.Azure.Clients
import ScanProvisioning.Azure.Host
import ScanProvisioning.Azure.Identity
import ScanProvisioning.Azure.Management
import ScanProvisioning.Azure.StorageRefusal
import ScanProvisioning.Binary64
import ScanProvisioning.Binary64.Shortest
import ScanProvisioning.Client
import ScanProvisioning.CommandLine
import ScanProvisioning.CopyProgress
import ScanProvisioning.Docker.Body
import ScanProvisioning.Docker.Clients
import ScanProvisioning.Docker.Config
import ScanProvisioning.Docker.Engine
import ScanProvisioning.Docker.Host
import ScanProvisioning.Drive
import ScanProvisioning.Duration
import ScanProvisioning.Failure
import ScanProvisioning.Http.Host
import ScanProvisioning.Http.Message
import ScanProvisioning.Http.Transcript
import ScanProvisioning.Http.Url
import ScanProvisioning.Instant
import ScanProvisioning.Job
import ScanProvisioning.Job.Codec
import ScanProvisioning.Json.Basic
import ScanProvisioning.Json.Decoder
import ScanProvisioning.Json.Document
import ScanProvisioning.Json.Fault
import ScanProvisioning.Json.Printed
import ScanProvisioning.Json.Token
import ScanProvisioning.Main
import ScanProvisioning.Names
import ScanProvisioning.Pass
import ScanProvisioning.Pass.Resource
import ScanProvisioning.Pass.Scan
import ScanProvisioning.Pass.StagedCopy
import ScanProvisioning.Program
import ScanProvisioning.Proofs.Guarded
import ScanProvisioning.Proofs.Trace
import ScanProvisioning.Provider
import ScanProvisioning.Registry
import ScanProvisioning.Rehearsal.AzureHost
import ScanProvisioning.Rehearsal.Cloud
import ScanProvisioning.Rehearsal.DockerHost
import ScanProvisioning.Rehearsal.Invocation
import ScanProvisioning.Rehearsal.Script
import ScanProvisioning.Rehearsal.Wire
import ScanProvisioning.Resource
import ScanProvisioning.ScanId
import ScanProvisioning.Settings
import ScanProvisioning.Text.Base64
import ScanProvisioning.Text.Blank
import ScanProvisioning.Text.Decimal
import ScanProvisioning.Text.Percent
import ScanProvisioning.Text.Printable
import ScanProvisioning.Text.Quoted
import ScanProvisioning.Text.RandomId
import ScanProvisioning.Timestamp
import ScanProvisioning.Timing
import ScanProvisioning.Venue
import ScanProvisioning.Xml
import ScanProvisioning.Proofs.Pass.Steps
import ScanProvisioning.Proofs.Pass.Dependency
import ScanProvisioning.Proofs.Rehearsal.Access
import ScanProvisioning.Proofs.Pass.Removal
import ScanProvisioning.Proofs.Azure.Missing
import ScanProvisioning.Proofs.Azure.Removal
import ScanProvisioning.Proofs.Docker.Filling
import ScanProvisioning.Proofs.Pass.Teardown
import ScanProvisioning.Proofs.Rehearsal.Runs
import ScanProvisioning.Proofs.Rehearsal.Stages
import ScanProvisioning.Proofs.Rehearsal.Staging
import ScanProvisioning.Proofs.Rehearsal.Dismantling
import ScanProvisioning.Proofs.Rehearsal.Convergence
import ScanProvisioning.Proofs.Rehearsal.Grants
import ScanProvisioning.Proofs.Rehearsal.Effects
import ScanProvisioning.Proofs.Rehearsal.Support
import ScanProvisioning.Proofs.Rehearsal.Isolation
import ScanProvisioning.Proofs.Pass.Reporting
import ScanProvisioning.Proofs.Drive.Timetable
import ScanProvisioning.Proofs.Names
import ScanProvisioning.Proofs.ScanId
import ScanProvisioning.Proofs.Docker.Component
import ScanProvisioning.Proofs.Docker.Steps
import ScanProvisioning.Proofs.Docker.Tasks
import ScanProvisioning.Proofs.Docker.Creation
import ScanProvisioning.Proofs.Docker.Chronicle
import ScanProvisioning.Proofs.Docker.Protocol
import ScanProvisioning.Proofs.Printed
import ScanProvisioning.Proofs.Docker.Inventory
import ScanProvisioning.Proofs.Docker.Upkeep
import ScanProvisioning.Proofs.Docker.Visits
import ScanProvisioning.Proofs.Docker.Passes
import ScanProvisioning.Proofs.Docker.Progress
import ScanProvisioning.Proofs.Docker.Clearance
import ScanProvisioning.Proofs.Docker.Stranding
import ScanProvisioning.Proofs.Azure.Requests
import ScanProvisioning.Proofs.Azure.Readiness
import ScanProvisioning.Proofs.Azure.StagedRemoval
import ScanProvisioning.Proofs.Weathering
import ScanProvisioning.Proofs.Azure.Weathering
import ScanProvisioning.Proofs.Http
import ScanProvisioning.Proofs.Docker.Weathering
import ScanProvisioning.Proofs.Resilience
import ScanProvisioning.Proofs.Drive.Itinerary
import ScanProvisioning.Proofs.Rehearsal.Pacing
import ScanProvisioning.Proofs.Drive.Allowance
import ScanProvisioning.Proofs.Drive.Undertaking
import ScanProvisioning.Proofs.Text.Base64
import ScanProvisioning.Proofs.Shell
import ScanProvisioning.Proofs.Azure.BootScript
import ScanProvisioning.Proofs.Together
import ScanProvisioning.Proofs.Azure.Listing
import ScanProvisioning.Proofs.Docker.Listing
import ScanProvisioning.Proofs.Discovery
import ScanProvisioning.Proofs.CopyProgress
import ScanProvisioning.Proofs.Azure.LongOperation
import ScanProvisioning.Proofs.Azure.Parents
import ScanProvisioning.Proofs.Azure.Waiting
import ScanProvisioning.Proofs.Pass.Discretion
import ScanProvisioning.Proofs.Http.Url
import ScanProvisioning.Proofs.Names.Limits
import ScanProvisioning.Proofs.Azure.Authority
import ScanProvisioning.Proofs.Azure.Tokens
import ScanProvisioning.Proofs.Azure.Expiry
import ScanProvisioning.Proofs.Azure.Circularity
import ScanProvisioning.Proofs.Json.Restated
import ScanProvisioning.Proofs.Json.Steady
import ScanProvisioning.Proofs.Json.Encoded
import ScanProvisioning.Proofs.Job.Codec
import ScanProvisioning.Proofs.Asset.Codec
import ScanProvisioning.Proofs.Codec
