import ClusterClient.Backoff
import ClusterClient.Cache
import ClusterClient.Command.Basic
import ClusterClient.Command.Custom
import ClusterClient.Command.Documents
import ClusterClient.Command.Service
import ClusterClient.Conventions
import ClusterClient.Duration
import ClusterClient.Executor.Basic
import ClusterClient.Executor.Call
import ClusterClient.Executor.Description
import ClusterClient.Executor.Error
import ClusterClient.Executor.Exchange
import ClusterClient.Executor.Execute
import ClusterClient.Executor.Pool
import ClusterClient.Executor.SpeedTest
import ClusterClient.Executor.System
import ClusterClient.Executor.Timers
import ClusterClient.Executor.Update
import ClusterClient.Http.Message
import ClusterClient.Http.Status
import ClusterClient.Json.Double
import ClusterClient.Json.Record
import ClusterClient.Json.Tree
import ClusterClient.Json.Value
import ClusterClient.Proofs.Association
import ClusterClient.Proofs.Cache.Lookup
import ClusterClient.Proofs.Cache.Operations
import ClusterClient.Proofs.Cache.Recency
import ClusterClient.Proofs.Command.Databases
import ClusterClient.Proofs.Command.Parameters
import ClusterClient.Proofs.Executor.Asides
import ClusterClient.Proofs.Executor.Attempts
import ClusterClient.Proofs.Executor.Calls
import ClusterClient.Proofs.Executor.Conditions
import ClusterClient.Proofs.Executor.Contacts
import ClusterClient.Proofs.Executor.Destinations
import ClusterClient.Proofs.Executor.Errors
import ClusterClient.Proofs.Executor.Exchanges
import ClusterClient.Proofs.Executor.Exhausted
import ClusterClient.Proofs.Executor.Finishes
import ClusterClient.Proofs.Executor.Mail
import ClusterClient.Proofs.Executor.Outcomes
import ClusterClient.Proofs.Executor.Overflows
import ClusterClient.Proofs.Executor.Refreshes
import ClusterClient.Proofs.Executor.Reports
import ClusterClient.Proofs.Executor.Retry
import ClusterClient.Proofs.Executor.Servers
import ClusterClient.Proofs.Executor.Solo
import ClusterClient.Proofs.Executor.Standing
import ClusterClient.Proofs.Executor.Stores
import ClusterClient.Proofs.Executor.Sweeps
import ClusterClient.Proofs.Executor.Tellings
import ClusterClient.Proofs.Executor.Tenure
import ClusterClient.Proofs.Executor.Timers
import ClusterClient.Proofs.Executor.Transparency
import ClusterClient.Proofs.Executor.Turns
import ClusterClient.Proofs.Executor.Twins
import ClusterClient.Proofs.Executor.Unavailable
import ClusterClient.Proofs.Executor.Upkeep
import ClusterClient.Proofs.Executor.Verdicts
import ClusterClient.Proofs.Executor.Wishes
import ClusterClient.Proofs.Selector.ByNode
import ClusterClient.Proofs.Selector.Marks
import ClusterClient.Proofs.Selector.Plans
import ClusterClient.Proofs.Selector.RoundRobin
import ClusterClient.Proofs.Selector.Runs
import ClusterClient.Proofs.Selector.SpeedTests
import ClusterClient.Proofs.Store.Ownership
import ClusterClient.Proofs.Store.Urls
import ClusterClient.Proofs.System.Accounts
import ClusterClient.Proofs.System.Announcements
import ClusterClient.Proofs.System.Background
import ClusterClient.Proofs.System.Caching
import ClusterClient.Proofs.System.Coalescing
import ClusterClient.Proofs.System.Completions
import ClusterClient.Proofs.System.Configurations
import ClusterClient.Proofs.System.Confirmations
import ClusterClient.Proofs.System.Deadlines
import ClusterClient.Proofs.System.Deeds
import ClusterClient.Proofs.System.Destinations
import ClusterClient.Proofs.System.Disposal
import ClusterClient.Proofs.System.Exhaustion
import ClusterClient.Proofs.System.Fetched
import ClusterClient.Proofs.System.Freshness
import ClusterClient.Proofs.System.Health
import ClusterClient.Proofs.System.Histories
import ClusterClient.Proofs.System.HoldingBack
import ClusterClient.Proofs.System.Journeys
import ClusterClient.Proofs.System.LastSweeps
import ClusterClient.Proofs.System.Locks
import ClusterClient.Proofs.System.Pending
import ClusterClient.Proofs.System.Restraint
import ClusterClient.Proofs.System.Seeds
import ClusterClient.Proofs.System.Sharing
import ClusterClient.Proofs.System.Sparing
import ClusterClient.Proofs.System.Steps
import ClusterClient.Proofs.System.Tickets
import ClusterClient.Proofs.System.Upkeep
import ClusterClient.Proofs.Text.Lenient
import ClusterClient.Proofs.Text.Octets
import ClusterClient.Proofs.Text.Order
import ClusterClient.Proofs.Topology.Database
import ClusterClient.Proofs.Topology.Endpoints
import ClusterClient.Proofs.Topology.Firsts
import ClusterClient.Proofs.Topology.Members
import ClusterClient.Proofs.Topology.Ranking
import ClusterClient.Proofs.Url.Addresses
import ClusterClient.Proofs.Url.Form
import ClusterClient.Proofs.Url.Host
import ClusterClient.Proofs.Url.Join
import ClusterClient.Proofs.Url.Normal
import ClusterClient.Proofs.Url.Path
import ClusterClient.Proofs.Url.Percent
import ClusterClient.Proofs.Url.Splits
import ClusterClient.Proofs.Url.Trails
import ClusterClient.ReadBalance
import ClusterClient.Selector
import ClusterClient.Simulation.Network
import ClusterClient.Simulation.Operations
import ClusterClient.Simulation.World
import ClusterClient.Store.Basic
import ClusterClient.Store.System
import ClusterClient.Store.Urls
import ClusterClient.Text.Ascii
import ClusterClient.Text.Bytes
import ClusterClient.Text.CombiningClass
import ClusterClient.Text.Composition
import ClusterClient.Text.Direction
import ClusterClient.Text.Hex
import ClusterClient.Text.Joining
import ClusterClient.Text.Marks
import ClusterClient.Text.Printable
import ClusterClient.Text.Quoted
import ClusterClient.Text.Runs
import ClusterClient.Text.Uuid
import ClusterClient.Topology.Basic
import ClusterClient.Topology.Cluster
import ClusterClient.Topology.Database
import ClusterClient.Topology.Node
import ClusterClient.Url.Basic
import ClusterClient.Url.Form
import ClusterClient.Url.Host
import ClusterClient.Url.Label
import ClusterClient.Url.LabelCharacters
import ClusterClient.Url.Origin
import ClusterClient.Url.Parser
import ClusterClient.Url.Path
import ClusterClient.Url.Percent
import ClusterClient.Url.Punycode
import ClusterClient.Proofs.Backoff
import ClusterClient.Proofs.Overflows
