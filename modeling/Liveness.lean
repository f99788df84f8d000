import Liveness.Address
import Liveness.Alert
import Liveness.Backoff
import Liveness.Base64
import Liveness.Bech32
import Liveness.Block
import Liveness.Chain.Basic
import Liveness.Chain.Scripted
import Liveness.CommandLine.Commands
import Liveness.CommandLine.Machine
import Liveness.Config.App
import Liveness.Config.Http
import Liveness.Config.Stream
import Liveness.Config.Tracker
import Liveness.Decimal.Binary
import Liveness.Decimal.Fixed
import Liveness.Decimal.Numeral
import Liveness.Decimal.Shortest
import Liveness.Disk
import Liveness.Engine
import Liveness.Failure
import Liveness.Following
import Liveness.History
import Liveness.Json.Document
import Liveness.Json.Number
import Liveness.Json.Printer
import Liveness.Json.Shape
import Liveness.Json.Token
import Liveness.Json.Value
import Liveness.Main
import Liveness.Mutation
import Liveness.Node.Basic
import Liveness.Node.Client
import Liveness.Node.Payload.Basic
import Liveness.Node.Payload.Block
import Liveness.Node.Payload.Transaction
import Liveness.Node.Payload.Validator
import Liveness.Node.Script
import Liveness.Node.Status
import Liveness.Node.Target
import Liveness.Node.TransportFailure
import Liveness.Proofs.Acts
import Liveness.Proofs.Backends
import Liveness.Proofs.Base64
import Liveness.Proofs.Bech32
import Liveness.Proofs.Bits
import Liveness.Proofs.Blocks
import Liveness.Proofs.Bootstrap
import Liveness.Proofs.Caseless
import Liveness.Proofs.Checksum
import Liveness.Proofs.Columns
import Liveness.Proofs.Commits
import Liveness.Proofs.Crossings
import Liveness.Proofs.Doubling
import Liveness.Proofs.Following
import Liveness.Proofs.Growth
import Liveness.Proofs.History
import Liveness.Proofs.Independence
import Liveness.Proofs.Jail
import Liveness.Proofs.Jailing
import Liveness.Proofs.JsonText
import Liveness.Proofs.Keys
import Liveness.Proofs.Logs
import Liveness.Proofs.Mutations
import Liveness.Proofs.Operators
import Liveness.Proofs.Pages
import Liveness.Proofs.Quiet
import Liveness.Proofs.Refreshes
import Liveness.Proofs.Reporting
import Liveness.Proofs.Restart
import Liveness.Proofs.Retention
import Liveness.Proofs.Retries
import Liveness.Proofs.Rows
import Liveness.Proofs.Scan
import Liveness.Proofs.Senders
import Liveness.Proofs.Sound
import Liveness.Proofs.Spellings
import Liveness.Proofs.Stalls
import Liveness.Proofs.Standing
import Liveness.Proofs.Streak
import Liveness.Proofs.Stream
import Liveness.Proofs.Table
import Liveness.Proofs.Telling
import Liveness.Proofs.Tiers
import Liveness.Proofs.Update
import Liveness.Proofs.Upkeep
import Liveness.Proofs.Waits
import Liveness.Proofs.Window
import Liveness.Registry
import Liveness.Report
import Liveness.Report.Pass
import Liveness.Schedule
import Liveness.Sha256
import Liveness.Store.Basic
import Liveness.Store.Columns
import Liveness.Store.Faulty
import Liveness.Store.Location
import Liveness.Store.Memory
import Liveness.Store.Opening
import Liveness.Store.ReadOnly
import Liveness.Store.Table
import Liveness.Stream.Endpoints
import Liveness.Stream.Supervisor
import Liveness.Stream.Watchdog
import Liveness.Subscription
import Liveness.Text.Case
import Liveness.Text.Mark
import Liveness.Text.Percent
import Liveness.Text.Shown
import Liveness.Text.Split
import Liveness.Text.Utf8
import Liveness.Transaction
import Liveness.Url.Basic
import Liveness.Url.Domain
import Liveness.Url.Domain.Composition
import Liveness.Url.Domain.Direction
import Liveness.Url.Domain.Image
import Liveness.Url.Domain.Image.Multiple
import Liveness.Url.Domain.Image.Shifted
import Liveness.Url.Domain.Image.Single
import Liveness.Url.Domain.Joining
import Liveness.Url.Host
import Liveness.Url.Ipv4
import Liveness.Url.Ipv6
import Liveness.Url.Punycode
import Liveness.Url.Reader
import Liveness.Validator
import Liveness.Webhook
import Liveness.Words
import Liveness.World
