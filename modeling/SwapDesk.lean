import SwapDesk.Abi.Decode
import SwapDesk.Abi.Encode
import SwapDesk.Chain.Basic
import SwapDesk.Chain.BatchRead
import SwapDesk.Chain.Registry
import SwapDesk.Chain.Setup
import SwapDesk.CommandLine.Arguments
import SwapDesk.CommandLine.Run
import SwapDesk.Crypto.Keccak
import SwapDesk.Crypto.Signer
import SwapDesk.Document.Place
import SwapDesk.Document.Value
import SwapDesk.Domain.Composition
import SwapDesk.Domain.Direction
import SwapDesk.Domain.Joiners
import SwapDesk.Domain.Mapping
import SwapDesk.Domain.Name
import SwapDesk.Domain.Punycode
import SwapDesk.Endpoint.Answer
import SwapDesk.Endpoint.Client
import SwapDesk.Endpoint.Exchange
import SwapDesk.Endpoint.Fees
import SwapDesk.Endpoint.Host
import SwapDesk.Endpoint.Submission
import SwapDesk.Endpoint.Url
import SwapDesk.Failure
import SwapDesk.Files.DataPath
import SwapDesk.Files.Path
import SwapDesk.Files.Tree
import SwapDesk.Json.Access
import SwapDesk.Json.Binary64
import SwapDesk.Json.Printer
import SwapDesk.Json.Reader
import SwapDesk.Json.Record
import SwapDesk.Json.Value
import SwapDesk.Main
import SwapDesk.Platform
import SwapDesk.Pool.Basic
import SwapDesk.Pool.Source
import SwapDesk.Route.Discovery
import SwapDesk.Route.Printer
import SwapDesk.Route.Quote
import SwapDesk.Route.Router
import SwapDesk.Route.Slippage
import SwapDesk.Route.SwapCall
import SwapDesk.Send.AuditStore
import SwapDesk.Send.AuditTable
import SwapDesk.Send.Batch
import SwapDesk.Send.Confirmation
import SwapDesk.Send.Executor
import SwapDesk.Send.Printer
import SwapDesk.Send.StoreLocation
import SwapDesk.Send.StoreShelf
import SwapDesk.Settings.Basic
import SwapDesk.Settings.ChainList
import SwapDesk.Settings.Environment
import SwapDesk.Settings.Load
import SwapDesk.Settings.LogFilter
import SwapDesk.Settings.Paths
import SwapDesk.Settings.PerChain
import SwapDesk.Settings.Printer
import SwapDesk.Settings.ValueRules
import SwapDesk.Settings.Wallet
import SwapDesk.Table
import SwapDesk.Text.Blank
import SwapDesk.Text.Decimal
import SwapDesk.Text.Hex
import SwapDesk.Text.Percent
import SwapDesk.Text.Split
import SwapDesk.Token.Basic
import SwapDesk.Token.ListFile
import SwapDesk.Token.Registry
import SwapDesk.Toml.Moment
import SwapDesk.Toml.Printer
import SwapDesk.Toml.Reader
import SwapDesk.Toml.Scalar
import SwapDesk.Toml.Table
import SwapDesk.Toml.Text
import SwapDesk.Unicode.Lowercase
import SwapDesk.Unicode.Table
import SwapDesk.Word
import SwapDesk.Proofs.Checked
import SwapDesk.Proofs.Route.Pricing
import SwapDesk.Proofs.Route.Ranking
import SwapDesk.Proofs.Route.Reading
import SwapDesk.Proofs.Route.Optimality
import SwapDesk.Proofs.Abi.ReadBack
import SwapDesk.Proofs.Route.CallData
import SwapDesk.Proofs.Route.FixedSide
import SwapDesk.Proofs.Route.Candidates
import SwapDesk.Proofs.Route.SlippageBound
import SwapDesk.Proofs.Route.SlippageRange
import SwapDesk.Proofs.Sample
import SwapDesk.Proofs.Send.Course
import SwapDesk.Proofs.Send.Recording
import SwapDesk.Proofs.Send.Agreement
import SwapDesk.Proofs.Route.Planning
import SwapDesk.Proofs.Route.Relisting
import SwapDesk.Proofs.Route.PerPlatform
import SwapDesk.Proofs.Abi.Parts
import SwapDesk.Proofs.Chain.BatchCall
import SwapDesk.Proofs.Chain.BatchReply
import SwapDesk.Proofs.Route.QuoteBatch
import SwapDesk.Proofs.Route.Traffic
import SwapDesk.Proofs.Route.Provenance
import SwapDesk.Proofs.Json.Members
import SwapDesk.Proofs.Json.Tokens
import SwapDesk.Proofs.Json.ReadBack
import SwapDesk.Proofs.Route.SwapRecord
import SwapDesk.Proofs.Send.History
import SwapDesk.Proofs.Send.Steps
import SwapDesk.Proofs.Send.Lifecycle
import SwapDesk.Proofs.Send.Correlation
import SwapDesk.Proofs.Send.Retrying
import SwapDesk.Proofs.Route.Failing
import SwapDesk.Proofs.Send.Teardown
import SwapDesk.Proofs.Send.FruitlessPolls
import SwapDesk.Proofs.Send.Schedule
import SwapDesk.Proofs.Send.Queries
import SwapDesk.Proofs.Send.Contexts
import SwapDesk.Proofs.Route.SelfPairs
import SwapDesk.Proofs.Send.Bundling
import SwapDesk.Proofs.Endpoint.Requests
import SwapDesk.Proofs.Chain.Lifetimes
import SwapDesk.Proofs.Send.Nonces
import SwapDesk.Proofs.Text.Trimming
import SwapDesk.Proofs.Text.LetterCase
import SwapDesk.Proofs.Text.Words
import SwapDesk.Proofs.Token.Listings
import SwapDesk.Proofs.Token.Symbols
import SwapDesk.Proofs.Latest
import SwapDesk.Proofs.Token.AddressOrder
import SwapDesk.Proofs.Token.Cutting
import SwapDesk.Proofs.Token.Conversion
import SwapDesk.Proofs.Token.Formatting
import SwapDesk.Proofs.Token.Malformed
import SwapDesk.Proofs.CommandLine.Sessions
import SwapDesk.Proofs.CommandLine.Commitment
import SwapDesk.Proofs.Settings.BlankKeys
import SwapDesk.Proofs.Settings.ChainLists
import SwapDesk.Proofs.Settings.OverrideOrder
