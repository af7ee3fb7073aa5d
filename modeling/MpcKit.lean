import MpcKit.Async.Program
import MpcKit.Async.Protocol
import MpcKit.Async.Machine
import MpcKit.Async.Alone
import MpcKit.Async.Table
import MpcKit.Backend.Basics
import MpcKit.Billing.Ledger
import MpcKit.Billing.Store
import MpcKit.Billing.Service
import MpcKit.Billing.Contract
import MpcKit.Billing.Isolation
import MpcKit.Billing.Refinement
import MpcKit.Billing.Properties
import MpcKit.Billing.Atomic
import MpcKit.Billing.Payments
import MpcKit.Billing.Deposits
import MpcKit.Billing.Redeclared
import MpcKit.Billing.Recipients
import MpcKit.Sign.World
import MpcKit.Sign.Presigns
import MpcKit.Sign.Service
import MpcKit.Sign.Effects
import MpcKit.Sign.Exclusivity
import MpcKit.Sign.Stages
import MpcKit.Sign.Walks
import MpcKit.Sign.Discovery
import MpcKit.Sign.Lifecycle
import MpcKit.Sign.Caps
import MpcKit.Sign.Books
import MpcKit.Sign.Agreement
import MpcKit.Sign.Fleet
import MpcKit.Sign.Prices
import MpcKit.Sign.Settlement
import MpcKit.Sign.Owners
import MpcKit.Sign.Idempotency
import MpcKit.Sign.Replies
import MpcKit.Auth.Keys
import MpcKit.Auth.Confinement
import MpcKit.Auth.Siws
import MpcKit.Auth.SingleUse
import MpcKit.Auth.Messages
import MpcKit.Executor.Pipeline
import MpcKit.Executor.Lock
import MpcKit.Executor.Phases
import MpcKit.Wallets.World
import MpcKit.Wallets.Service
import MpcKit.Wallets.Stages
import MpcKit.Wallets.Accepting
import MpcKit.Wallets.Books
import MpcKit.Wallets.Paid
import MpcKit.Pricing.PriceFeed
import MpcKit.Pricing.Freshness
import MpcKit.Sdk.Url
import MpcKit.Sdk.Requests
import MpcKit.Sdk.Engine
import MpcKit.Sdk.Worker
import MpcKit.Sdk.Rpc
import MpcKit.Encoding.Bytes
import MpcKit.Core.Basics
import MpcKit.Core.Challenges
import MpcKit.Core.Assertion
import MpcKit.Core.ClientData
import MpcKit.Core.Auth
import MpcKit.Core.Coordinator
import MpcKit.Core.Account
import MpcKit.Core.Entries
import MpcKit.Core.Operations
import MpcKit.Transact.Runs
import MpcKit.Core.Treasury
import MpcKit.Core.Chain
import MpcKit.Core.Replay
import MpcKit.Core.Rosters
import MpcKit.Core.Conservation
import MpcKit.Core.Custody
import MpcKit.Transact.Loop
import MpcKit.Core.Vectors
import MpcKit.Core.Substring
import MpcKit.Core.Base64
import MpcKit.Sdk.Hex
import MpcKit.Async.Lru
import MpcKit.Parameters.Service
import MpcKit.Parameters.Coherence
import MpcKit.Executor.Queue
import MpcKit.Pricing.Credits
import MpcKit.Pricing.Configured
import MpcKit.Billing.Sweep
import MpcKit.Billing.Floor
import MpcKit.Billing.Coins
import MpcKit.Billing.Drained
import MpcKit.Async.Beside
import MpcKit.Async.Evidence
import MpcKit.Sign.Sources
import MpcKit.Wallets.Sources
import MpcKit.Services.World
import MpcKit.Services.Growth
import MpcKit.Services.Facts
import MpcKit.Services.Accounts
import MpcKit.Services.Requests
import MpcKit.Billing.Tenants
import MpcKit.Services.Presigns
import MpcKit.Services.Tenants
import MpcKit.Billing.Wrapped
import MpcKit.Billing.Nets
import MpcKit.Sign.Signatures
import MpcKit.Services.Signatures
import MpcKit.Encoding.Codec
import MpcKit.Pricing.Quote
import MpcKit.Executor.MoveCalls
import MpcKit.Sign.OnChain
import MpcKit.Sign.Responses
import MpcKit.Services.Responses
