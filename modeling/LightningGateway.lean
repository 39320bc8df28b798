import LightningGateway.Amount
import LightningGateway.Binary64
import LightningGateway.Binary64.Decimal
import LightningGateway.Binary64.Numeral
import LightningGateway.Bound
import LightningGateway.Braid
import LightningGateway.Cache
import LightningGateway.Chain
import LightningGateway.Channel
import LightningGateway.Classification
import LightningGateway.CommandLine.Arguments
import LightningGateway.CommandLine.Commands
import LightningGateway.CommandLine.Failure
import LightningGateway.CommandLine.Job
import LightningGateway.CommandLine.Usage
import LightningGateway.Config.Environment
import LightningGateway.Config.Error
import LightningGateway.Config.File
import LightningGateway.Config.Sections
import LightningGateway.Config.Validation
import LightningGateway.Connection
import LightningGateway.Daemon.Answers
import LightningGateway.Daemon.Bookkeeping
import LightningGateway.Daemon.Forwards
import LightningGateway.Daemon.Funds
import LightningGateway.Daemon.Information
import LightningGateway.Daemon.Invoices
import LightningGateway.Daemon.Payments
import LightningGateway.Daemon.Timestamp
import LightningGateway.Dialogue
import LightningGateway.Endpoint
import LightningGateway.Event
import LightningGateway.Exchange
import LightningGateway.Failure
import LightningGateway.FileSystem
import LightningGateway.Gateway.Channels
import LightningGateway.Gateway.Lifecycle
import LightningGateway.Gateway.Listings
import LightningGateway.Gateway.Payments
import LightningGateway.Gateway.Request
import LightningGateway.Gateway.Session
import LightningGateway.Gateway.Subscriptions
import LightningGateway.Gateway.Wallet
import LightningGateway.Implementation
import LightningGateway.Invoice
import LightningGateway.Json
import LightningGateway.Json.Codec
import LightningGateway.Json.DecodeError
import LightningGateway.Json.Document
import LightningGateway.Json.Reader
import LightningGateway.Json.Record
import LightningGateway.Json.Writer
import LightningGateway.Label
import LightningGateway.Listing
import LightningGateway.Logging
import LightningGateway.Main
import LightningGateway.NodeInfo
import LightningGateway.Operation
import LightningGateway.Payment
import LightningGateway.Proofs.Amounts
import LightningGateway.Proofs.Attempts
import LightningGateway.Proofs.Balances
import LightningGateway.Proofs.Bookkeeping
import LightningGateway.Proofs.Braids
import LightningGateway.Proofs.Cache
import LightningGateway.Proofs.Callers
import LightningGateway.Proofs.Changes
import LightningGateway.Proofs.Codecs
import LightningGateway.Proofs.Confirmations
import LightningGateway.Proofs.Courses
import LightningGateway.Proofs.Dating
import LightningGateway.Proofs.Decodings
import LightningGateway.Proofs.Dialogue
import LightningGateway.Proofs.Disconnected
import LightningGateway.Proofs.Fees
import LightningGateway.Proofs.Forwarding
import LightningGateway.Proofs.Heights
import LightningGateway.Proofs.Issued
import LightningGateway.Proofs.Labels
import LightningGateway.Proofs.Layers
import LightningGateway.Proofs.Listings
import LightningGateway.Proofs.Lookups
import LightningGateway.Proofs.Movements
import LightningGateway.Proofs.Notation
import LightningGateway.Proofs.Numerals
import LightningGateway.Proofs.Objects
import LightningGateway.Proofs.Offered
import LightningGateway.Proofs.Outcome
import LightningGateway.Proofs.Overflows
import LightningGateway.Proofs.Overrides
import LightningGateway.Proofs.Pages
import LightningGateway.Proofs.Pieces
import LightningGateway.Proofs.Plans
import LightningGateway.Proofs.Polls
import LightningGateway.Proofs.Printing
import LightningGateway.Proofs.Published
import LightningGateway.Proofs.Quotations
import LightningGateway.Proofs.Readiness
import LightningGateway.Proofs.Reading
import LightningGateway.Proofs.Recalling
import LightningGateway.Proofs.Recency
import LightningGateway.Proofs.Recognition
import LightningGateway.Proofs.Records
import LightningGateway.Proofs.Refusals
import LightningGateway.Proofs.Relays
import LightningGateway.Proofs.Restarts
import LightningGateway.Proofs.Resuming
import LightningGateway.Proofs.Retries
import LightningGateway.Proofs.Revenue
import LightningGateway.Proofs.Rewriting
import LightningGateway.Proofs.Saving
import LightningGateway.Proofs.Scanning
import LightningGateway.Proofs.Settings
import LightningGateway.Proofs.Settlements
import LightningGateway.Proofs.Shapes
import LightningGateway.Proofs.Sorting
import LightningGateway.Proofs.Spellings
import LightningGateway.Proofs.Summaries
import LightningGateway.Proofs.Sums
import LightningGateway.Proofs.Tables
import LightningGateway.Proofs.Texts
import LightningGateway.Proofs.Timeline
import LightningGateway.Proofs.Transports
import LightningGateway.Proofs.Turns
import LightningGateway.Proofs.Waits
import LightningGateway.Proofs.Watching
import LightningGateway.Proofs.Watermarks
import LightningGateway.Proofs.Withdrawals
import LightningGateway.Subscription
import LightningGateway.Text.Blank
import LightningGateway.Text.Hidden
import LightningGateway.Text.Numeral
import LightningGateway.Text.Quoted
import LightningGateway.Text.Search
import LightningGateway.Text.Utf8
import LightningGateway.Toml.Quotation
import LightningGateway.Toml.Reader
import LightningGateway.Toml.Scalar
import LightningGateway.Toml.Table
import LightningGateway.Toml.Value
import LightningGateway.Toml.Writer
import LightningGateway.Transaction
import LightningGateway.Transport.Certificate
import LightningGateway.Transport.Client
import LightningGateway.Transport.Credentials
import LightningGateway.Transport.Envelope
import LightningGateway.Transport.Errand
import LightningGateway.Transport.Error
import LightningGateway.Transport.Http
import LightningGateway.Transport.Socket
import LightningGateway.Transport.Status
import LightningGateway.Wallet
import LightningGateway.Word
