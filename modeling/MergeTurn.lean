import MergeTurn.Booking
import MergeTurn.Bus
import MergeTurn.Bus.Exchange
import MergeTurn.Client
import MergeTurn.Desk
import MergeTurn.Digest.Hmac
import MergeTurn.Digest.Sha256
import MergeTurn.Event
import MergeTurn.Event.Topic
import MergeTurn.Feed
import MergeTurn.File.Cell
import MergeTurn.File.Disk
import MergeTurn.File.Path
import MergeTurn.Http.MediaType
import MergeTurn.Http.Message
import MergeTurn.Http.Route
import MergeTurn.Http.Server
import MergeTurn.Http.Stream
import MergeTurn.Json.Basic
import MergeTurn.Json.Decode
import MergeTurn.Json.Printer
import MergeTurn.Json.Reader
import MergeTurn.Log
import MergeTurn.Names
import MergeTurn.Net.SocketAddress
import MergeTurn.Proofs.Desk.Crash
import MergeTurn.Proofs.Desk.Halfway
import MergeTurn.Proofs.Desk.InStep
import MergeTurn.Proofs.Desk.Independence
import MergeTurn.Proofs.Desk.Places
import MergeTurn.Proofs.Desk.Replay
import MergeTurn.Proofs.Desk.Roll
import MergeTurn.Proofs.Desk.Steps
import MergeTurn.Proofs.Desk.Stranded
import MergeTurn.Proofs.Desk.Whole
import MergeTurn.Proofs.Event.Patterns
import MergeTurn.Proofs.Feed
import MergeTurn.Proofs.File.Disk
import MergeTurn.Proofs.File.Names
import MergeTurn.Proofs.Http.Convergence
import MergeTurn.Proofs.Http.Deliveries
import MergeTurn.Proofs.Http.Streams
import MergeTurn.Proofs.Json.Grammar
import MergeTurn.Proofs.Json.Layouts
import MergeTurn.Proofs.Json.Numbers
import MergeTurn.Proofs.Json.Records
import MergeTurn.Proofs.Json.Revisions
import MergeTurn.Proofs.Json.Strings
import MergeTurn.Proofs.Json.Tagged
import MergeTurn.Proofs.Registry
import MergeTurn.Proofs.Service.Abreast
import MergeTurn.Proofs.Service.Accounts
import MergeTurn.Proofs.Service.Beats
import MergeTurn.Proofs.Service.Cascade
import MergeTurn.Proofs.Service.Clock
import MergeTurn.Proofs.Service.Closing
import MergeTurn.Proofs.Service.Docket
import MergeTurn.Proofs.Service.HeadChecks
import MergeTurn.Proofs.Service.HeadNotices
import MergeTurn.Proofs.Service.Herald
import MergeTurn.Proofs.Service.LastWord
import MergeTurn.Proofs.Service.LateNotices
import MergeTurn.Proofs.Service.Lockstep
import MergeTurn.Proofs.Service.Messenger
import MergeTurn.Proofs.Service.Pages
import MergeTurn.Proofs.Service.Parts
import MergeTurn.Proofs.Service.Redelivery
import MergeTurn.Proofs.Service.Repairs
import MergeTurn.Proofs.Service.Requests
import MergeTurn.Proofs.Service.Restart
import MergeTurn.Proofs.Service.Rounds
import MergeTurn.Proofs.Service.Runs
import MergeTurn.Proofs.Service.Scene
import MergeTurn.Proofs.Service.Schedules
import MergeTurn.Proofs.Service.Separation
import MergeTurn.Proofs.Service.SharedCommits
import MergeTurn.Proofs.Service.Shares
import MergeTurn.Proofs.Service.Showings
import MergeTurn.Proofs.Service.Tally
import MergeTurn.Proofs.Service.Transcript
import MergeTurn.Proofs.Service.Turns
import MergeTurn.Proofs.Service.Upshots
import MergeTurn.Proofs.Service.Verdicts
import MergeTurn.Proofs.Service.Writes
import MergeTurn.Proofs.Settings
import MergeTurn.Proofs.StatusApi.Attempts
import MergeTurn.Proofs.Store.Atomic
import MergeTurn.Proofs.Store.Books
import MergeTurn.Proofs.Store.Drift
import MergeTurn.Proofs.Store.Keys
import MergeTurn.Proofs.Store.Reload
import MergeTurn.Proofs.Store.Residue
import MergeTurn.Proofs.Text.Digits
import MergeTurn.Proofs.Text.Hex
import MergeTurn.Proofs.Time.Calendar
import MergeTurn.Proofs.Time.RoundTrip
import MergeTurn.Proofs.Webhook.Payloads
import MergeTurn.Proofs.Webhook.Revisions
import MergeTurn.Proofs.Webhook.Signatures
import MergeTurn.Proofs.Wire.Event
import MergeTurn.Proofs.Wire.Named
import MergeTurn.Proofs.Wire.Registry
import MergeTurn.Proofs.Wire.Snapshot
import MergeTurn.Registry
import MergeTurn.Service.Basic
import MergeTurn.Service.Calls
import MergeTurn.Service.Labels
import MergeTurn.Service.Notices
import MergeTurn.Service.Tasks
import MergeTurn.Service.Watch
import MergeTurn.Settings
import MergeTurn.Status
import MergeTurn.StatusApi.Backoff
import MergeTurn.StatusApi.Error
import MergeTurn.StatusApi.Poster
import MergeTurn.Store.Basic
import MergeTurn.Store.Faulty
import MergeTurn.Store.Form
import MergeTurn.Store.Memory
import MergeTurn.Store.Shelves
import MergeTurn.Store.Snapshot
import MergeTurn.Text.Blank
import MergeTurn.Text.Decimal
import MergeTurn.Text.Double
import MergeTurn.Text.Fold
import MergeTurn.Text.Hex
import MergeTurn.Text.Printable
import MergeTurn.Text.Quoted
import MergeTurn.Text.Scientific
import MergeTurn.Text.Search
import MergeTurn.Time.Calendar
import MergeTurn.Time.Rounded
import MergeTurn.Time.Span
import MergeTurn.Time.Timestamp
import MergeTurn.Webhook.Endpoint
import MergeTurn.Webhook.Payload
import MergeTurn.Webhook.Signature
import MergeTurn.Wire.Basic
import MergeTurn.Wire.Event
import MergeTurn.Proofs.StatusApi.Postings
import MergeTurn.Proofs.StatusApi.ServerFaults
import MergeTurn.Proofs.Bus.History
import MergeTurn.Proofs.Bus.Moves
import MergeTurn.Proofs.Bus.ExactlyOnce
