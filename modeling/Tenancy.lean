import Tenancy.Text.Blank
import Tenancy.Text.Utf8
import Tenancy.Time.Rfc3339
import Tenancy.Time.Clock
import Tenancy.Table
import Tenancy.Progress.Stage
import Tenancy.Account.Key
import Tenancy.Account.Feature
import Tenancy.Text.Shortest
import Tenancy.Mismatch
import Tenancy.Json.Error
import Tenancy.Json.Text
import Tenancy.Json.Number
import Tenancy.Json.Skip
import Tenancy.Json.Value
import Tenancy.Json.Typed
import Tenancy.Csv.Record
import Tenancy.Error
import Tenancy.Account.Record
import Tenancy.Account.Json
import Tenancy.Progress.Schema
import Tenancy.Progress.Record
import Tenancy.Progress.Json
import Tenancy.Settings
import Tenancy.Progress.Report
import Tenancy.Progress.Event
import Tenancy.Request
import Tenancy.Schedule
import Tenancy.Resolver.Coalescer
import Tenancy.Url.Percent
import Tenancy.Url.Address
import Tenancy.Url.Punycode
import Tenancy.Account.Name
import Tenancy.Resolver.Basic
import Tenancy.Progress.Tracker
import Tenancy.Progress.Desk
import Tenancy.Storage.Memory
import Tenancy.Service
import Tenancy.Storage.Session
import Tenancy.CommandLine.Program
import Tenancy.Main
import Tenancy.Proofs.History
import Tenancy.Proofs.Table
import Tenancy.Proofs.Locks
import Tenancy.Proofs.Updates
import Tenancy.Proofs.Index
import Tenancy.Proofs.Cache
import Tenancy.Proofs.Tenants
import Tenancy.Proofs.Transactions
import Tenancy.Proofs.Utf8
import Tenancy.Proofs.Documents
import Tenancy.Proofs.Calendar
import Tenancy.Proofs.Instants
import Tenancy.Proofs.Rfc3339
import Tenancy.Proofs.Rows
import Tenancy.Proofs.Columns
import Tenancy.Proofs.Isolation
import Tenancy.Proofs.Undisturbed
import Tenancy.Proofs.Faithful
import Tenancy.Proofs.Sheets
import Tenancy.Proofs.Agreement
import Tenancy.Proofs.Revisions
import Tenancy.Proofs.Chronicle
import Tenancy.Proofs.Flights
import Tenancy.Proofs.Leaders
import Tenancy.Proofs.SharedLoads
import Tenancy.Proofs.Requests
import Tenancy.Proofs.Misses
import Tenancy.Proofs.Provenance
import Tenancy.Proofs.Invalidation
import Tenancy.Proofs.Evictions
import Tenancy.Proofs.Capacity
import Tenancy.Proofs.Counters
import Tenancy.Proofs.Visits
import Tenancy.Proofs.Recording
import Tenancy.Proofs.Redelivery
import Tenancy.Proofs.Reports
import Tenancy.Proofs.Records
import Tenancy.Proofs.Accounts
import Tenancy.Proofs.Deadlines
import Tenancy.Proofs.Waiting
import Tenancy.Proofs.Stamps
import Tenancy.Proofs.Sequences
import Tenancy.Proofs.Footprint
import Tenancy.Proofs.Convergence
import Tenancy.Proofs.Filing
import Tenancy.Proofs.Remnants
import Tenancy.Proofs.ReadBack
import Tenancy.Proofs.Numerals
import Tenancy.Proofs.Csv
import Tenancy.Proofs.Cells
import Tenancy.Proofs.Lines
import Tenancy.Proofs.Addresses
import Tenancy.Proofs.Clocks
import Tenancy.Proofs.Freshness
import Tenancy.Proofs.Headings
import Tenancy.Proofs.Slashes
