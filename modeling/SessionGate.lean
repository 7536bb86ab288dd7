import SessionGate.Text.Utf8
import SessionGate.Text.Blank
import SessionGate.Text.Quoted
import SessionGate.Decimal.Shortest
import SessionGate.Json.Error
import SessionGate.Json.Printer
import SessionGate.Json.Skip
import SessionGate.Remote.Envelope
import SessionGate.Remote.Login
import SessionGate.Remote.Profile
import SessionGate.Navigation.Guard
import SessionGate.Settings
import SessionGate.Storage.Fault
import SessionGate.Storage.FileStore
import SessionGate.Storage.FieldStore
import SessionGate.Storage.TokenStore
import SessionGate.Session.Permission
import SessionGate.Session.Service
import SessionGate.Session.Shell
import SessionGate.CommandLine.Run
import SessionGate.Main
import SessionGate.Proofs.Json.Order
import SessionGate.Proofs.Storage.Holdings
import SessionGate.Proofs.Session.Outcomes
import SessionGate.Proofs.Session.Restart
import SessionGate.Proofs.Navigation.Guarded
import SessionGate.Proofs.Session.Visits
import SessionGate.Proofs.Json.Strings
import SessionGate.Proofs.Json.Numbers
import SessionGate.Proofs.Json.Skipping
import SessionGate.Proofs.Json.Forms
import SessionGate.Proofs.Json.Layout
import SessionGate.Proofs.Remote.Envelopes
import SessionGate.Proofs.Remote.Grants
import SessionGate.Proofs.Session.SignIn
import SessionGate.Proofs.Session.Overlap
import SessionGate.Proofs.Json.Grammar
import SessionGate.Proofs.Json.Written
import SessionGate.Proofs.Storage.Document
import SessionGate.Proofs.Storage.Histories
import SessionGate.Proofs.CommandLine.Processes
import SessionGate.Proofs.Json.Records
import SessionGate.Proofs.Remote.Profiles
import SessionGate.Proofs.Remote.Reencoding
import SessionGate.Proofs.Navigation.Redirects
import SessionGate.Proofs.Storage.Refusals
import SessionGate.Proofs.Session.Unreadable
import SessionGate.Proofs.Storage.Ways
import SessionGate.Proofs.Storage.Beside
import SessionGate.Proofs.Storage.Interrupted
import SessionGate.Proofs.Decimal.Rounding
import SessionGate.Proofs.Decimal.Range
import SessionGate.Proofs.Decimal.Nearness
import SessionGate.Proofs.Json.Reals
import SessionGate.Proofs.Json.Rereading
import SessionGate.Proofs.Storage.Nesting
import SessionGate.Proofs.Session.Lives
import SessionGate.Proofs.Session.Privileges
import SessionGate.Proofs.Session.Remembering
import SessionGate.Proofs.Session.RememberedFiles
import SessionGate.Proofs.Session.SignOut
import SessionGate.Proofs.Session.LoadedRoles
import SessionGate.Proofs.Storage.FieldMap
import SessionGate.Proofs.Storage.Veiled
import SessionGate.Proofs.Session.Opaque
import SessionGate.Proofs.Storage.Resaving
import SessionGate.Proofs.Storage.Reliable
import SessionGate.Proofs.Storage.OneKey
import SessionGate.Proofs.Storage.Clients
import SessionGate.Proofs.Session.HostCalls
import SessionGate.Proofs.Session.Granted
import SessionGate.Proofs.Session.FieldByField
import SessionGate.Proofs.Navigation.Pages
import SessionGate.Proofs.Session.Removals
import SessionGate.Proofs.Json.Loose
import SessionGate.Proofs.Json.Lenient
import SessionGate.Proofs.Json.Entries
import SessionGate.Proofs.Remote.Verdicts
import SessionGate.Proofs.Session.UserIds
import SessionGate.Proofs.Remote.FromValues
import SessionGate.Proofs.Session.Refound
import SessionGate.Proofs.CommandLine.Undisturbed
import SessionGate.Proofs.Remote.UserIds
import SessionGate.Proofs.Text.Forms
import SessionGate.Proofs.Text.Trimming
import SessionGate.Proofs.Session.LoginForms
import SessionGate.Proofs.Settings
import SessionGate.Proofs.Navigation.PageStacks
import SessionGate.Proofs.Session.Checks
