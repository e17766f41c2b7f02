import Passkey.Base64
import Passkey.Browser
import Passkey.Browser.Attribute
import Passkey.Browser.Console
import Passkey.Browser.Document
import Passkey.Browser.Element
import Passkey.Browser.Forest
import Passkey.Browser.Loading
import Passkey.Browser.Page
import Passkey.Browser.Platform
import Passkey.Browser.Runs
import Passkey.Browser.ScriptValue
import Passkey.Browser.Selector
import Passkey.Browser.Submission
import Passkey.Browser.Visit
import Passkey.Browser.Widgets
import Passkey.Ceremony
import Passkey.Ceremony.Rehearsal
import Passkey.Config
import Passkey.Config.Level
import Passkey.Credential
import Passkey.Decimal.Layout
import Passkey.Decimal.Numeral
import Passkey.Decimal.Reading
import Passkey.Decimal.Shortest
import Passkey.Domain.Ascii
import Passkey.Domain.Label
import Passkey.Domain.MappingTable
import Passkey.Domain.Normal
import Passkey.Domain.NormalTable
import Passkey.Domain.PropertyTable
import Passkey.Domain.Punycode
import Passkey.Domain.Table
import Passkey.Failure
import Passkey.Json.Fault
import Passkey.Json.Printer
import Passkey.Json.Reader
import Passkey.Json.Scan
import Passkey.Json.ScanNumber
import Passkey.Json.Skip
import Passkey.Json.Typed
import Passkey.Json.Value
import Passkey.Keystrokes
import Passkey.Options
import Passkey.Proofs.Base64.Decode
import Passkey.Proofs.Base64.Sextets
import Passkey.Proofs.Base64.Spelling
import Passkey.Proofs.Base64.Symbols
import Passkey.Proofs.Browser.Click
import Passkey.Proofs.Browser.Conversion
import Passkey.Proofs.Browser.Hook
import Passkey.Proofs.Browser.Numbering
import Passkey.Proofs.Browser.Quiet
import Passkey.Proofs.Browser.Stay
import Passkey.Proofs.Browser.Wiring
import Passkey.Proofs.Credential.Body
import Passkey.Proofs.Json.Members
import Passkey.Proofs.Json.RoundTrip
import Passkey.Proofs.Json.Scalars
import Passkey.Proofs.Json.Tidy
import Passkey.Proofs.Json.Typed
import Passkey.Proofs.Options.Acceptance
import Passkey.Proofs.Options.WireForm
import Passkey.Proofs.Outcome
import Passkey.Proofs.Rehearsal.Claim
import Passkey.Proofs.Rehearsal.Course
import Passkey.Proofs.Rehearsal.Custody
import Passkey.Proofs.Rehearsal.Handover
import Passkey.Proofs.Rehearsal.InFlight
import Passkey.Proofs.Rehearsal.Moment
import Passkey.Proofs.Rehearsal.Pieces
import Passkey.Proofs.Rehearsal.Turn
import Passkey.Proofs.Rehearsal.Typing
import Passkey.Proofs.Rehearsal.Watch
import Passkey.Proofs.Text.Trim
import Passkey.Reply
import Passkey.Text.Blank
import Passkey.Text.Case
import Passkey.Text.CaseTable
import Passkey.Text.CodePoints
import Passkey.Text.Printable
import Passkey.Text.Quoted
import Passkey.Text.Split
import Passkey.Url
import Passkey.Url.Address
import Passkey.Url.Authority
import Passkey.Url.Host
import Passkey.Url.Join
import Passkey.Url.Path
import Passkey.Url.Percent
import Passkey.Url.Reading
import Passkey.Url.Scheme
import Passkey.Widget.ErrorSwap
import Passkey.Widget.InlineStyle
import Passkey.Widget.Password
import Passkey.Widget.Photo
import Passkey.Widget.Resend
import Passkey.Proofs.Browser.Question
import Passkey.Proofs.Browser.Aside
import Passkey.Proofs.Browser.Keydown
import Passkey.Proofs.Browser.Attendance
import Passkey.Proofs.Browser.Classes
import Passkey.Proofs.Browser.Mapping
import Passkey.Proofs.Browser.Veiling
import Passkey.Proofs.Browser.Messages
import Passkey.Proofs.Browser.Conduct
import Passkey.Proofs.Browser.Likeness
import Passkey.Proofs.Browser.Binding
import Passkey.Proofs.Browser.Wires
import Passkey.Proofs.Browser.Fields
import Passkey.Proofs.Browser.Passing
import Passkey.Proofs.Browser.Toggling
import Passkey.Proofs.Browser.Uses
import Passkey.Proofs.Browser.Waiting
import Passkey.Proofs.Browser.Deadline
import Passkey.Proofs.Browser.Handback
import Passkey.Proofs.Config.Overriding
import Passkey.Proofs.Keystrokes.History
import Passkey.Proofs.Text.Split
import Passkey.Proofs.Widget.Styling
import Passkey.Proofs.Json.Grammar
import Passkey.Proofs.Json.Scanning
import Passkey.Proofs.Json.Skipping
import Passkey.Proofs.Json.Reading
import Passkey.Proofs.Reply.Drafting
import Passkey.Proofs.Reply.Body
import Passkey.Proofs.Text.Case
import Passkey.Proofs.Widget.Segments
import Passkey.Proofs.Browser.Diversion
import Passkey.Proofs.Config.Verbosity
import Passkey.Proofs.Failure.Showing
import Passkey.Proofs.Widget.Camel
import Passkey.Proofs.Browser.Photo
import Passkey.Proofs.Browser.Decisions
import Passkey.Proofs.Browser.LastDecision
