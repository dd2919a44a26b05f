import JournalSink.Describe
import JournalSink.Facade
import JournalSink.Pool.Lending
import JournalSink.Wire.Read
import JournalSink.Proofs.Text.Uppercase
import JournalSink.Proofs.Json.Grammar
import JournalSink.Proofs.Wire.RoundTrip
import JournalSink.Proofs.Json.Numbers
import JournalSink.Proofs.Json.Strings
import JournalSink.Proofs.Json.Values
import JournalSink.Proofs.Json.Documents
import JournalSink.Proofs.Json.Acceptance
import JournalSink.Proofs.Level.Names
import JournalSink.Proofs.Entry.Decoding
import JournalSink.Proofs.Entry.Size
import JournalSink.Proofs.Json.Lines
import JournalSink.Proofs.Session.Tracking
import JournalSink.Proofs.Writer.Delivery
import JournalSink.Proofs.Payload.Source
import JournalSink.Proofs.Payload.RoundTrip
import JournalSink.Proofs.Payload.Reading
import JournalSink.Proofs.Handler.Parts
import JournalSink.Proofs.Wire.LastField
import JournalSink.Proofs.Session.Lifecycle
import JournalSink.Proofs.Writer.Acceptance
import JournalSink.Proofs.Bridge.Datagram
import JournalSink.Proofs.Facade.Service
import JournalSink.Proofs.Warner.Taking
import JournalSink.Proofs.Warner.Points
import JournalSink.Proofs.Warner.Balance
import JournalSink.Proofs.Handler.Account
import JournalSink.Proofs.Pool.Isolation
import JournalSink.Proofs.Wire.Names
import JournalSink.Proofs.Warner.Limit
import JournalSink.Proofs.Entry.Truncation
import JournalSink.Proofs.Calendar.Days
import JournalSink.Proofs.Timestamp.Moment
import JournalSink.Proofs.Timestamp.Order
import JournalSink.Proofs.Ini.Layout
import JournalSink.Proofs.Settings.Agreement
import JournalSink.Proofs.Text.Capitals
import JournalSink.Proofs.LogCall.Points
import JournalSink.Proofs.Json.Stops
import JournalSink.Proofs.Entry.Places
import JournalSink.Proofs.Writer.Submission
import JournalSink.Proofs.Handler.Namesakes
