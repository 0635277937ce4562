import Timetable.Text.Blank
import Timetable.Text.Decimal
import Timetable.Weekday
import Timetable.Date
import Timetable.Text.Glyphless
import Timetable.Text.Quoted
import Timetable.Date.Text
import Timetable.TimeOfDay
import Timetable.Span
import Timetable.Bells
import Timetable.Json.Value
import Timetable.Json.Number
import Timetable.Json.Token
import Timetable.Json.Tree
import Timetable.Json.Shortest
import Timetable.Json.Printer
import Timetable.Policy
import Timetable.Settings
import Timetable.Ident
import Timetable.User
import Timetable.Slot
import Timetable.Reservation
import Timetable.Roster
import Timetable.Event
import Timetable.Registry
import Timetable.Journal.Checksum
import Timetable.Journal.Binary
import Timetable.Journal.Payload
import Timetable.Journal.Record
import Timetable.Journal.Disk
import Timetable.Journal.Writer
import Timetable.Journal.Log
import Timetable.Journal.Queue
import Timetable.Notice
import Timetable.Refusal
import Timetable.Counters
import Timetable.Limits
import Timetable.Occurrence
import Timetable.Change
import Timetable.Change.Slots
import Timetable.Change.Filters
import Timetable.Change.Supervisors
import Timetable.Change.Booking
import Timetable.Change.Unbooking
import Timetable.Listing
import Timetable.Planner
import Timetable.Records
import Timetable.Action
import Timetable.Request
import Timetable.Service
import Timetable.Ticket
import Timetable.Job
import Timetable.Office
import Timetable.LineReader
import Timetable.Session
import Timetable.Main
import Timetable.Proofs.RoundTrip.Payload
import Timetable.Proofs.Journal.Replay
import Timetable.Proofs.Journal.Appending
import Timetable.Proofs.Journal.DamagedTail
import Timetable.Proofs.Journal.Acknowledged
import Timetable.Proofs.Registry.Effects
import Timetable.Proofs.Registry.WellFormed
import Timetable.Proofs.Registry.Within
import Timetable.Proofs.Journal.Size
import Timetable.Proofs.Registry.Compaction
import Timetable.Proofs.Planner.Decisions
import Timetable.Proofs.Planner.Sound
import Timetable.Proofs.Planner.Transaction
import Timetable.Proofs.Planner.Durable
import Timetable.Proofs.Planner.Cut
import Timetable.Proofs.Journal.Outcome
import Timetable.Proofs.Journal.Compacting
import Timetable.Proofs.Journal.GroupCommit
import Timetable.Proofs.Journal.FlippedByte
import Timetable.Proofs.Journal.Growing
import Timetable.Proofs.Registry.Unbooking
import Timetable.Proofs.Registry.Seats
import Timetable.Proofs.Registry.DateOrder
import Timetable.Proofs.Sessions
import Timetable.Proofs.Overlap
import Timetable.Proofs.RoundTrip.Bells
import Timetable.Proofs.Overfull
import Timetable.Proofs.NextSession
import Timetable.Proofs.Planner.History
import Timetable.Proofs.Planner.Turn
import Timetable.Proofs.Planner.Buckets
import Timetable.Proofs.Planner.Weekdays
import Timetable.Proofs.Planner.Reports
import Timetable.Proofs.Registry.Served
import Timetable.Proofs.Planner.FirstCome
import Timetable.Proofs.Planner.Refused
import Timetable.Proofs.Planner.WellKept
import Timetable.Proofs.Registry.Filed
import Timetable.Proofs.Registry.Interleaving
import Timetable.Proofs.Registry.Listed
import Timetable.Proofs.Registry.Isolation
import Timetable.Proofs.Planner.Authority
import Timetable.Proofs.Planner.Compacted
import Timetable.Proofs.Planner.FailedCompaction
import Timetable.Proofs.Planner.Notices
import Timetable.Proofs.Planner.Removals
import Timetable.Proofs.Planner.Bookable
import Timetable.Proofs.Planner.SlotRecords
import Timetable.Proofs.Planner.Displacement
import Timetable.Proofs.Registry.Numbered
import Timetable.Proofs.Office.Line
import Timetable.Proofs.Office.Jobs
import Timetable.Proofs.Office.Seen
import Timetable.Proofs.Office.Steps
import Timetable.Proofs.Office.Displacement
import Timetable.Proofs.Planner.GivingUp
import Timetable.Proofs.Planner.Upcoming
import Timetable.Proofs.Planner.Updates
import Timetable.Proofs.Planner.Reasons
import Timetable.Proofs.Planner.Shortest
import Timetable.Proofs.Lines
import Timetable.Proofs.Conversation
import Timetable.Proofs.Channels
import Timetable.Proofs.Listeners
import Timetable.Proofs.Mailboxes
import Timetable.Proofs.Arguments
import Timetable.Proofs.Counting
