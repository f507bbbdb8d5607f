import CrashReporter.Agent.Schedule
import CrashReporter.Config.Encode
import CrashReporter.Event.Decode
import CrashReporter.Hang.Pace
import CrashReporter.Native.Call
import CrashReporter.Proofs.Agent.Report
import CrashReporter.Proofs.Event.Order
import CrashReporter.Proofs.Event.RoundTrip
import CrashReporter.Proofs.Registry.Editing
import CrashReporter.Proofs.Trail.Contents
import CrashReporter.Registry.Nested
import CrashReporter.Text.Quoted
import CrashReporter.Trail.Nested
import CrashReporter.Proofs.Hang.Closing
import CrashReporter.Proofs.Hang.Episode
import CrashReporter.Proofs.Hang.Stopping
import CrashReporter.Proofs.Template.Snapshot
import CrashReporter.Proofs.Agent.Company
import CrashReporter.Proofs.Agent.Conduct
import CrashReporter.Proofs.Native.Calls
import CrashReporter.Proofs.Native.Writes
import CrashReporter.Proofs.Agent.Account
import CrashReporter.Proofs.Agent.History
import CrashReporter.Proofs.Agent.Ledger
import CrashReporter.Proofs.Agent.Reentrance
import CrashReporter.Proofs.Client.Undated
import CrashReporter.Proofs.Agent.Lockstep
import CrashReporter.Proofs.Agent.Past
import CrashReporter.Proofs.Native.Code
import CrashReporter.Proofs.Native.InStep
import CrashReporter.Proofs.Agent.Turns
import CrashReporter.Proofs.Native.Conduct
import CrashReporter.Proofs.Native.Passing
import CrashReporter.Proofs.Native.Order
import CrashReporter.Proofs.Native.Closing
import CrashReporter.Proofs.Native.AtOnce
import CrashReporter.Proofs.Native.Lifecycle
import CrashReporter.Proofs.Native.Attendance
import CrashReporter.Proofs.Registry.Identities
import CrashReporter.Proofs.Client.Interleaving
import CrashReporter.Proofs.Native.Tokens
import CrashReporter.Proofs.Event.Pairs
import CrashReporter.Proofs.Trail.Times
import CrashReporter.Proofs.Native.Accessors
import CrashReporter.Proofs.Event.Accepted
import CrashReporter.Proofs.Config.Merging
import CrashReporter.Proofs.Native.Launch
import CrashReporter.Proofs.Text.Separated
import CrashReporter.Proofs.Text.Order
