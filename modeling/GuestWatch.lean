import GuestWatch.Config.Printer
import GuestWatch.Files.Session
import GuestWatch.Main
import GuestWatch.Proofs.Run.Protocol
import GuestWatch.Proofs.Run.Streams
import GuestWatch.Script
import GuestWatch.Proofs.LineReader.Conservation
import GuestWatch.Proofs.Run.Course
import GuestWatch.Proofs.Run.Verdict
import GuestWatch.Proofs.Run.Deadline
import GuestWatch.Proofs.Run.Cancellation
import GuestWatch.Proofs.Text.Encoded
import GuestWatch.Proofs.Text.Stripped
import GuestWatch.Proofs.LineReader.Delivery
import GuestWatch.Proofs.Run.LineEndings
import GuestWatch.Proofs.LineReader.Unbroken
import GuestWatch.Proofs.Backend.Lifecycle
import GuestWatch.Proofs.Backend.Runs
import GuestWatch.Proofs.Session.Acceptance
import GuestWatch.Proofs.Files.Written
import GuestWatch.Proofs.Session.Emitted
import GuestWatch.Proofs.LineReader.EndOfFile
import GuestWatch.Proofs.LineReader.Arrivals
import GuestWatch.Proofs.Markers.RunnerProtocol
import GuestWatch.Proofs.Markers.NormalForms
import GuestWatch.Proofs.Run.PrintedMarkers
import GuestWatch.Proofs.Run.LongerTimeout
import GuestWatch.Proofs.Run.Waits
import GuestWatch.Proofs.Text.IllFormed
import GuestWatch.Proofs.LineReader.Decoded
import GuestWatch.Proofs.Options.Overlay
import GuestWatch.Proofs.Options.Written
import GuestWatch.Proofs.Session.Reported
import GuestWatch.Proofs.Backend.Arguments
import GuestWatch.Proofs.Backend.Stopping
import GuestWatch.Proofs.Markers.Causes
