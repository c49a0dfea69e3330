import TracePlayer.Main
import TracePlayer.Settings.LogLevel
import TracePlayer.Viewer.App
import TracePlayer.Viewer.Document
import TracePlayer.Viewer.Panel
import TracePlayer.Proofs.Playback.Pace
import TracePlayer.Proofs.Playback.Overflow
import TracePlayer.Proofs.Program.Reading
import TracePlayer.Proofs.Timeline.Answers
import TracePlayer.Proofs.Program.Forest
import TracePlayer.Proofs.Json.Parts
import TracePlayer.Proofs.Program.Walk
import TracePlayer.Proofs.Trace.Acceptance
import TracePlayer.Proofs.Trace.RoundTrip
import TracePlayer.Proofs.Viewer.Onlooker
import TracePlayer.Proofs.Program.Growth
import TracePlayer.Proofs.Program.Merge
import TracePlayer.Proofs.Program.Chain
import TracePlayer.Proofs.Playback.Chronicle
import TracePlayer.Proofs.Playback.Showing
import TracePlayer.Proofs.Program.Restriction
import TracePlayer.Proofs.Interpreter.SingleFlight
import TracePlayer.Proofs.Interpreter.Dialogue
import TracePlayer.Proofs.Interpreter.LastTrace
import TracePlayer.Proofs.Viewer.Reload
import TracePlayer.Proofs.Viewer.Rounds
import TracePlayer.Proofs.Program.Encoding
import TracePlayer.Proofs.Playback.Outcome
import TracePlayer.Proofs.Timeline.Grid
import TracePlayer.Proofs.Timeline.Forward
import TracePlayer.Proofs.Program.Patch
import TracePlayer.Proofs.Playback.Polling
import TracePlayer.Proofs.Playback.Timetable
import TracePlayer.Proofs.Trace.Rewriting
import TracePlayer.Proofs.Viewer.Cycle
import TracePlayer.Proofs.Trace.Spelling
import TracePlayer.Proofs.Program.Locals
import TracePlayer.Proofs.Viewer.Pinning
import TracePlayer.Proofs.Viewer.Tiling
import TracePlayer.Proofs.Playback.Limits
import TracePlayer.Proofs.Report.Outline
import TracePlayer.Proofs.Interpreter.Framing
import TracePlayer.Proofs.Interpreter.Input
import TracePlayer.Proofs.Screen.Rows
import TracePlayer.Proofs.Viewer.Scrolling
