import PlotPipe.Channel.Memory
import PlotPipe.Main
import PlotPipe.Proofs.CommandLine.DryRun
import PlotPipe.Proofs.Script.Decoding
import PlotPipe.Proofs.Script.Erasure
import PlotPipe.Proofs.Script.Framing
import PlotPipe.Proofs.Session.Account
import PlotPipe.Proofs.Session.Calls
import PlotPipe.Proofs.Session.Finality
import PlotPipe.Proofs.Session.PipeEvents
import PlotPipe.Proofs.Session.Rejection
import PlotPipe.Proofs.Session.Strictness
import PlotPipe.Proofs.Session.TimeAxis
import PlotPipe.Proofs.Script.PlotLine
import PlotPipe.Proofs.Number.Rounding
import PlotPipe.Proofs.Number.Shortest
import PlotPipe.Proofs.Number.Numeral
import PlotPipe.Proofs.Json.Text
import PlotPipe.Proofs.Json.Number
import PlotPipe.Proofs.Json.RoundTrip
import PlotPipe.Proofs.Json.Encode
import PlotPipe.Proofs.Json.Brackets
import PlotPipe.Proofs.Json.Fitting
import PlotPipe.Proofs.Json.Reading
import PlotPipe.Proofs.Json.Scalar
import PlotPipe.Proofs.Time.Tick
import PlotPipe.Proofs.Workspace.Put
import PlotPipe.Proofs.Journal.File
import PlotPipe.Proofs.Journal.Books
import PlotPipe.Proofs.Session.StandIn
import PlotPipe.Proofs.Text.Blank
import PlotPipe.Proofs.Number.ReadBack
import PlotPipe.Proofs.CommandLine.DataFile
import PlotPipe.Proofs.Number.Order
import PlotPipe.Proofs.Script.Ranges
import PlotPipe.Proofs.CommandLine.Reported
import PlotPipe.Proofs.Payload.Cells
import PlotPipe.Proofs.Payload.Confined
import PlotPipe.Proofs.Payload.Containers
import PlotPipe.Proofs.Payload.Grid
import PlotPipe.Proofs.Payload.Leaves
import PlotPipe.Proofs.Payload.Outline
import PlotPipe.Proofs.Payload.Points
import PlotPipe.Proofs.Payload.Rows
import PlotPipe.Proofs.Payload.Texts
import PlotPipe.Proofs.Time.Calendar
import PlotPipe.Proofs.Config.Settings
import PlotPipe.Proofs.Number.Nearness
import PlotPipe.Proofs.Payload.CandleRows
import PlotPipe.Proofs.Payload.Times
import PlotPipe.Proofs.Time.Instant
import PlotPipe.Proofs.Time.Nanos
import PlotPipe.Proofs.Text.Lines
import PlotPipe.Proofs.Journal.Lines
import PlotPipe.Proofs.Journal.Pruning
import PlotPipe.Proofs.Journal.Damage
import PlotPipe.Proofs.Journal.Appending
import PlotPipe.Proofs.Text.Spelling
import PlotPipe.Proofs.CommandLine.OutputArgument
import PlotPipe.Proofs.Payload.Regular
import PlotPipe.Proofs.Payload.InOrder
import PlotPipe.Proofs.Payload.NumberArray
import PlotPipe.Proofs.Script.Columns
import PlotPipe.Proofs.Script.Commands
import PlotPipe.Proofs.Script.Resets
import PlotPipe.Proofs.Script.Unquoting
import PlotPipe.Proofs.Number.RoundTrip
import PlotPipe.Proofs.Script.ColorCodes
import PlotPipe.Proofs.Config.Accepted
