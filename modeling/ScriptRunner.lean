import ScriptRunner.BuildStamp
import ScriptRunner.Main
import ScriptRunner.Proofs.Cli.Agreement
import ScriptRunner.Proofs.Cli.Asked
import ScriptRunner.Proofs.Cli.Limit
import ScriptRunner.Proofs.Cli.Listing
import ScriptRunner.Proofs.Cli.OutputsDoc
import ScriptRunner.Proofs.Cli.Run
import ScriptRunner.Proofs.Decoding
import ScriptRunner.Proofs.Decoding.Lossy
import ScriptRunner.Proofs.Driver.Acts
import ScriptRunner.Proofs.Driver.Child
import ScriptRunner.Proofs.Driver.Failures
import ScriptRunner.Proofs.Driver.Files
import ScriptRunner.Proofs.Driver.Probes
import ScriptRunner.Proofs.Driver.Routes
import ScriptRunner.Proofs.Driver.Termination
import ScriptRunner.Proofs.Encoding.CodePage
import ScriptRunner.Proofs.Encoding.Locale
import ScriptRunner.Proofs.Encoding.Overrides
import ScriptRunner.Proofs.Execution.Outcome
import ScriptRunner.Proofs.Failure.Message
import ScriptRunner.Proofs.Json.FailureDoc
import ScriptRunner.Proofs.Json.Token
import ScriptRunner.Proofs.Json.Value
import ScriptRunner.Proofs.Marker.Document
import ScriptRunner.Proofs.Marker.Echo
import ScriptRunner.Proofs.Marker.Lines
import ScriptRunner.Proofs.Marker.Prefix
import ScriptRunner.Proofs.Marker.Progress
import ScriptRunner.Proofs.Marker.Scan
import ScriptRunner.Proofs.Shell.Invocation
import ScriptRunner.SimulatedHost
