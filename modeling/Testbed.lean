import Testbed.Text.ShellWords
import Testbed.Text.Quoted
import Testbed.Text.Blank
import Testbed.Text.Binary64
import Testbed.Duration
import Testbed.Path
import Testbed.Fault
import Testbed.Shell.Syntax
import Testbed.Shell.Parse
import Testbed.Shell.Arith
import Testbed.Shell.Format
import Testbed.Json.Value
import Testbed.Json.Read
import Testbed.Json.Write
import Testbed.Json.Shape
import Testbed.Log
import Testbed.Program.Command
import Testbed.Program.Script
import Testbed.Engine
import Testbed.Container.Options
import Testbed.Container.Inspect
import Testbed.Container.Double
import Testbed.Bench
import Testbed.Container.Runtime
import Testbed.Config.Basic
import Testbed.Toml.Lex
import Testbed.Toml.Document
import Testbed.Text.Url
import Testbed.Validation
import Testbed.Config.Load
import Testbed.FileTable
import Testbed.Text.Width
import Testbed.Banner
import Testbed.Diagnostics
import Testbed.Readiness
import Testbed.Timestamp
import Testbed.Disk
import Testbed.Shell.Run
import Testbed.Host
import Testbed.Journal.Event
import Testbed.Journal.Store
import Testbed.TestRun.Invocation
import Testbed.TestRun.Commands
import Testbed.TestRun.Orchestrator
import Testbed.App
import Testbed.Cli.Spec
import Testbed.Cli.Flags
import Testbed.Cli.Run
import Testbed.Support.Trial
import Testbed.Support.Fixtures
import Testbed.Support.TestEnv
import Testbed.Support.Integration
import Testbed.Main
import Testbed.Proofs.Bench
import Testbed.Proofs.Container.Answering
import Testbed.Proofs.TestRun.Plan
import Testbed.Proofs.TestRun.FollowsPlan
import Testbed.Proofs.Fault
import Testbed.Proofs.Container.Engine
import Testbed.Proofs.Readiness.Deadline
import Testbed.Proofs.Readiness.Diagnosis
import Testbed.Proofs.Readiness.Round
import Testbed.Proofs.Readiness.Wait
import Testbed.Proofs.Container.Stop
import Testbed.Proofs.Selection
import Testbed.Proofs.TestRun.Admission
import Testbed.Proofs.Json.Strings
import Testbed.Proofs.Timestamp
import Testbed.Proofs.Journal.Event
import Testbed.Proofs.Path
import Testbed.Proofs.Disk
import Testbed.Proofs.Journal.Lines
import Testbed.Proofs.Json.Blanks
import Testbed.Proofs.Journal.RoundTrip
import Testbed.Proofs.Journal.Runs
import Testbed.Proofs.Program.Script
import Testbed.Proofs.Text.ShellWords
import Testbed.Proofs.Text.Url
import Testbed.Proofs.TestRun.Commands
import Testbed.Proofs.Container.Double
import Testbed.Proofs.Config.Load
