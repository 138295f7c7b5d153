import Handoff.Proofs.DelegatePath
import Handoff.Proofs.Handover
import Handoff.Session.Step
import Handoff.Shell.Fields
import Handoff.Proofs.Agreement
import Handoff.Proofs.CallerEnv
import Handoff.Proofs.EscapingErrors
import Handoff.Proofs.ExitStatus
import Handoff.Proofs.History
import Handoff.Proofs.EnterableRoot
import Handoff.Proofs.RunnerIndependence
import Handoff.Proofs.CommandLine
import Handoff.Proofs.LogLevel
import Handoff.Proofs.MissingProgram
import Handoff.Proofs.ScriptRun
import Handoff.Proofs.UnusableRoot
import Handoff.Proofs.Settled
import Handoff.Proofs.LocatedFile
import Handoff.Proofs.LaunchSearch
import Handoff.Proofs.RaisedFailure
import Handoff.Proofs.LevelGrammar
import Handoff.Proofs.RecordedCalls
