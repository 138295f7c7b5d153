import Handoff.Delegate
import Handoff.Manifest
import Handoff.Project
import Handoff.Shell.Word

set_option autoImplicit false

/-! # The launcher

One launch selects the manifest, enters the project root and hands the process over to the delegate,
with the caller's arguments untouched.

It has two parts. The `preflight` is all that happens before the hand-over, and does not know the
runner; it ends with the command to hand over to or with a failure. `Invocation.launch` then asks
the runner, and says how it went: a refusal, from either part, is told to the user and becomes an
exit status (`conclude`), every other failure is passed on. -/

namespace Handoff

/-- What a caller can ask of the launcher. -/
structure Invocation where
  /-- The arguments for the delegate; if not given, those with which the process was started. -/
  arguments : Option (List String) := none
  /-- The launcher's file; if not given, the one from which the process was started. -/
  file : Option String := none
  /-- Variables to use instead of those of the process. -/
  separateEnv : Option Env := none
  /-- The settings; if not given, they are loaded from the variables in use. -/
  settings : Option Settings := none
  deriving DecidableEq, Repr

/-- Everything up to the hand-over. -/
structure Preflight where
  /-- The host as it is left. -/
  host : Host
  /-- The separate variables as they are left. -/
  separateEnv : Option Env
  /-- What was printed. -/
  prints : List Print
  /-- The command to hand over to, or why there is none. -/
  verdict : Except Failure DelegateCommand

/-- A launch that has come to its end. -/
structure Report where
  ending : Ending Int
  host : Host
  runner : Runner
  separateEnv : Option Env
  prints : List Print

namespace Invocation

/-- The arguments for the delegate. -/
def argumentsOn (invocation : Invocation) (host : Host) : List String :=
  invocation.arguments.getD host.commandLine.tail

/-- The settings in force. -/
def settingsOn (invocation : Invocation) (host : Host) : Settings :=
  invocation.settings.getD (.load (invocation.separateEnv.getD host.env))

/-- The console in use. -/
def consoleOn (invocation : Invocation) (host : Host) : Console :=
  ⟨(invocation.settingsOn host).logLevel⟩

/-- The message that the manifest was selected. -/
def manifestMessage : String := "Set " ++ manifestVariable ++ "=" ++ manifestPath

/-- Find the launcher's file, select the manifest, enter the project root and make sure that the
    delegate can be launched. -/
def preflight (invocation : Invocation) (host : Host) : Preflight :=
  let settings := invocation.settingsOn host
  let console := invocation.consoleOn host
  match locateWrapper host invocation.file with
  | .error failure => ⟨host, invocation.separateEnv, [], .error failure⟩
  | .ok wrapper =>
    let selected := host.selectManifest invocation.separateEnv
    let separateEnv := invocation.separateEnv.map Env.selectManifest
    let prints := console.say .debug manifestMessage
    match enterProjectRoot selected wrapper with
    | .error failure => ⟨selected, separateEnv, prints, .error failure⟩
    | .ok (root, entered) =>
      let prints := prints ++ console.say .debug ("Project root: " ++ root.text)
      match resolveDelegate entered root settings with
      | .error failure => ⟨entered, separateEnv, prints, .error failure⟩
      | .ok script =>
        let command := buildCommand script (invocation.argumentsOn host) settings
        let prints := prints ++
          console.say .info ("Handing off to " ++ Shell.commandLine command.words)
        ⟨entered, separateEnv, prints, .ok command⟩

end Invocation

/-- How the launcher itself ends, given how the preflight or the hand-over ended, and what it says
    then. -/
def conclude (console : Console) : Ending Int → Ending Int × List Print
  | .failed (.refusal refusal) =>
    (.returned refusal.exitStatus,
      Console.complain refusal.message ::
        console.say .error
          (refusal.category.label ++ ": exiting with status " ++ toString refusal.exitStatus))
  | .returned status =>
    (.returned status, console.say .debug ("Delegate exited with " ++ toString status))
  | ending => (ending, [])

namespace Invocation

/-- Ask the runner for the hand-over that the preflight has come to, if it has. -/
def handOver (ready : Preflight) (runner : Runner) : Outcome Int :=
  match ready.verdict with
  | .error failure => ⟨.failed failure, ready.host, runner⟩
  | .ok command => invokeDelegate ready.host command runner ready.separateEnv

/-- Launch the delegate. -/
def launch (invocation : Invocation) (host : Host) (runner : Runner) : Report :=
  let ready := invocation.preflight host
  let outcome := handOver ready runner
  let conclusion := conclude (invocation.consoleOn host) outcome.ending
  { ending := conclusion.1
    host := outcome.host
    runner := outcome.runner
    separateEnv := ready.separateEnv
    prints := ready.prints ++ conclusion.2 }

end Invocation

end Handoff
