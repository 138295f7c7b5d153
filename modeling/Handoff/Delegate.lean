import Handoff.Runner
import Handoff.Settings

set_option autoImplicit false

/-! # The delegate

The delegate is the script that does the work of the project. Before the process is handed over to
it, `resolveDelegate` makes sure that it can be launched; `buildCommand` says how, and
`invokeDelegate` does it. -/

namespace Handoff

/-- The words that launch the delegate. -/
structure DelegateCommand where
  interpreter : Option String
  script : String
  arguments : List String
  deriving DecidableEq, Repr

/-- The words in order. An interpreter without a name is left out. -/
def DelegateCommand.words (command : DelegateCommand) : List String :=
  (command.interpreter.filter (· ≠ "")).toList ++ command.script :: command.arguments

/-- The note that goes with a hand-over. -/
def handoverNote : String := "Hand off to delegate"

/-- What stands in the way of launching a script that is a regular file: with an interpreter that
    has to be found and the script has to be readable, without one it has to be executable. -/
def launchObstacle? (host : Host) (script : Path) (settings : Settings) : Option Refusal :=
  match settings.interpreter? with
  | some interpreter =>
    if (host.which interpreter).isNone then some (.interpreterMissing interpreter script)
    else if !host.mayRead script.text then some (.delegateUnreadable script)
    else none
  | none => if host.mayExecute script.text then none else some (.delegateNotExecutable script)

/-- The path of the delegate, if it can be launched. -/
def resolveDelegate (host : Host) (root : Path) (settings : Settings) : Except Failure Path :=
  let script := root.join (.ofText settings.delegate)
  match host.probe script.text with
  | .error error => .error (.system error)
  | .ok none => .error (.refusal (.delegateMissing script))
  | .ok (some ⟨.file _ _, _⟩) =>
    match launchObstacle? host script settings with
    | some obstacle => .error (.refusal obstacle)
    | none => .ok script
  | .ok (some _) => .error (.refusal (.delegateNotRegular script))

/-- The command that launches the delegate with the given arguments. A delegate below the project
    root is named as seen from there, which is how one would start it by hand. -/
def buildCommand (script : Path) (arguments : List String) (settings : Settings) :
    DelegateCommand :=
  { interpreter := settings.interpreter
    script :=
      if (Path.ofText settings.delegate).isAbsolute then script.text
      else "./" ++ settings.delegate
    arguments }

/-- A hand-over that failed for a reason of the system's is a refusal to launch the script. -/
def launchVerdict (script : String) : Ending Int → Ending Int
  | .failed (.system error) => .failed (.refusal (.launchFailed script error))
  | ending => ending

/-- Hand the process over to the delegate. -/
def invokeDelegate (host : Host) (command : DelegateCommand) (runner : Runner)
    (env : Option Env) : Outcome Int :=
  let outcome := runner.replace host command.words env (some handoverNote)
  { outcome with ending := launchVerdict command.script outcome.ending }

end Handoff
