import Handoff.Error.Foreign
import Handoff.Error.System
import Handoff.Path

set_option autoImplicit false

/-! # Refusals and failures

A `Refusal` is the launcher's own verdict that it cannot hand over. It is a cause; its category, the
message for the user, the exit status and the system error behind it are functions of the cause.

A `Failure` is anything that can end an operation early: a refusal, an error of the system that
nobody was prepared for, or what a runner supplied by the caller does. -/

namespace Handoff

/-- The categories of refusals. -/
inductive Refusal.Category where
  /-- No more is said than that the launcher stops. -/
  | general
  /-- The launcher's own location, or the project root above it, cannot be used. -/
  | pathResolution
  /-- The delegate cannot be launched. -/
  | delegateLaunch
  deriving DecidableEq, Repr

/-- The name under which a category is reported. -/
def Refusal.Category.label : Refusal.Category → String
  | .general => "WrapperError"
  | .pathResolution => "PathResolutionError"
  | .delegateLaunch => "DelegateLaunchError"

/-- The exit status for a file that is missing. -/
def missingStatus : Int := 127

/-- The exit status for a file that is there and cannot be run. -/
def notRunnableStatus : Int := 126

/-- The exit status of a category where a refusal gives none of its own. -/
def Refusal.Category.exitStatus : Refusal.Category → Int
  | .general => 1
  | .pathResolution => 72
  | .delegateLaunch => missingStatus

/-- Why the launcher does not hand over. -/
inductive Refusal where
  /-- It is not known from which file the launcher was started. -/
  | noWrapperFile
  /-- There is no file where the launcher is said to be. -/
  | wrapperMissing (file : String)
  /-- The project root is not there or is no directory. -/
  | rootUnusable (root : Path)
  /-- The project root could not be entered. -/
  | rootNotEntered (root : Path) (error : SystemError)
  /-- There is no delegate. -/
  | delegateMissing (script : Path)
  /-- The delegate is something other than a regular file. -/
  | delegateNotRegular (script : Path)
  /-- The interpreter for the delegate is not found. -/
  | interpreterMissing (interpreter : String) (script : Path)
  /-- The delegate may not be read. -/
  | delegateUnreadable (script : Path)
  /-- The delegate may not be executed. -/
  | delegateNotExecutable (script : Path)
  /-- The hand-over to the delegate failed. -/
  | launchFailed (script : String) (error : SystemError)
  /-- A refusal raised by the caller, with an exit status or with that of its category. -/
  | raised (category : Refusal.Category) (message : String) (status : Option Int)
  deriving DecidableEq, Repr

namespace Refusal

/-- The category of a refusal. -/
def category : Refusal → Category
  | .noWrapperFile | .wrapperMissing _ | .rootUnusable _ | .rootNotEntered _ _ => .pathResolution
  | .delegateMissing _ | .delegateNotRegular _ | .interpreterMissing _ _ | .delegateUnreadable _
  | .delegateNotExecutable _ | .launchFailed _ _ => .delegateLaunch
  | .raised category _ _ => category

/-- The message for the user. -/
def message : Refusal → String
  | .noWrapperFile => "Cannot determine the wrapper location: no __main__ file"
  | .wrapperMissing file => "Cannot resolve wrapper location '" ++ file ++ "': no such file"
  | .rootUnusable root =>
    "Project root '" ++ root.text ++ "' does not exist or is not a directory"
  | .rootNotEntered root error =>
    "Cannot enter project root '" ++ root.text ++ "': " ++ error.text
  | .delegateMissing script => "Delegate '" ++ script.text ++ "' does not exist"
  | .delegateNotRegular script => "Delegate '" ++ script.text ++ "' is not a regular file"
  | .interpreterMissing interpreter script =>
    "Interpreter '" ++ interpreter ++ "' for '" ++ script.text ++ "' was not found on PATH"
  | .delegateUnreadable script => "Delegate '" ++ script.text ++ "' is not readable"
  | .delegateNotExecutable script => "Delegate '" ++ script.text ++ "' is not executable"
  | .launchFailed script error => "Cannot launch '" ++ script ++ "': " ++ error.explanation
  | .raised _ message _ => message

/-- The status with which the launcher exits. -/
def exitStatus : Refusal → Int
  | .noWrapperFile | .wrapperMissing _ | .rootUnusable _ | .rootNotEntered _ _ =>
    Category.pathResolution.exitStatus
  | .delegateMissing _ | .interpreterMissing _ _ => missingStatus
  | .delegateNotRegular _ | .delegateUnreadable _ | .delegateNotExecutable _ => notRunnableStatus
  | .launchFailed _ error => if error.kind = .notFound then missingStatus else notRunnableStatus
  | .raised category _ status => status.getD category.exitStatus

/-- The error of the system behind a refusal. -/
def cause? : Refusal → Option SystemError
  | .rootNotEntered _ error | .launchFailed _ error => some error
  | _ => none

end Refusal

/-- What ends an operation early. -/
inductive Failure where
  /-- The launcher refuses to go on. -/
  | refusal (verdict : Refusal)
  /-- A request to the system failed. -/
  | system (error : SystemError)
  /-- A request could not be passed on to the system. -/
  | invalid (reason : InvalidArgument)
  /-- A command without words has no program to run. -/
  | emptyCommand
  /-- The runner cannot run commands. -/
  | notImplemented
  /-- Some other failure of a runner supplied by the caller. -/
  | foreign (failure : ForeignFailure)
  deriving DecidableEq, Repr

/-- The message of a failure. -/
def Failure.message : Failure → String
  | .refusal verdict => verdict.message
  | .system error => error.text
  | .invalid reason => reason.message
  | .emptyCommand => "list index out of range"
  | .notImplemented => ""
  | .foreign failure => failure.message

/-- A failed request as a failure. -/
def CallError.toFailure : CallError → Failure
  | .system error => .system error
  | .invalid reason => .invalid reason

end Handoff
