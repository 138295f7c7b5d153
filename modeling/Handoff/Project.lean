import Handoff.Ending

set_option autoImplicit false

/-! # The project around the launcher

The launcher's file stands in a directory of the project root. From the file the root is found
lexically, so a link to the launcher belongs to the project in which the link stands. -/

namespace Handoff

/-- The file from which the process was started, unless that is unknown or empty. -/
def Host.wrapperFile? (host : Host) : Option String := host.startedFrom.filter (· ≠ "")

/-- The absolute path of the launcher's file. Without a name for it, it is the file from which the
    process was started. -/
def locateWrapper (host : Host) (file : Option String) : Except Failure Path :=
  match file.or host.wrapperFile? with
  | none => .error (.refusal .noWrapperFile)
  | some name =>
    match host.absolute name with
    | .error error => .error (.system error)
    | .ok wrapper =>
      match host.probe wrapper.text with
      | .error error => .error (.system error)
      | .ok none => .error (.refusal (.wrapperMissing name))
      | .ok (some _) => .ok wrapper

/-- The directory above the one that holds the launcher's file. -/
def projectRoot (wrapper : Path) : Path := wrapper.parent.parent

/-- Make the project root the current directory. -/
def enterProjectRoot (host : Host) (wrapper : Path) : Except Failure (Path × Host) :=
  let root := projectRoot wrapper
  match host.probe root.text with
  -- A root that cannot be looked at is no refusal: the error is passed on as it is.
  | .error error => .error (.system error)
  | .ok (some ⟨.dir _, _⟩) =>
    match host.chdir root.text with
    | .ok after => .ok (root, after)
    | .error error => .error (.refusal (.rootNotEntered root error))
  | .ok _ => .error (.refusal (.rootUnusable root))

end Handoff
