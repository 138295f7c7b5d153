import Handoff.Launcher

set_option autoImplicit false

/-! # The launcher's script

The script is the launcher's file in a project. When it is loaded it puts the project root at the
front of the module search path, unless the path has it already; when it is run as a program it then
launches the delegate and exits with the status that this gives.

Here the root is cut out of the text of the file's absolute path, without regard to `Path`. -/

namespace Handoff

/-- A script that is loaded or run. -/
structure Script where
  /-- The file, as it was named when the script was started. -/
  file : String
  /-- The arguments for the delegate. -/
  arguments : List String
  /-- Whether the script is run as a program, and not only loaded. -/
  asProgram : Bool := true
  deriving DecidableEq, Repr

/-- A script that has come to its end. It ends with an exit status if it was run as a program. -/
structure Script.Report where
  ending : Ending (Option Int)
  host : Host
  searchPath : List String
  prints : List Print

namespace Script

/-- The project root, as text. -/
def rootText (absoluteFile : String) : String := Path.dirName (Path.dirName absoluteFile)

/-- The search path with a directory that is put in front of it, unless it is there already. -/
def extendSearchPath (directory : String) (searchPath : List String) : List String :=
  if searchPath.contains directory then searchPath else directory :: searchPath

/-- The host as a script sees it that is run as a program. -/
def startedOn (script : Script) (host : Host) : Host :=
  { host with
    startedFrom := some script.file
    commandLine := script.file :: script.arguments }

/-- Load the script, and launch the delegate if it is run as a program. How the process was started
    is forgotten afterwards. -/
def run (script : Script) (host : Host) (searchPath : List String) : Script.Report :=
  match host.absolute script.file with
  | .error error => ⟨.failed (.system error), host, searchPath, []⟩
  | .ok path =>
    let extended := extendSearchPath (rootText path.text) searchPath
    if script.asProgram then
      let report := ({ arguments := some script.arguments } : Invocation).launch
        (script.startedOn host) .exec
      { ending := report.ending.map some
        host :=
          { report.host with startedFrom := host.startedFrom, commandLine := host.commandLine }
        searchPath := extended
        prints := report.prints }
    else ⟨.returned none, host, extended, []⟩

end Script

end Handoff
