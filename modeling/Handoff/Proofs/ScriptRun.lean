import Handoff.Proofs.Agreement
import Handoff.Proofs.EnterableRoot
import Handoff.Script

set_option autoImplicit false

/-! # What the script does

The script is a second way into a launch. `Script.rootText_eq_projectRoot` compares the project root
that it cuts out of the text of its file with the one that a launch finds with `Path`: they are the
same text for every file. `Script.run_eq_launch` compares running the script with a launch from its
file: it is the same, apart from the module search path.

The script tells the launch its arguments. `Invocation.launch_startedWith` says that the words by
which the process was started do not matter then. -/

namespace Handoff

/-! ## The root as text -/

namespace Script

theorem rootText_text {path : Path} (habs : path.isAbsolute = true) (h : path.Readable) :
    rootText path.text = (projectRoot path).text := by
  unfold rootText
  rw [Path.dirName_text habs h]
  exact Path.dirName_text habs h.parent

theorem searchPath_run {script : Script} {host : Host} {path : Path}
    (h : host.absolute script.file = .ok path) (searchPath : List String) :
    (script.run host searchPath).searchPath = extendSearchPath (rootText path.text) searchPath := by
  unfold run
  simp only [h]
  split_ifs <;> rfl

/-- The script and the launcher find the same project root: the directory that the script cuts out
    of the text of its file's absolute path is written like the one that is found when this text is
    read as a path. So the directory that the script puts in front of the search path is the one
    that a launch from this file enters, if it comes so far. -/
theorem rootText_eq_projectRoot {host : Host} {file : String} {path : Path}
    (hcwd : ∀ place ∈ host.cwd, Location.Canonical place) (h : host.absolute file = .ok path) :
    let root := projectRoot (.ofText path.text)
    rootText path.text = root.text ∧
      (∀ (script : Script) (searchPath : List String), script.file = file →
        (script.run host searchPath).searchPath = extendSearchPath root.text searchPath) ∧
      ∀ (named : Option String) (wrapper entry : Path) (seen entered : Host),
        named.or host.wrapperFile? = some file → locateWrapper host named = .ok wrapper →
        enterProjectRoot seen wrapper = .ok (entry, entered) → entry = root := by
  have habs := Host.isAbsolute_of_absolute h
  have hreadable := Host.readable_of_absolute hcwd h
  intro root
  have hroot : root = projectRoot path := by
    simp only [root, Path.ofText_text habs hreadable]
  have htext : rootText path.text = root.text := by
    rw [hroot, rootText_text habs hreadable]
  refine ⟨htext, ?_, ?_⟩
  · rintro script searchPath rfl
    rw [searchPath_run h, htext]
  · intro named wrapper entry seen entered hnamed hlocated hentered
    obtain ⟨name, -, hname, hwrapper, -⟩ := locateWrapper_eq_ok_iff.1 hlocated
    obtain rfl : file = name := Option.some.inj (hnamed.symm.trans hname)
    obtain rfl : path = wrapper := Except.ok.inj (h.symm.trans hwrapper)
    rw [(enterProjectRoot_eq_ok_iff.1 hentered).1, hroot]

theorem linkedLauncher_searchPath :
    let host := linkedLauncher
    let script : Script := { file := "./project/x/../.cf//build.py", arguments := [] }
    let moved : Host := { host with cwd := some ["srv", "app"] }
    locateWrapper host (some script.file) = .ok (.ofText "/home/project/.cf/build.py") ∧
      enterProjectRoot host (.ofText "/home/project/.cf/build.py") =
        .ok (.ofText "/home/project", moved) ∧
      (script.run host ["/usr/lib"]).searchPath = ["/home/project", "/usr/lib"] ∧
      Path.ofText "/home/project" = projectRoot (.ofText "/home/project/.cf/build.py") := by
  intro host script moved
  have habs : host.absolute script.file = .ok (.ofText "/home/project/.cf/build.py") := by
    decide +kernel
  have hlocated : locateWrapper host (some script.file) =
      .ok (.ofText "/home/project/.cf/build.py") := by
    decide +kernel
  have hentered : enterProjectRoot host (.ofText "/home/project/.cf/build.py") =
      .ok (.ofText "/home/project", moved) := by
    rfl
  obtain ⟨-, hsearch, hroot⟩ := rootText_eq_projectRoot (by decide) habs
  refine ⟨hlocated, hentered, (hsearch script ["/usr/lib"] rfl).trans (by decide), ?_⟩
  exact hroot (some script.file) _ _ host moved rfl hlocated hentered

-- Two leading slashes are kept apart from one, and above a root directory there is nothing.
example : rootText "//run.py" = "//" ∧ rootText "/cf/run.py" = "/" ∧ rootText "/" = "/" := by decide

end Script

/-! ## Launches that are told their arguments -/

/-- The host with other words by which the process was started. -/
def Host.startedWith (host : Host) (words : List String) : Host := { host with commandLine := words }

/-- No runner looks at the words by which the process was started. -/
theorem Runner.replace_startedWith (runner : Runner) (host : Host) (words command : List String)
    (env : Option Env) (note : Option String) :
    runner.replace (host.startedWith words) command env note =
      let outcome := runner.replace host command env note
      { outcome with host := outcome.host.startedWith words } := by
  cases runner with
  | exec =>
      have hending := @Runner.matches_replaceProcess (host.startedWith words) host env env
        (· = ·) rfl rfl rfl rfl rfl command
      simp only [replace, hending.eq]
  | spawn => rfl
  | recording records =>
      have hcwd : (host.startedWith words).cwdText = host.cwdText := rfl
      simp only [replace, hcwd]
      split <;> rfl
  | unimplemented => rfl
  | scripted reply calls => cases reply <;> rfl

namespace Invocation

variable {invocation : Invocation} {arguments : List String}

theorem agrees_startedWith (h : invocation.arguments = some arguments) (host : Host)
    (words : List String) : invocation.Agrees host invocation (host.startedWith words) := by
  refine ⟨rfl, rfl, rfl, ?_, rfl, rfl, ?_⟩
  · simp only [argumentsOn, h, Option.getD_some]
  · intro wrapper place _ name _
    exact @isSome_which_congr host (host.startedWith words) rfl rfl place name

theorem preflight_startedWith (h : invocation.arguments = some arguments) (host : Host)
    (words : List String) :
    invocation.preflight (host.startedWith words) =
      let ready := invocation.preflight host
      { ready with host := ready.host.startedWith words } := by
  have hagrees := agrees_startedWith h host words
  have hselected : (host.startedWith words).selectManifest invocation.separateEnv =
      (host.selectManifest invocation.separateEnv).startedWith words := by
    cases invocation.separateEnv <;> rfl
  obtain ⟨progress, hcomes⟩ := invocation.exists_comes host
  rw [hcomes.preflight_eq, (hagrees.comes hcomes).preflight_eq]
  cases progress with
  | lost failure => rfl
  | outside failure =>
      simp only [preflightAt, hselected]
      rfl
  | stopped wrapper place failure =>
      simp only [preflightAt, readyHost, hselected]
      rfl
  | ready wrapper place =>
      simp only [preflightAt, readyHost, hselected, ← hagrees.readyCommand_eq]
      rfl

theorem handOver_startedWith (ready : Preflight) (words : List String) (runner : Runner) :
    handOver { ready with host := ready.host.startedWith words } runner =
      let outcome := handOver ready runner
      { outcome with host := outcome.host.startedWith words } := by
  unfold handOver
  simp only
  cases ready.verdict with
  | error failure => rfl
  | ok command => simp only [invokeDelegate, Runner.replace_startedWith]

/-- A launch that is told its arguments does not look at the words by which the process was started,
    and leaves them alone. -/
theorem launch_startedWith (h : invocation.arguments = some arguments) (host : Host)
    (words : List String) (runner : Runner) :
    invocation.launch (host.startedWith words) runner =
      let report := invocation.launch host runner
      { report with host := report.host.startedWith words } := by
  have hconsole : invocation.consoleOn (host.startedWith words) = invocation.consoleOn host := rfl
  simp only [launch, preflight_startedWith h, handOver_startedWith, hconsole]

end Invocation

/-! ## Running the script -/

namespace Script

variable {script : Script} {host : Host} {path : Path}

theorem run_of_error {error : SystemError} (h : host.absolute script.file = .error error)
    (searchPath : List String) :
    script.run host searchPath = ⟨.failed (.system error), host, searchPath, []⟩ := by
  simp only [run, h]

theorem run_of_load (h : host.absolute script.file = .ok path) (hload : script.asProgram = false)
    (searchPath : List String) :
    script.run host searchPath =
      ⟨.returned none, host, extendSearchPath (rootText path.text) searchPath, []⟩ := by
  simp only [run, h, hload, Bool.false_eq_true, if_false]

/-- Run as a program, the script launches the delegate from its file on the host as it is. -/
theorem run_of_program (h : host.absolute script.file = .ok path)
    (hprogram : script.asProgram = true) (searchPath : List String) :
    let launched := ({ arguments := some script.arguments } : Invocation).launch
      { host with startedFrom := some script.file } .exec
    script.run host searchPath =
      { ending := launched.ending.map some
        host := { launched.host with startedFrom := host.startedFrom }
        searchPath := extendSearchPath (rootText path.text) searchPath
        prints := launched.prints } := by
  intro launched
  have htold : ({ arguments := some script.arguments } : Invocation).arguments =
      some script.arguments := rfl
  have hlaunch := Invocation.launch_startedWith htold { host with startedFrom := some script.file }
  have hstarted : ({ arguments := some script.arguments } : Invocation).launch
      (script.startedOn host) .exec =
        { launched with
          host := launched.host.startedWith (script.file :: script.arguments) } :=
    hlaunch _ .exec
  -- The host was started by some words already, and keeps them.
  have hwords : launched.host.commandLine = host.commandLine :=
    congrArg (·.host.commandLine) (hlaunch host.commandLine .exec)
  simp only [run, h, hprogram, if_true, hstarted, Host.startedWith, ← hwords]

theorem extendSearchPath_extendSearchPath (directory : String) (searchPath : List String) :
    extendSearchPath directory (extendSearchPath directory searchPath) =
      extendSearchPath directory searchPath := by
  unfold extendSearchPath
  split_ifs with hfirst hsecond
  · rfl
  · rfl
  · simp at hsecond

/-- Running the script is launching the delegate from its file, with the arguments of the script:
    the ending, where a status that is returned becomes the exit status, the prints and the state of
    the host are those of that launch. Only how the process was started is as before. The script
    does no more than that to the search path, where the project root comes first afterwards, unless
    the root was in it already.

    All this holds if the absolute path of the file can be told. If it cannot, the path is a
    relative one and the current directory was deleted, and nothing has happened. Loading the script
    changes the search path in the same way, and nothing else; loading it once more changes
    nothing. -/
theorem run_eq_launch (file : String) (arguments : List String) (host : Host)
    (searchPath : List String) :
    let report := run { file, arguments } host searchPath
    let load := run { file, arguments, asProgram := false }
    let loaded := load host searchPath
    let launched := ({ arguments := some arguments } : Invocation).launch
      { host with startedFrom := some file } .exec
    (∀ error, host.absolute file = .error error →
      (Path.ofText file).isAbsolute = false ∧ host.cwd? = none ∧ error = .ofErrno 2 none ∧
        report = ⟨.failed (.system error), host, searchPath, []⟩ ∧ loaded = report) ∧
    (∀ path, host.absolute file = .ok path →
      report.ending = launched.ending.map some ∧ report.prints = launched.prints ∧
        report.host = { launched.host with startedFrom := host.startedFrom } ∧
        report.searchPath = (if rootText path.text ∈ searchPath then searchPath
          else rootText path.text :: searchPath) ∧
        loaded = ⟨.returned none, host, report.searchPath, []⟩) ∧
    load loaded.host loaded.searchPath = loaded := by
  intro report load loaded launched
  cases habs : host.absolute file with
  | error error =>
      have hreport : report = ⟨.failed (.system error), host, searchPath, []⟩ :=
        @run_of_error { file, arguments } host error habs searchPath
      have hloaded : loaded = ⟨.failed (.system error), host, searchPath, []⟩ :=
        @run_of_error { file, arguments, asProgram := false } host error habs searchPath
      obtain ⟨hrelative, hcwd, hmissing⟩ := Host.absolute_eq_error_iff.1 habs
      refine ⟨?_, fun path hok => absurd hok (by simp), ?_⟩
      · intro other hother
        obtain rfl : error = other := Except.error.inj hother
        exact ⟨hrelative, hcwd, hmissing, hreport, by rw [hloaded, hreport]⟩
      · rw [hloaded]
        exact hloaded
  | ok path =>
      have hload := @run_of_load { file, arguments, asProgram := false } host path habs rfl
      have hreport := @run_of_program { file, arguments } host path habs rfl searchPath
      have hloaded : loaded = _ := hload searchPath
      refine ⟨fun error herror => absurd herror (by simp), ?_, ?_⟩
      · intro other hother
        obtain rfl : path = other := Except.ok.inj hother
        simp only [report, hreport]
        refine ⟨rfl, rfl, rfl, ?_, hloaded⟩
        unfold extendSearchPath
        simp
      · rw [hloaded]
        simp only [load, hload, extendSearchPath_extendSearchPath]

end Script

end Handoff
