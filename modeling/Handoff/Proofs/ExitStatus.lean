import Handoff.Proofs.Handover

set_option autoImplicit false

/-! # The exit status of a launch

A launch that replaces the process returns only with a refusal, and `exit_status_iff` is the table
of what the status then says: 72 that the launcher's file or the project root cannot be used, 127
that something is missing, 126 that something is there and cannot be run.

The rows of the table are conditions on the file tree: that a path names nothing
(`Host.NamesNothing`), or what it finds (`Host.Finds`). They are put together stage by stage, each
stage with the statuses of its own refusals, and then along the points to which a preflight comes
(`Invocation.verdict_eq_error_iff`). -/

namespace Handoff

namespace Host

variable {host : Host} {text : String}

/-- The path names nothing: it cannot be passed on to the system, or there is nothing with its
    name, something on the way is no directory, or there are too many links on the way. -/
def NamesNothing (host : Host) (text : String) : Prop :=
  hasNull text = true ∨
    ∃ error, (error = .missing ∨ error = .notDirectory ∨ error = .tooManyLinks) ∧
      host.tree.resolve host.cwd? text = .error error

/-- The path names this node. -/
def Finds (host : Host) (text : String) (node : Node) : Prop :=
  ∃ place, host.lookup text = .ok place ∧ host.tree.at? place = some node

theorem isAbsence_iff {error : WalkError} :
    error.isAbsence = true ↔ error = .missing ∨ error = .notDirectory ∨ error = .tooManyLinks := by
  cases error <;> simp [WalkError.isAbsence]

theorem probe_eq_ok_none_iff : host.probe text = .ok none ↔ host.NamesNothing text := by
  unfold NamesNothing
  simp only [← isAbsence_iff]
  cases hnull : hasNull text with
  | true =>
      have hlook : host.lookup text = .error .embeddedNull := by simp [lookup, hnull]
      simp [probe, hlook]
  | false =>
      cases hresolve : host.tree.resolve host.cwd? text with
      | ok place =>
          have hlook : host.lookup text = .ok place := lookup_eq_ok_iff.2 ⟨hnull, hresolve⟩
          obtain ⟨node, hnode⟩ := exists_node_of_lookup hlook
          simp [probe, hlook, hnode]
      | error error =>
          have hlook : host.lookup text = .error (.walk error) := by
            simp [lookup, hnull, hresolve, Except.mapError]
          cases habsence : error.isAbsence <;> simp [probe, hlook, habsence]

/-! ## The launcher's file -/

/-- The launcher's file is not known, or its absolute path names nothing. -/
def CannotLocate (host : Host) (file : Option String) : Prop :=
  (file = none ∧ ∀ name, host.startedFrom = some name → name = "") ∨
    ∃ name wrapper, file.or host.wrapperFile? = some name ∧ host.absolute name = .ok wrapper ∧
      host.NamesNothing wrapper.text

theorem wrapperFile?_eq_none_iff :
    host.wrapperFile? = none ↔ ∀ name, host.startedFrom = some name → name = "" := by
  simp [wrapperFile?, Option.filter_eq_none_iff]

end Host

theorem locateWrapper_eq_refusal_iff {host : Host} {file : Option String} :
    (∃ refusal, locateWrapper host file = .error (.refusal refusal)) ↔ host.CannotLocate file := by
  unfold locateWrapper Host.CannotLocate
  rw [← Host.wrapperFile?_eq_none_iff, ← Option.or_eq_none_iff]
  cases file.or host.wrapperFile? with
  | none => simp
  | some name =>
      cases habs : host.absolute name with
      | error error => simp [habs]
      | ok wrapper =>
          simp only [← Host.probe_eq_ok_none_iff]
          cases hprobe : host.probe wrapper.text with
          | error error => simp [habs, hprobe]
          | ok node? => cases node? <;> simp [habs, hprobe]

/-- Where the launcher's file is not located, the failure is a refusal or an error of the
    system. -/
theorem failure_of_locateWrapper {host : Host} {file : Option String} {failure : Failure}
    (h : locateWrapper host file = .error failure) :
    (∃ error, failure = .system error) ∨
      ∃ refusal, failure = .refusal refusal ∧ refusal.exitStatus = 72 := by
  unfold locateWrapper at h
  split at h
  · cases h
    exact .inr ⟨_, rfl, rfl⟩
  · split at h
    · cases h
      exact .inl ⟨_, rfl⟩
    · split at h
      · cases h
        exact .inl ⟨_, rfl⟩
      · cases h
        exact .inr ⟨_, rfl, rfl⟩
      · exact absurd h (by simp)

/-! ## The delegate -/

namespace Host

/-- The delegate, or the interpreter for it, is missing. -/
def LacksDelegate (host : Host) (script : Path) (settings : Settings) : Prop :=
  host.NamesNothing script.text ∨
    ∃ mode fault children interpreter, host.Finds script.text ⟨.file mode fault, children⟩ ∧
      settings.interpreter? = some interpreter ∧ host.which interpreter = none

/-- The delegate is there and cannot be run: it is no regular file, or it may not be read by the
    interpreter, which is found, or without an interpreter it may not be executed. -/
def BarsDelegate (host : Host) (script : Path) (settings : Settings) : Prop :=
  (∃ node, host.Finds script.text node ∧ ∀ mode fault, node.kind ≠ .file mode fault) ∨
    ∃ mode fault children, host.Finds script.text ⟨.file mode fault, children⟩ ∧
      match settings.interpreter? with
      | some interpreter => (host.which interpreter).isSome = true ∧ mode.read = false
      | none => mode.execute = false

end Host

/-- What stands in the way of launching a regular file, by the status that it leads to. -/
theorem exists_launchObstacle?_iff {host : Host} {script : Path} {mode : Mode}
    {fault : Option Int} {children : List (String × Node)}
    (h : host.Finds script.text ⟨.file mode fault, children⟩) (settings : Settings)
    (status : Int) :
    (∃ refusal, launchObstacle? host script settings = some refusal ∧
        refusal.exitStatus = status) ↔
      (status = 127 ∧ ∃ interpreter, settings.interpreter? = some interpreter ∧
        host.which interpreter = none) ∨
      (status = 126 ∧ match settings.interpreter? with
        | some interpreter => (host.which interpreter).isSome = true ∧ mode.read = false
        | none => mode.execute = false) := by
  obtain ⟨place, hlook, hnode⟩ := h
  have hread : host.mayRead script.text = mode.read := Host.permits_of_lookup hlook hnode rfl
  have hexec : host.mayExecute script.text = mode.execute := Host.permits_of_lookup hlook hnode rfl
  unfold launchObstacle?
  cases settings.interpreter? with
  | none =>
      cases hx : mode.execute <;>
        simp [hexec, hx, Refusal.exitStatus, notRunnableStatus, eq_comm]
  | some interpreter =>
      cases hwhich : host.which interpreter <;> cases hr : mode.read <;>
        simp [hread, hwhich, hr, Refusal.exitStatus, missingStatus, notRunnableStatus, eq_comm]

theorem resolveDelegate_eq_refusal_of_file {host : Host} {root script : Path}
    {settings : Settings} {mode : Mode} {fault : Option Int} {children : List (String × Node)}
    {refusal : Refusal} (hscript : script = root.join (.ofText settings.delegate))
    (h : host.probe script.text = .ok (some ⟨.file mode fault, children⟩)) :
    resolveDelegate host root settings = .error (.refusal refusal) ↔
      launchObstacle? host script settings = some refusal := by
  unfold resolveDelegate
  simp only [← hscript, h]
  cases launchObstacle? host script settings <;> simp

theorem failure_of_resolveDelegate {host : Host} {root : Path} {settings : Settings}
    {failure : Failure} (h : resolveDelegate host root settings = .error failure) :
    (∃ error, failure = .system error) ∨ ∃ refusal, failure = .refusal refusal := by
  unfold resolveDelegate at h
  simp only at h
  split at h
  · cases h
    exact .inl ⟨_, rfl⟩
  · cases h
    exact .inr ⟨_, rfl⟩
  · split at h
    · cases h
      exact .inr ⟨_, rfl⟩
    · exact absurd h (by simp)
  · cases h
    exact .inr ⟨_, rfl⟩

/-- The statuses with which the delegate is refused. -/
theorem exists_resolveDelegate_iff {host : Host} {root script : Path} {settings : Settings}
    {status : Int} (hscript : script = root.join (.ofText settings.delegate)) :
    (∃ refusal, resolveDelegate host root settings = .error (.refusal refusal) ∧
        refusal.exitStatus = status) ↔
      (status = 127 ∧ host.LacksDelegate script settings) ∨
        (status = 126 ∧ host.BarsDelegate script settings) := by
  have hfinds : ∀ node, host.Finds script.text node ↔ host.probe script.text = .ok (some node) :=
    fun node => Host.probe_eq_ok_some_iff.symm
  unfold Host.LacksDelegate Host.BarsDelegate
  simp only [← Host.probe_eq_ok_none_iff, hfinds]
  cases hprobe : host.probe script.text with
  | error error =>
      unfold resolveDelegate
      simp [← hscript, hprobe]
  | ok node? =>
      cases node? with
      | none =>
          unfold resolveDelegate
          simp [← hscript, hprobe, Refusal.exitStatus, missingStatus]
          exact eq_comm
      | some node =>
          obtain ⟨kind, children⟩ := node
          cases kind with
          | file mode fault =>
              -- Only a regular file is asked what stands in the way of launching it.
              simp only [resolveDelegate_eq_refusal_of_file hscript hprobe,
                exists_launchObstacle?_iff ((hfinds _).2 hprobe)]
              simp [Node.kind]
          | _ =>
              unfold resolveDelegate
              simp [← hscript, hprobe, Node.kind, Refusal.exitStatus, notRunnableStatus]
              exact eq_comm

/-! ## The process search -/

/-- Replacing the process by a command ends in one of three ways. -/
theorem Runner.replaceProcess_cases {host : Host} {command : List String} {env : Option Env}
    (hcommand : command ≠ []) :
    (∃ image, replaceProcess host command env = .replaced image) ∨
      (∃ error, replaceProcess host command env = .failed (.system error)) ∨
      ∃ reason, replaceProcess host command env = .failed (.invalid reason) := by
  obtain ⟨program, rest, rfl⟩ := List.exists_cons_of_ne_nil hcommand
  simp only [replaceProcess]
  cases host.launch program (program :: rest) (mergedEnv host env) with
  | ok image => exact .inl ⟨image, rfl⟩
  | error error =>
      cases error with
      | system error => exact .inr (.inl ⟨error, rfl⟩)
      | invalid reason => exact .inr (.inr ⟨reason, rfl⟩)

/-! ## The launch -/

namespace Invocation

variable {invocation : Invocation} {host : Host}

/-- The failures with which a preflight ends. -/
theorem verdict_eq_error_iff {failure : Failure} :
    (invocation.preflight host).verdict = .error failure ↔
      locateWrapper host invocation.file = .error failure ∨
      (∃ wrapper error, host.Locates invocation.file wrapper ∧
        host.chdir (projectRoot wrapper).text = .error error ∧
        failure = .refusal (.rootNotEntered (projectRoot wrapper) error)) ∨
      ∃ wrapper place, invocation.EntersRoot host wrapper place ∧
        resolveDelegate { host with cwd := some place } (projectRoot wrapper)
          (invocation.settingsOn host) = .error failure := by
  constructor
  · intro h
    obtain ⟨progress, hcomes⟩ := invocation.exists_comes host
    rw [hcomes.preflight_eq] at h
    cases hcomes with
    | lost hlocate =>
        cases h
        exact .inl hlocate
    | outside hlocated henter =>
        cases h
        obtain ⟨error, hchdir, rfl⟩ := (enterProjectRoot_eq_error_iff hlocated).1 henter
        exact .inr (.inl ⟨_, error, hlocated, hchdir, rfl⟩)
    | stopped hentered hresolve =>
        cases h
        exact .inr (.inr ⟨_, _, hentered, hresolve⟩)
    | ready hready => exact absurd h (by simp [preflightAt])
  · rintro (hlocate | ⟨wrapper, error, hlocated, hchdir, rfl⟩ |
      ⟨wrapper, place, hentered, hresolve⟩)
    · rw [(Comes.lost hlocate).preflight_eq]
      rfl
    · have henter := (enterProjectRoot_eq_error_iff hlocated).2 ⟨error, hchdir, rfl⟩
      rw [(Comes.outside hlocated henter).preflight_eq]
      rfl
    · rw [(Comes.stopped hentered hresolve).preflight_eq]
      rfl

/-- All checks pass, and the system refuses the hand-over with this error. -/
def LaunchFails (invocation : Invocation) (host : Host) (wrapper : Path) (place : Location)
    (error : SystemError) : Prop :=
  invocation.Ready host wrapper place ∧
    Runner.replaceProcess (invocation.readyHost host place)
      (invocation.readyCommand host wrapper).words
      (invocation.separateEnv.map Env.selectManifest) = .failed (.system error)

theorem ending_of_verdict {failure : Failure}
    (h : (invocation.preflight host).verdict = .error failure) :
    (invocation.launch host .exec).ending =
      (conclude (invocation.consoleOn host) (.failed failure)).1 := by
  simp only [launch, handOver, h]

theorem Ready.ending_exec {wrapper : Path} {place : Location}
    (h : invocation.Ready host wrapper place) :
    (invocation.launch host .exec).ending =
      (conclude (invocation.consoleOn host)
        (launchVerdict (invocation.readyCommand host wrapper).script
          (Runner.replaceProcess (invocation.readyHost host place)
            (invocation.readyCommand host wrapper).words
            (invocation.separateEnv.map Env.selectManifest)))).1 :=
  (h.launch_eq .exec).2.2

theorem LaunchFails.ending {wrapper : Path} {place : Location} {error : SystemError}
    (h : invocation.LaunchFails host wrapper place error) :
    (invocation.launch host .exec).ending =
      .returned (if error.kind = .notFound then 127 else 126) := by
  rw [h.1.ending_exec, h.2]
  rfl

/-- How a launch ends, in all cases: the preflight fails, or everything is ready and the process is
    replaced, or it is not, for a reason of the system's or because of an argument. -/
theorem ending_cases (invocation : Invocation) (host : Host) :
    (∃ failure, (invocation.preflight host).verdict = .error failure) ∨
    (∃ image, (invocation.launch host .exec).ending = .replaced image) ∨
    (∃ wrapper place error, invocation.LaunchFails host wrapper place error) ∨
    ∃ reason, (invocation.launch host .exec).ending = .failed (.invalid reason) := by
  cases hverdict : (invocation.preflight host).verdict with
  | error failure => exact .inl ⟨failure, rfl⟩
  | ok command =>
      obtain ⟨wrapper, place, hready⟩ := exists_ready_of_verdict hverdict
      have hwords : (invocation.readyCommand host wrapper).words ≠ [] := by
        simp [words_readyCommand]
      obtain ⟨image, hreplace⟩ | ⟨error, hreplace⟩ | ⟨reason, hreplace⟩ :=
        Runner.replaceProcess_cases hwords
      · refine .inr (.inl ⟨image, ?_⟩)
        rw [hready.ending_exec, hreplace]
        rfl
      · exact .inr (.inr (.inl ⟨wrapper, place, error, hready, hreplace⟩))
      · refine .inr (.inr (.inr ⟨reason, ?_⟩))
        rw [hready.ending_exec, hreplace]
        rfl

/-- A launch returns for a refusal of the preflight, or for one of the system's. -/
theorem ending_eq_returned_iff_refusal {status : Int} :
    (invocation.launch host .exec).ending = .returned status ↔
      (∃ refusal, (invocation.preflight host).verdict = .error (.refusal refusal) ∧
        refusal.exitStatus = status) ∨
      ∃ wrapper place error, invocation.LaunchFails host wrapper place error ∧
        (if error.kind = .notFound then 127 else 126) = status := by
  constructor
  · intro h
    obtain ⟨failure, hverdict⟩ | ⟨image, hended⟩ | ⟨wrapper, place, error, hfails⟩ |
      ⟨reason, hended⟩ := invocation.ending_cases host
    · -- Of all failures only a refusal is turned into a status.
      rw [ending_of_verdict hverdict] at h
      cases failure with
      | refusal refusal =>
          cases h
          exact .inl ⟨refusal, hverdict, rfl⟩
      | _ => exact absurd h (by simp [conclude])
    · exact absurd (hended.symm.trans h) (by simp)
    · rw [hfails.ending] at h
      cases h
      exact .inr ⟨wrapper, place, error, hfails, rfl⟩
    · exact absurd (hended.symm.trans h) (by simp)
  · rintro (⟨refusal, hverdict, rfl⟩ | ⟨wrapper, place, error, hfails, rfl⟩)
    · rw [ending_of_verdict hverdict]
      rfl
    · exact hfails.ending

/-- The statuses with which a preflight is refused. -/
theorem exists_verdict_iff {status : Int} :
    (∃ refusal, (invocation.preflight host).verdict = .error (.refusal refusal) ∧
        refusal.exitStatus = status) ↔
      (status = 72 ∧ (host.CannotLocate invocation.file ∨
        ∃ wrapper error, host.Locates invocation.file wrapper ∧
          host.chdir (projectRoot wrapper).text = .error error)) ∨
      ∃ wrapper place, invocation.EntersRoot host wrapper place ∧
        ((status = 127 ∧ { host with cwd := some place }.LacksDelegate
            (invocation.scriptPath host wrapper) (invocation.settingsOn host)) ∨
          (status = 126 ∧ { host with cwd := some place }.BarsDelegate
            (invocation.scriptPath host wrapper) (invocation.settingsOn host))) := by
  simp only [← locateWrapper_eq_refusal_iff]
  constructor
  · rintro ⟨refusal, hverdict, rfl⟩
    obtain hlocate | ⟨wrapper, error, hlocated, hchdir, hrefusal⟩ |
      ⟨wrapper, place, hentered, hresolve⟩ := verdict_eq_error_iff.1 hverdict
    · obtain ⟨error, habsurd⟩ | ⟨refusal', hrefusal, hstatus⟩ := failure_of_locateWrapper hlocate
      · exact absurd habsurd (by simp)
      · cases hrefusal
        exact .inl ⟨hstatus, .inl ⟨refusal, hlocate⟩⟩
    · cases hrefusal
      exact .inl ⟨rfl, .inr ⟨wrapper, error, hlocated, hchdir⟩⟩
    · exact .inr ⟨wrapper, place, hentered, (exists_resolveDelegate_iff rfl).1
        ⟨refusal, hresolve, rfl⟩⟩
  · rintro (⟨rfl, ⟨refusal, hlocate⟩ | ⟨wrapper, error, hlocated, hchdir⟩⟩ |
      ⟨wrapper, place, hentered, hrow⟩)
    · obtain ⟨error, habsurd⟩ | ⟨refusal', hrefusal, hstatus⟩ := failure_of_locateWrapper hlocate
      · exact absurd habsurd (by simp)
      · cases hrefusal
        exact ⟨refusal, verdict_eq_error_iff.2 (.inl hlocate), hstatus⟩
    · exact ⟨_, verdict_eq_error_iff.2 (.inr (.inl ⟨wrapper, error, hlocated, hchdir, rfl⟩)), rfl⟩
    · obtain ⟨refusal, hresolve, hstatus⟩ := (exists_resolveDelegate_iff rfl).2 hrow
      exact ⟨refusal, verdict_eq_error_iff.2 (.inr (.inr ⟨wrapper, place, hentered, hresolve⟩)),
        hstatus⟩

theorem ending_eq_returned_iff {status : Int} :
    (invocation.launch host .exec).ending = .returned status ↔
      (status = 72 ∧ (host.CannotLocate invocation.file ∨
        ∃ wrapper error, host.Locates invocation.file wrapper ∧
          host.chdir (projectRoot wrapper).text = .error error)) ∨
      ∃ wrapper place, invocation.EntersRoot host wrapper place ∧
        ((status = 127 ∧ { host with cwd := some place }.LacksDelegate
            (invocation.scriptPath host wrapper) (invocation.settingsOn host)) ∨
          (status = 126 ∧ { host with cwd := some place }.BarsDelegate
            (invocation.scriptPath host wrapper) (invocation.settingsOn host)) ∨
          ∃ error, invocation.LaunchFails host wrapper place error ∧
            status = if error.kind = .notFound then 127 else 126) := by
  rw [ending_eq_returned_iff_refusal, exists_verdict_iff]
  constructor
  · rintro ((hpath | ⟨wrapper, place, hentered, hrow | hrow⟩) |
      ⟨wrapper, place, error, hfails, hstatus⟩)
    · exact .inl hpath
    · exact .inr ⟨wrapper, place, hentered, .inl hrow⟩
    · exact .inr ⟨wrapper, place, hentered, .inr (.inl hrow)⟩
    · exact .inr ⟨wrapper, place, hfails.1.entersRoot, .inr (.inr ⟨error, hfails, hstatus.symm⟩)⟩
  · rintro (hpath | ⟨wrapper, place, hentered, hrow | hrow | ⟨error, hfails, hstatus⟩⟩)
    · exact .inl (.inl hpath)
    · exact .inl (.inr ⟨wrapper, place, hentered, .inl hrow⟩)
    · exact .inl (.inr ⟨wrapper, place, hentered, .inr hrow⟩)
    · exact .inr ⟨wrapper, place, error, hfails, hstatus.symm⟩

theorem failure_of_verdict {failure : Failure}
    (h : (invocation.preflight host).verdict = .error failure) :
    (∃ error, failure = .system error) ∨ ∃ refusal, failure = .refusal refusal := by
  obtain hlocate | ⟨wrapper, error, -, -, hrefusal⟩ | ⟨wrapper, place, -, hresolve⟩ :=
    verdict_eq_error_iff.1 h
  · obtain hsystem | ⟨refusal, hrefusal, -⟩ := failure_of_locateWrapper hlocate
    · exact .inl hsystem
    · exact .inr ⟨refusal, hrefusal⟩
  · exact .inr ⟨_, hrefusal⟩
  · exact failure_of_resolveDelegate hresolve

theorem failure_of_ending {failure : Failure}
    (h : (invocation.launch host .exec).ending = .failed failure) :
    (∃ error, failure = .system error) ∨ ∃ reason, failure = .invalid reason := by
  obtain ⟨failure', hverdict⟩ | ⟨image, hended⟩ | ⟨wrapper, place, error, hfails⟩ |
    ⟨reason, hended⟩ := invocation.ending_cases host
  · rw [ending_of_verdict hverdict] at h
    obtain ⟨error, rfl⟩ | ⟨refusal, rfl⟩ := failure_of_verdict hverdict
    · cases h
      exact .inl ⟨error, rfl⟩
    · exact absurd h (by simp [conclude])
  · exact absurd (hended.symm.trans h) (by simp)
  · exact absurd (hfails.ending.symm.trans h) (by simp)
  · rw [hended] at h
    cases h
    exact .inr ⟨reason, rfl⟩

/-- The table of exit statuses. A launch that replaces the process returns nothing but 72, 127 and
    126, and fails with nothing but an error of the system or an argument that cannot be passed on.
    It returns 72 where the launcher's file is not known or names nothing, and where the file is
    located and its project root cannot be entered. The other two are about the delegate as it is
    seen from the project root, once that was entered. It returns 127 where the delegate or its
    interpreter is missing, and 126 where the delegate is there and cannot be run; where all checks
    pass and the system still refuses the launch, it depends on what the system says. -/
theorem exit_status_iff (invocation : Invocation) (host : Host) :
    let ending := (invocation.launch host .exec).ending
    (∀ status, ending = .returned status → status = 72 ∨ status = 126 ∨ status = 127) ∧
    (∀ failure, ending = .failed failure →
      (∃ error, failure = .system error) ∨ ∃ reason, failure = .invalid reason) ∧
    (ending = .returned 72 ↔
      host.CannotLocate invocation.file ∨
        ∃ wrapper error, host.Locates invocation.file wrapper ∧
          host.chdir (projectRoot wrapper).text = .error error) ∧
    (ending = .returned 127 ↔
      ∃ wrapper place, invocation.EntersRoot host wrapper place ∧
        ({ host with cwd := some place }.LacksDelegate (invocation.scriptPath host wrapper)
            (invocation.settingsOn host) ∨
          ∃ error, invocation.LaunchFails host wrapper place error ∧ error.kind = .notFound)) ∧
    (ending = .returned 126 ↔
      ∃ wrapper place, invocation.EntersRoot host wrapper place ∧
        ({ host with cwd := some place }.BarsDelegate (invocation.scriptPath host wrapper)
            (invocation.settingsOn host) ∨
          ∃ error, invocation.LaunchFails host wrapper place error ∧ error.kind ≠ .notFound)) := by
  intro ending
  refine ⟨?_, ?_, ?_, ?_, ?_⟩
  · intro status hended
    obtain ⟨rfl, -⟩ | ⟨wrapper, place, -, ⟨rfl, -⟩ | ⟨rfl, -⟩ | ⟨error, -, rfl⟩⟩ :=
      ending_eq_returned_iff.1 hended
    · simp
    · simp
    · simp
    · split_ifs <;> simp
  · intro failure hended
    exact failure_of_ending hended
  · refine ending_eq_returned_iff.trans ⟨?_, fun hpath => .inl ⟨rfl, hpath⟩⟩
    rintro (⟨-, hpath⟩ | ⟨wrapper, place, -, ⟨habsurd, -⟩ | ⟨habsurd, -⟩ | ⟨error, -, habsurd⟩⟩)
    · exact hpath
    · exact absurd habsurd (by decide)
    · exact absurd habsurd (by decide)
    · split_ifs at habsurd <;> simp at habsurd
  · refine ending_eq_returned_iff.trans ?_
    have hkind : ∀ error : SystemError,
        ((127 : Int) = if error.kind = .notFound then 127 else 126) ↔ error.kind = .notFound := by
      intro error
      split_ifs with hkind <;> simp [hkind]
    simp [hkind]
  · refine ending_eq_returned_iff.trans ?_
    have hkind : ∀ error : SystemError,
        ((126 : Int) = if error.kind = .notFound then 127 else 126) ↔ error.kind ≠ .notFound := by
      intro error
      split_ifs with hkind <;> simp [hkind]
    simp [hkind]

end Invocation

end Handoff
