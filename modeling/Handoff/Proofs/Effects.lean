import Handoff.Proofs.Handover

set_option autoImplicit false

/-! # What a launch changes

A launch changes the variables in use, the current directory and, with a runner that starts
programs, the list of the programs started. `launch_effects` says when it changes the first two, and
how: the variables as soon as the launcher's file is located, the directory as soon as the project
root is entered, and neither of them afterwards, however the launch ends.

The preflight stops between two such changes or after the last (`preflight_of_located`), and the
hand-over makes no further one (`exists_host_launch`). -/

namespace Handoff

/-! ## The variables in use -/

/-- The manifest is selected in `after`, and without its variable the lists are the same. -/
structure Env.Selects (before after : Env) : Prop where
  selected : after.get? "ASDF_TOOL_VERSIONS_FILENAME" = some ".cf/tool-versions"
  others : after.erase "ASDF_TOOL_VERSIONS_FILENAME" = before.erase "ASDF_TOOL_VERSIONS_FILENAME"

theorem Env.selects_selectManifest (env : Env) : env.Selects env.selectManifest := by
  refine ⟨?_, ?_⟩
  · show env.selectManifest.get? manifestVariable = some manifestPath
    rw [Env.get?_selectManifest, if_pos rfl]
  · exact Table.erase_set env manifestVariable manifestPath

/-- The variables given separately, or else those of the process. -/
def envInUse (host : Host) (separate : Option Env) : Env := separate.getD host.env

theorem selects_envInUse (host : Host) (separate : Option Env) :
    (envInUse host separate).Selects
      (envInUse (host.selectManifest separate) (separate.map Env.selectManifest)) := by
  cases separate with
  | none => exact host.env.selects_selectManifest
  | some env => exact env.selects_selectManifest

/-! ## The preflight -/

theorem Host.exists_selectManifest (host : Host) (separate : Option Env) :
    ∃ env, host.selectManifest separate = { host with env } := by
  cases separate with
  | none => exact ⟨_, rfl⟩
  | some given => exact ⟨host.env, rfl⟩

namespace Invocation

variable {invocation : Invocation} {host : Host} {wrapper : Path} {place : Location}

/-- Once the launcher's file is located the manifest is selected, and whether the project root is
    then entered settles all that the preflight does to the host. -/
theorem preflight_of_located (h : locateWrapper host invocation.file = .ok wrapper) :
    let selected := host.selectManifest invocation.separateEnv
    (invocation.preflight host).separateEnv = invocation.separateEnv.map Env.selectManifest ∧
      (invocation.preflight host).host =
        match enterProjectRoot selected wrapper with
        | .ok (_, entered) => entered
        | .error _ => selected := by
  intro selected
  unfold preflight
  simp only [h]
  cases enterProjectRoot selected wrapper with
  | error failure => exact ⟨rfl, rfl⟩
  | ok moved =>
      obtain ⟨root, entered⟩ := moved
      simp only
      split <;> exact ⟨rfl, rfl⟩

theorem exists_host_preflight (invocation : Invocation) (host : Host) :
    ∃ cwd env, (invocation.preflight host).host = { host with cwd, env } := by
  obtain ⟨env, hselected⟩ := host.exists_selectManifest invocation.separateEnv
  obtain ⟨progress, hcomes⟩ := invocation.exists_comes host
  rw [hcomes.preflight_eq]
  rcases progress with failure | failure | ⟨wrapper, place, failure⟩ | ⟨wrapper, place⟩
  · exact ⟨host.cwd, host.env, rfl⟩
  · exact ⟨host.cwd, env, hselected⟩
  · refine ⟨some place, env, ?_⟩
    simp only [preflightAt, readyHost, hselected]
  · refine ⟨some place, env, ?_⟩
    simp only [preflightAt, readyHost, hselected]

end Invocation

/-! ## The hand-over -/

namespace Runner

variable (runner : Runner) (host : Host) (command : List String) (env : Option Env)
  (note : Option String)

/-- A call on a runner changes nothing on the host but the list of programs started. -/
theorem exists_host_run (directory : Option Path) :
    ∃ spawned, (runner.run host command directory env note).host = { host with spawned } := by
  cases runner <;> exact ⟨_, rfl⟩

theorem exists_host_replace :
    ∃ spawned, (runner.replace host command env note).host = { host with spawned } := by
  cases runner with
  | exec => exact ⟨_, rfl⟩
  | spawn => exact exists_host_run _ _ _ _ _ _
  | recording records =>
      unfold replace
      simp only
      split <;> exact ⟨_, rfl⟩
  | unimplemented => exact ⟨_, rfl⟩
  | scripted reply calls => cases reply <;> exact ⟨_, rfl⟩

end Runner

namespace Invocation

variable {invocation : Invocation} {host : Host} {wrapper : Path} {place : Location}

/-- After the preflight a launch changes nothing on the host but the list of programs started. -/
theorem exists_host_launch (invocation : Invocation) (host : Host) (runner : Runner) :
    ∃ spawned, (invocation.launch host runner).host =
      { (invocation.preflight host).host with spawned } := by
  simp only [launch, handOver]
  cases (invocation.preflight host).verdict with
  | error failure => exact ⟨_, rfl⟩
  | ok command => exact runner.exists_host_replace _ _ _ _

/-- Whatever comes after it, a launch that enters the project root ends there. -/
theorem EntersRoot.cwd?_launch (h : invocation.EntersRoot host wrapper place) (runner : Runner) :
    (invocation.launch host runner).host.cwd? = some place := by
  have hready : (invocation.preflight host).host = invocation.readyHost host place := by
    have hleads := (Host.leadsInto_selectManifest host invocation.separateEnv).2 h.enterable
    rw [(preflight_of_located (locateWrapper_eq_ok_iff.2 h.located)).2]
    simp only [h.enterProjectRoot_eq hleads, readyHost]
  obtain ⟨spawned, hhost⟩ := invocation.exists_host_launch host runner
  rw [hhost, hready]
  exact h.cwd?_readyHost

/-! ## The launch -/

theorem launch_of_lost {failure : Failure}
    (h : locateWrapper host invocation.file = .error failure) (runner : Runner) :
    (invocation.launch host runner).host = host ∧
      (invocation.launch host runner).separateEnv = invocation.separateEnv := by
  simp only [launch, handOver, (Comes.lost h).preflight_eq, preflightAt, and_self]

theorem launch_of_located (h : locateWrapper host invocation.file = .ok wrapper)
    (runner : Runner) :
    let report := invocation.launch host runner
    let selected := host.selectManifest invocation.separateEnv
    report.separateEnv = invocation.separateEnv.map Env.selectManifest ∧
      report.host.env = selected.env ∧
      (∀ failure, enterProjectRoot selected wrapper = .error failure →
        report.host.cwd = host.cwd) ∧
      ∀ root entered, enterProjectRoot selected wrapper = .ok (root, entered) →
        report.host.cwd = entered.cwd := by
  intro report selected
  obtain ⟨hseparate, hstage⟩ := preflight_of_located h
  obtain ⟨spawned, hhost⟩ := invocation.exists_host_launch host runner
  -- The hand-over touches neither the variables nor the directory.
  have henv : report.host.env = (invocation.preflight host).host.env := by
    simp only [report, hhost]
  have hcwd : report.host.cwd = (invocation.preflight host).host.cwd := by
    simp only [report, hhost]
  rw [henv, hcwd, hstage]
  refine ⟨hseparate, ?_, ?_, ?_⟩
  · split
    · next root entered henter =>
        obtain ⟨-, -, place, -, rfl⟩ := enterProjectRoot_eq_ok_iff.1 henter
        rfl
    · rfl
  · intro failure henter
    simp only [show enterProjectRoot (host.selectManifest _) wrapper = _ from henter]
    exact Host.cwd_selectManifest host _
  · intro root entered henter
    simp only [show enterProjectRoot (host.selectManifest _) wrapper = _ from henter]

/-- What a launch leaves behind, whatever runner it uses and however it ends. As long as the
    launcher's file is not located nothing has changed. Then the manifest is selected in the
    variables in use, and no other variable is touched. As long as the project root is not entered
    the current directory is the one before; then it is the place to which the root's path leads,
    and stays so. Variables of the process are left alone if others are given, and the rest of the
    host, its files above all, is as before, apart from the list of programs started. -/
theorem launch_effects (invocation : Invocation) (host : Host) (runner : Runner) :
    let report := invocation.launch host runner
    let selected := host.selectManifest invocation.separateEnv
    (∀ failure, locateWrapper host invocation.file = .error failure →
      report.host = host ∧ report.separateEnv = invocation.separateEnv) ∧
    (∀ wrapper, locateWrapper host invocation.file = .ok wrapper →
      (envInUse host invocation.separateEnv).Selects (envInUse report.host report.separateEnv) ∧
      (∀ failure, enterProjectRoot selected wrapper = .error failure →
        report.host.cwd = host.cwd) ∧
      (∀ root entered, enterProjectRoot selected wrapper = .ok (root, entered) →
        ∃ place, host.tree.resolve host.cwd? (projectRoot wrapper).text = .ok place ∧
          host.tree.Passable place ∧ report.host.cwd = some place ∧
          report.host.cwdText = .ok (Location.text place))) ∧
    report.separateEnv.isSome = invocation.separateEnv.isSome ∧
    (invocation.separateEnv.isSome = true → report.host.env = host.env) ∧
    report.host.tree = host.tree ∧
    ∃ cwd env spawned, report.host = { host with cwd, env, spawned } := by
  intro report selected
  obtain ⟨spawned, hhost⟩ := invocation.exists_host_launch host runner
  obtain ⟨cwd, env, hpreflight⟩ := invocation.exists_host_preflight host
  have hframe : report.host = { host with cwd, env, spawned } := by
    simp only [report, hhost, hpreflight]
  refine ⟨fun failure hlocate => launch_of_lost hlocate runner, ?_, ?_, ?_, ?_, ?_⟩
  · intro wrapper hlocate
    obtain ⟨hseparate, henv, houtside, hentered⟩ := launch_of_located hlocate runner
    refine ⟨?_, houtside, ?_⟩
    · have hinUse : envInUse report.host report.separateEnv =
          envInUse selected (invocation.separateEnv.map Env.selectManifest) := by
        simp only [envInUse, report, hseparate, henv, selected]
      rw [hinUse]
      exact selects_envInUse host invocation.separateEnv
    · intro root entered henter
      obtain ⟨rfl, -, place, hleads, hmoved⟩ := enterProjectRoot_eq_ok_iff.1 henter
      have henters : invocation.EntersRoot host wrapper place :=
        ⟨locateWrapper_eq_ok_iff.1 hlocate, (Host.leadsInto_selectManifest host _).1 hleads⟩
      refine ⟨place, henters.enterable.2.1, henters.enterable.2.2, ?_, ?_⟩
      · exact (hentered _ _ henter).trans (by rw [hmoved])
      · have hcwd : report.host.cwd? = some place := henters.cwd?_launch runner
        simp only [Host.cwdText, hcwd]
  · cases hlocate : locateWrapper host invocation.file with
    | error failure => rw [show report.separateEnv = _ from (launch_of_lost hlocate runner).2]
    | ok wrapper =>
        rw [show report.separateEnv = _ from (launch_of_located hlocate runner).1,
          Option.isSome_map]
  · intro hgiven
    obtain ⟨given, hgiven⟩ := Option.isSome_iff_exists.1 hgiven
    cases hlocate : locateWrapper host invocation.file with
    | error failure => rw [show report.host = host from (launch_of_lost hlocate runner).1]
    | ok wrapper =>
        rw [show report.host.env = _ from (launch_of_located hlocate runner).2.1, hgiven]
        rfl
  · rw [hframe]
  · exact ⟨cwd, env, spawned, hframe⟩

end Invocation

end Handoff
