import Handoff.Proofs.ExitStatus

set_option autoImplicit false

/-! # Errors of the system that escape

An error of the system rarely ends a launch as it is. One that says that a path names nothing is
taken for an answer, and one that keeps the project root from being entered, or the delegate from
being launched, becomes a refusal. `escaping_error_iff` says which ones are left: the launcher's
path cannot be told, or it cannot be found out whether the launcher's file, or the delegate, is
there (`Host.CannotProbe`).

The project root is looked at in the same way as the two files, and an error of its own could escape
there. None does, because the walk to the launcher's file has passed through it already
(`Host.Locates.exists_dir`). -/

namespace Handoff

namespace Host

variable {host : Host} {text : String} {error : SystemError}

/-- It cannot be found out whether the path names something: the walk along it fails, and not with
    one of the errors that say that there is nothing. -/
def CannotProbe (host : Host) (text : String) (error : SystemError) : Prop :=
  hasNull text = false ∧
    ∃ cause : WalkError, cause ≠ .missing ∧ cause ≠ .notDirectory ∧ cause ≠ .tooManyLinks ∧
      host.tree.resolve host.cwd? text = .error cause ∧ error = .ofWalk cause text

theorem lookup_eq_walk_error_iff {cause : WalkError} :
    host.lookup text = .error (.walk cause) ↔
      hasNull text = false ∧ host.tree.resolve host.cwd? text = .error cause := by
  unfold lookup
  cases hasNull text with
  | true => simp
  | false => cases host.tree.resolve host.cwd? text <;> simp [Except.mapError]

theorem probe_eq_error_iff : host.probe text = .error error ↔ host.CannotProbe text error := by
  constructor
  · intro h
    unfold probe at h
    split at h
    · exact absurd h (by simp)
    · exact absurd h (by simp)
    · next cause hlook =>
        split_ifs at h with habsence
        cases h
        rw [isAbsence_iff, not_or, not_or] at habsence
        obtain ⟨hmissing, hdir, hlinks⟩ := habsence
        obtain ⟨hnull, hresolve⟩ := lookup_eq_walk_error_iff.1 hlook
        exact ⟨hnull, cause, hmissing, hdir, hlinks, hresolve, rfl⟩
  · rintro ⟨hnull, cause, hmissing, hdir, hlinks, hresolve, rfl⟩
    have hlook := lookup_eq_walk_error_iff.2 ⟨hnull, hresolve⟩
    have habsence : ¬ cause.isAbsence = true := by
      rw [isAbsence_iff]
      simp [hmissing, hdir, hlinks]
    simp [probe, hlook, habsence]

end Host

/-! ## The stages -/

theorem locateWrapper_eq_system_iff {host : Host} {file : Option String} {error : SystemError} :
    locateWrapper host file = .error (.system error) ↔
      (∃ name, file.or host.wrapperFile? = some name ∧ host.absolute name = .error error) ∨
      ∃ name wrapper, file.or host.wrapperFile? = some name ∧ host.absolute name = .ok wrapper ∧
        host.CannotProbe wrapper.text error := by
  unfold locateWrapper
  cases file.or host.wrapperFile? with
  | none => simp
  | some name =>
      cases habs : host.absolute name with
      | error error => simp [habs]
      | ok wrapper =>
          simp only [← Host.probe_eq_error_iff]
          cases hprobe : host.probe wrapper.text with
          | error error => simp [habs, hprobe]
          | ok node? => cases node? <;> simp [habs, hprobe]

theorem resolveDelegate_eq_system_iff {host : Host} {root : Path} {settings : Settings}
    {error : SystemError} :
    resolveDelegate host root settings = .error (.system error) ↔
      host.CannotProbe (root.join (.ofText settings.delegate)).text error := by
  rw [← Host.probe_eq_error_iff]
  unfold resolveDelegate
  simp only
  constructor
  · intro h
    split at h
    · next hprobe =>
        cases h
        exact hprobe
    · exact absurd h (by simp)
    · split at h
      · exact absurd h (by simp)
      · exact absurd h (by simp)
    · exact absurd h (by simp)
  · intro h
    simp only [h]

namespace Invocation

variable {invocation : Invocation} {host : Host} {wrapper : Path} {place : Location}

/-- Once the project root was entered, the verdict is left to the delegate's stage. -/
theorem EntersRoot.verdict_eq_error_iff (h : invocation.EntersRoot host wrapper place)
    {failure : Failure} :
    (invocation.preflight host).verdict = .error failure ↔
      resolveDelegate { host with cwd := some place } (projectRoot wrapper)
        (invocation.settingsOn host) = .error failure := by
  cases hresolve : resolveDelegate { host with cwd := some place } (projectRoot wrapper)
      (invocation.settingsOn host) with
  | error other =>
      rw [(Comes.stopped h hresolve).preflight_eq]
      simp [preflightAt]
  | ok script =>
      obtain ⟨rfl, hcan⟩ := resolveDelegate_eq_ok_iff.1 hresolve
      rw [(Comes.ready ⟨h.located, h.enterable, hcan⟩).preflight_eq]
      simp [preflightAt]

/-- The errors of the system that a launch ends with are those of its preflight. -/
theorem ending_eq_system_iff {error : SystemError} :
    (invocation.launch host .exec).ending = .failed (.system error) ↔
      (invocation.preflight host).verdict = .error (.system error) := by
  constructor
  · intro h
    rcases invocation.ending_cases host with ⟨failure, hverdict⟩ | ⟨image, hended⟩ |
      ⟨wrapper, place, cause, hfails⟩ | ⟨reason, hended⟩
    · rw [ending_of_verdict hverdict] at h
      rcases failure_of_verdict hverdict with ⟨cause, rfl⟩ | ⟨refusal, rfl⟩
      · cases h
        exact hverdict
      · exact absurd h (by simp [conclude])
    · exact absurd (hended.symm.trans h) (by simp)
    · -- What the system says to the hand-over has become a status.
      exact absurd (hfails.ending.symm.trans h) (by simp)
    · exact absurd (hended.symm.trans h) (by simp)
  · intro hverdict
    rw [ending_of_verdict hverdict]
    rfl

/-- The errors of the system that escape from a launch which replaces the process. There are three
    ways out: the launcher's file is named by a relative path and the current directory is gone; it
    cannot be found out whether the launcher's file is there; or, once the project root was entered,
    whether the delegate is there. No error escapes while the project root is looked at and entered,
    nor once the delegate was looked at: neither from the search for the interpreter, nor from the
    permissions of the delegate, nor from the hand-over. -/
theorem escaping_error_iff (invocation : Invocation) (host : Host) (error : SystemError) :
    ((invocation.launch host .exec).ending = .failed (.system error) ↔
      (∃ name, invocation.file.or host.wrapperFile? = some name ∧
        (Path.ofText name).isAbsolute = false ∧ host.cwd? = none ∧ error = .ofErrno 2 none) ∨
      (∃ name wrapper, invocation.file.or host.wrapperFile? = some name ∧
        host.absolute name = .ok wrapper ∧ host.CannotProbe wrapper.text error) ∨
      ∃ wrapper place, invocation.EntersRoot host wrapper place ∧
        { host with cwd := some place }.CannotProbe (invocation.scriptPath host wrapper).text
          error) ∧
    (∀ wrapper, host.Locates invocation.file wrapper →
      let selected := host.selectManifest invocation.separateEnv
      selected.probe (projectRoot wrapper).text ≠ .error error ∧
        enterProjectRoot selected wrapper ≠ .error (.system error)) ∧
    (∀ wrapper place found, invocation.EntersRoot host wrapper place →
      { host with cwd := some place }.probe (invocation.scriptPath host wrapper).text = .ok found →
      (invocation.launch host .exec).ending ≠ .failed (.system error)) := by
  refine ⟨?_, ?_, ?_⟩
  · rw [ending_eq_system_iff, verdict_eq_error_iff]
    simp only [locateWrapper_eq_system_iff, Host.absolute_eq_error_iff,
      resolveDelegate_eq_system_iff, reduceCtorEq, and_false, exists_false, false_or, or_assoc]
    rfl
  · intro wrapper hlocated selected
    have hselected : selected.Locates invocation.file wrapper :=
      (Host.locates_selectManifest host _).2 hlocated
    obtain ⟨place, mode, children, hlook, hdir⟩ := hselected.exists_dir
    have hprobe := Host.probe_eq_ok_some_iff.2 ⟨place, hlook, hdir⟩
    constructor
    · intro herror
      exact absurd (hprobe.symm.trans herror) (by simp)
    · intro hfailed
      obtain ⟨cause, -, hrefusal⟩ := (enterProjectRoot_eq_error_iff hselected).1 hfailed
      exact absurd hrefusal (by simp)
  · intro wrapper place found hentered hprobe hended
    have hverdict := ending_eq_system_iff.1 hended
    have hresolve := hentered.verdict_eq_error_iff.1 hverdict
    have hcannot := resolveDelegate_eq_system_iff.1 hresolve
    exact absurd (hprobe.symm.trans (Host.probe_eq_error_iff.2 hcannot)) (by simp)

/-- A host on which two directories of the project may not be passed through. -/
def lockedHost : Host :=
  { linkedHost with
    tree := ((linkedHost.tree.put (.file .all none) ["srv", "ci", "build.sh"]).put
      (.dir ⟨true, true, false⟩) ["srv", "ci"]).put (.dir ⟨true, true, false⟩) ["srv", ".cf"] }

-- Each of the three ways out is taken.
example : (launch { file := some "srv/build.sh" } { linkedHost with cwd := none } .exec).ending =
    .failed (.system (.ofErrno 2 none)) := by
  decide +kernel
example : (launch { file := some "project/.cf/build.py" } lockedHost .exec).ending =
    .failed (.system (.ofWalk .denied "/home/project/.cf/build.py")) := by
  decide +kernel
example : (launch { file := some "/srv/ci", settings := some { delegate := "srv/ci/build.sh" } }
    lockedHost .exec).ending = .failed (.system (.ofWalk .denied "/srv/ci/build.sh")) := by
  decide +kernel

end Invocation

end Handoff
