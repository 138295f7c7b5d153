import Handoff.Proofs.EscapingErrors
import Handoff.Session.Step

set_option autoImplicit false

/-! # Project roots that cannot be used

What comes of a request to enter a project root, whatever the launcher's path and wherever the
process stands. `Host.BarsRoot` lists the reasons for a refusal, and
`enterProjectRoot_eq_refusal_iff` says that there are no others. A root that cannot be looked at at
all is no reason among them: the error of the system is passed on
(`enterProjectRoot_eq_system_iff`), although the same error, met one step later by the change of
directory, is a refusal. `Session.enterProjectRoot_outcome` puts the cases together. -/

namespace Handoff

variable {host : Host} {wrapper : Path}

/-- Why a project root is refused: its path names nothing, or something that is no directory, or it
    leads to a directory that cannot be entered. -/
inductive Host.BarsRoot (host : Host) (root : Path) : Refusal → Prop
  | absent (h : host.NamesNothing root.text) : BarsRoot host root (.rootUnusable root)
  | noDirectory {node : Node} (h : host.Finds root.text node) (hdir : node.isDir = false) :
      BarsRoot host root (.rootUnusable root)
  | notEntered {node : Node} {error : SystemError} (h : host.Finds root.text node)
      (hdir : node.isDir = true) (herror : host.chdir root.text = .error error) :
      BarsRoot host root (.rootNotEntered root error)

/-- Every such reason is about the launcher's path. -/
theorem Host.BarsRoot.pathResolution {root : Path} {refusal : Refusal}
    (h : host.BarsRoot root refusal) :
    refusal.category = .pathResolution ∧ refusal.exitStatus = 72 := by
  cases h <;> exact ⟨rfl, rfl⟩

/-- An error that keeps a path from being looked at is about a directory that may not be passed
    through, or about a name that is too long. -/
theorem Host.CannotProbe.errno?_eq {text : String} {error : SystemError}
    (h : host.CannotProbe text error) : error.errno? = some 13 ∨ error.errno? = some 36 := by
  obtain ⟨-, cause, hmissing, hdir, hlinks, -, rfl⟩ := h
  cases cause with
  | missing => exact absurd rfl hmissing
  | notDirectory => exact absurd rfl hdir
  | tooManyLinks => exact absurd rfl hlinks
  | denied => exact .inl rfl
  | nameTooLong => exact .inr rfl

theorem enterProjectRoot_eq_system_iff {error : SystemError} :
    enterProjectRoot host wrapper = .error (.system error) ↔
      host.CannotProbe (projectRoot wrapper).text error := by
  rw [← Host.probe_eq_error_iff]
  unfold enterProjectRoot
  simp only
  constructor
  · intro h
    split at h
    · next hprobe =>
        cases h
        exact hprobe
    · split at h <;> exact absurd h (by simp)
    · exact absurd h (by simp)
  · intro hprobe
    simp only [hprobe]

theorem enterProjectRoot_eq_refusal_iff {refusal : Refusal} :
    enterProjectRoot host wrapper = .error (.refusal refusal) ↔
      host.BarsRoot (projectRoot wrapper) refusal := by
  unfold enterProjectRoot
  simp only
  constructor
  · intro h
    split at h
    · exact absurd h (by simp)
    · next mode children hprobe =>
        split at h
        · exact absurd h (by simp)
        · next error hchdir =>
            cases h
            exact .notEntered (Host.probe_eq_ok_some_iff.1 hprobe) rfl hchdir
    · next node? hother hprobe =>
        cases h
        cases node? with
        | none => exact .absent (Host.probe_eq_ok_none_iff.1 hprobe)
        | some node =>
            refine .noDirectory (Host.probe_eq_ok_some_iff.1 hprobe) ?_
            obtain ⟨kind, children⟩ := node
            cases kind with
            | dir mode => exact absurd rfl (hother mode children)
            | _ => rfl
  · intro h
    cases h with
    | absent hnothing => simp only [Host.probe_eq_ok_none_iff.2 hnothing]
    | @noDirectory node hfinds hdir =>
        obtain ⟨kind, children⟩ := node
        simp only [Host.probe_eq_ok_some_iff.2 hfinds]
        cases kind with
        | dir mode => exact absurd hdir (by simp [Node.isDir, Node.kind])
        | _ => rfl
    | @notEntered node error hfinds hdir herror =>
        obtain ⟨kind, children⟩ := node
        simp only [Host.probe_eq_ok_some_iff.2 hfinds]
        cases kind with
        | dir mode => simp only [herror]
        | _ => exact absurd hdir (by simp [Node.isDir, Node.kind])

theorem failure_of_enterProjectRoot {failure : Failure}
    (h : enterProjectRoot host wrapper = .error failure) :
    (∃ error, failure = .system error) ∨ ∃ refusal, failure = .refusal refusal := by
  unfold enterProjectRoot at h
  simp only at h
  split at h
  · cases h
    exact .inl ⟨_, rfl⟩
  · split at h
    · exact absurd h (by simp)
    · cases h
      exact .inr ⟨_, rfl⟩
  · cases h
    exact .inr ⟨_, rfl⟩

/-- A request to enter a project root, in all cases. As long as it can be found out what the root's
    path names, there are two: the process moves to the place of the directory to which the path
    leads and the root's path is given back, or the root is refused with the status 72 and nothing
    has changed. Where it cannot be found out, because a directory on the way may not be passed
    through or a name is too long, nothing has changed either, but the error of the system is passed
    on and is no refusal. -/
theorem Session.enterProjectRoot_outcome (session : Session) (wrapper : Path) :
    let host := session.host
    let root := projectRoot wrapper
    let result := session.step (.enterProjectRoot wrapper)
    ((∀ error, ¬ host.CannotProbe root.text error) →
      (∃ place, hasNull root.text = false ∧ host.LeadsInto root place ∧
        result = (.entered (.returned root) ⟨some (Location.text place), host.env⟩,
          { session with host := { host with cwd := some place } })) ∨
      ∃ refusal, host.BarsRoot root refusal ∧ refusal.category = .pathResolution ∧
        refusal.exitStatus = 72 ∧
        result = (.entered (.failed (.refusal refusal)) host.processState, session)) ∧
    ∀ error, host.CannotProbe root.text error →
      (error.errno? = some 13 ∨ error.errno? = some 36) ∧
        result = (.entered (.failed (.system error)) host.processState, session) := by
  intro host root result
  have hfailed : ∀ failure, enterProjectRoot host wrapper = .error failure →
      result = (.entered (.failed failure) host.processState, session) := by
    intro failure h
    simp only [result, step, show enterProjectRoot session.host wrapper = _ from h]
    rfl
  constructor
  · intro hprobe
    cases henter : enterProjectRoot host wrapper with
    | ok moved =>
        obtain ⟨found, entered⟩ := moved
        obtain ⟨rfl, hnull, place, hleads, rfl⟩ := enterProjectRoot_eq_ok_iff.1 henter
        refine .inl ⟨place, hnull, hleads, ?_⟩
        have hcwd : ({ host with cwd := some place } : Host).cwd? = some place :=
          Host.cwd?_of_passable rfl hleads.2.2
        simp only [result, step, show enterProjectRoot session.host wrapper = _ from henter,
          Host.processState, hcwd]
        rfl
    | error failure =>
        rcases failure_of_enterProjectRoot henter with ⟨error, rfl⟩ | ⟨refusal, rfl⟩
        · exact absurd (enterProjectRoot_eq_system_iff.1 henter) (hprobe error)
        · have hbars := enterProjectRoot_eq_refusal_iff.1 henter
          exact .inr ⟨refusal, hbars, hbars.pathResolution.1, hbars.pathResolution.2,
            hfailed _ henter⟩
  · intro error hcannot
    exact ⟨hcannot.errno?_eq, hfailed _ (enterProjectRoot_eq_system_iff.2 hcannot)⟩

/-- A project in a directory that may not be passed through. -/
def vaultedProject : Host where
  tree := (Node.emptyDir.put (.file .all none) ["vault", "project", ".cf", "build.py"]).put
    (.dir ⟨true, true, false⟩) ["vault"]
  cwd := some []

/-- The directory itself is refused as a project root; a project in it is not. -/
theorem vaultedProject_escapes :
    let session : Session := ⟨vaultedProject, .exec⟩
    let state : ProcessState := ⟨some "/", []⟩
    session.host.processState = state ∧
      (session.step (.enterProjectRoot (.ofText "/vault/project/.cf/build.py"))).1 =
        .entered (.failed (.system (.ofWalk .denied "/vault/project"))) state ∧
      (session.step (.enterProjectRoot (.ofText "/vault/project/build.py"))).1 =
        .entered (.failed (.refusal (.rootNotEntered (.ofText "/vault")
          (.ofWalk .denied "/vault")))) state := by
  decide +kernel

end Handoff
