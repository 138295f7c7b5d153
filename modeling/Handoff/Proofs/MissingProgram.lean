import Handoff.Proofs.Search
import Mathlib.Tactic.Choose

set_option autoImplicit false

/-! # A program that is nowhere

What a hand-over reports when no directory on the search path has the program. Every candidate is
then passed over with an error that counts as absence, so the search reports the last one
(`Host.launch_of_lacks`), and the exit status follows from what kind of absence that one was:
`invokeDelegate_of_lacks`. There are two kinds, and they lead to different statuses. A name that is
not there makes the program missing; a last entry that is no directory makes it a program that
cannot be run, although it is just as absent (`searchPath_order_matters`). -/

namespace Handoff

theorem searchDirectories_ne_nil (env : Env) : searchDirectories env ≠ [] :=
  Text.splitOn_ne_nil ':' _

namespace Host

variable {host : Host} {env : Env} {program : String} {arguments : List String}

/-- Nothing is there under the path: there is nothing with its name, or something on the way to it
    is no directory. -/
def Lacks (host : Host) (path : String) : Prop :=
  host.tree.resolve host.cwd? path = .error .missing ∨
    host.tree.resolve host.cwd? path = .error .notDirectory

instance (host : Host) (path : String) : Decidable (host.Lacks path) :=
  inferInstanceAs (Decidable (_ ∨ _))

theorem Lacks.exists_cause {path : String} (h : host.Lacks path) :
    ∃ cause, host.tree.resolve host.cwd? path = .error cause ∧
      (cause = .missing ∨ cause = .notDirectory) := by
  rcases h with hmissing | hdir
  · exact ⟨_, hmissing, .inl rfl⟩
  · exact ⟨_, hdir, .inr rfl⟩

/-- The search counts both as absence. -/
theorem isAbsence_ofWalk {cause : WalkError} (h : cause = .missing ∨ cause = .notDirectory)
    (path : String) : (SystemError.ofWalk cause path).isAbsence = true := by
  rcases h with rfl | rfl <;> rfl

/-- A program that no directory has is reported as the last directory lacks it. -/
theorem launch_of_lacks {directory : String} (hslash : Text.holds program '/' = false)
    (hfault : ∀ path ∈ candidates env program, imageFault? ⟨path, arguments, env⟩ = none)
    (hlacks : ∀ other ∈ searchDirectories env, host.Lacks (candidate other program))
    (hlast : (searchDirectories env).getLast? = some directory) :
    ∃ cause, host.tree.resolve host.cwd? (candidate directory program) = .error cause ∧
      (cause = .missing ∨ cause = .notDirectory) ∧
      host.launch program arguments env =
        .error (.system (.ofWalk cause (candidate directory program))) := by
  have hcandidates :
      candidates env program = (searchDirectories env).map (candidate · program) := by
    simp [candidates, hslash]
  have hcauses : ∀ path ∈ candidates env program, ∃ cause,
      host.tree.resolve host.cwd? path = .error cause ∧
        (cause = .missing ∨ cause = .notDirectory) := by
    intro path hpath
    obtain ⟨other, hother, rfl⟩ := List.mem_map.1 (hcandidates ▸ hpath)
    exact (hlacks other hother).exists_cause
  have : Nonempty WalkError := ⟨.missing⟩
  choose! cause hcause using hcauses
  have hmem : candidate directory program ∈ candidates env program := by
    rw [hcandidates]
    exact List.mem_map_of_mem (List.mem_of_getLast? hlast)
  obtain ⟨hresolve, hkind⟩ := hcause _ hmem
  refine ⟨cause (candidate directory program), hresolve, hkind, ?_⟩
  have hexecute : ∀ path ∈ candidates env program,
      host.execute ⟨path, arguments, env⟩ = .error (.system (.ofWalk (cause path) path)) := by
    intro path hpath
    exact execute_of_walk_error (hfault path hpath) (hcause path hpath).1
  have habsence : ∀ path ∈ candidates env program,
      (SystemError.ofWalk (cause path) path).isAbsence = true := by
    intro path hpath
    exact isAbsence_ofWalk (hcause path hpath).2 path
  unfold launch
  rw [tryEach_of_absences hexecute habsence, List.getLastD_eq_getLast?, List.getLast?_map,
    hcandidates, List.getLast?_map, hlast]
  rfl

end Host

/-- A hand-over to a program that no directory on the search path has. It is refused, and nothing on
    the host has changed. Neither the number of the directories nor their order matters, but for the
    last one: where nothing there has the name the program counts as missing, and where something on
    the way is no directory it counts as a program that cannot be run. -/
theorem invokeDelegate_of_lacks {host : Host} {command : DelegateCommand} {env : Option Env}
    {program : String} {rest : List String} (hwords : command.words = program :: rest)
    (hname : program ≠ "") (hslash : Text.holds program '/' = false)
    (hnull : ∀ word ∈ command.words, hasNull word = false)
    (hlegal : Env.Legal (Runner.mergedEnv host env))
    (hlacks : ∀ directory ∈ searchDirectories (Runner.mergedEnv host env),
      host.Lacks (candidate directory program)) :
    ∃ directory cause,
      (searchDirectories (Runner.mergedEnv host env)).getLast? = some directory ∧
      host.tree.resolve host.cwd? (candidate directory program) = .error cause ∧
      let refusal := .launchFailed command.script (.ofWalk cause (candidate directory program))
      invokeDelegate host command .exec env = ⟨.failed (.refusal refusal), host, .exec⟩ ∧
        refusal.category = .delegateLaunch ∧
        (cause = .missing ∧ refusal.exitStatus = 127 ∨
          cause = .notDirectory ∧ refusal.exitStatus = 126) := by
  have hlast := List.getLast?_eq_some_getLast
    (searchDirectories_ne_nil (Runner.mergedEnv host env))
  generalize List.getLast _ _ = directory at hlast
  have harguments : argumentsFault? command.words = none := by
    rw [hwords] at hnull ⊢
    exact argumentsFault?_eq_none hname hnull
  have hprogram : hasNull program = false := hnull program (by simp [hwords])
  have hfault : ∀ path ∈ candidates (Runner.mergedEnv host env) program,
      imageFault? ⟨path, command.words, Runner.mergedEnv host env⟩ = none := by
    intro path hpath
    exact imageFault?_eq_none_iff.2
      ⟨harguments, hlegal, hlegal.hasNull_candidates hprogram hpath⟩
  obtain ⟨cause, hresolve, hkind, hlaunch⟩ := Host.launch_of_lacks hslash hfault hlacks hlast
  refine ⟨directory, cause, hlast, hresolve, ?_, rfl, ?_⟩
  · rw [hwords] at hlaunch
    simp only [invokeDelegate, Runner.replace, Runner.replaceProcess, hwords, hlaunch]
    rfl
  · rcases hkind with rfl | rfl
    · exact .inl ⟨rfl, rfl⟩
    · exact .inr ⟨rfl, rfl⟩

/-- A host without a shell. The first directory on its search path is a file, the second is not
    there. -/
def shellless : Host where
  tree := Node.emptyDir.put (.file .all none) ["opt", "tool"]
  env := [("PATH", "/opt/tool:/bin")]

theorem shellless_missing :
    let command : DelegateCommand := ⟨some "bash", "./build.sh", ["all"]⟩
    let refusal := .launchFailed "./build.sh" (.ofWalk .missing "/bin/bash")
    shellless.Lacks "/opt/tool/bash" ∧ shellless.Lacks "/bin/bash" ∧
      (invokeDelegate shellless command .exec none).ending = .failed (.refusal refusal) ∧
      refusal.exitStatus = 127 := by
  intro command refusal
  have hlacks : ∀ directory ∈ searchDirectories (Runner.mergedEnv shellless none),
      shellless.Lacks (candidate directory "bash") := by
    decide +kernel
  have hdirectories : (searchDirectories (Runner.mergedEnv shellless none)).getLast? =
      some "/bin" := by
    decide +kernel
  have hmissing : shellless.tree.resolve shellless.cwd? (candidate "/bin" "bash") =
      .error .missing := by
    decide +kernel
  obtain ⟨directory, cause, hlast, hresolve, hinvoke, -, -⟩ :=
    @invokeDelegate_of_lacks shellless command none "bash" ["./build.sh", "all"] rfl (by decide)
      (by decide) (by decide) (by decide) hlacks
  obtain rfl : "/bin" = directory := Option.some.inj (hdirectories.symm.trans hlast)
  obtain rfl : WalkError.missing = cause := Except.error.inj (hmissing.symm.trans hresolve)
  exact ⟨by decide +kernel, by decide +kernel, congrArg Outcome.ending hinvoke, rfl⟩

/-- The same two directories in the other order: the program is just as absent, and the status is
    not the one for a missing program. -/
theorem searchPath_order_matters :
    let swapped := { shellless with env := [("PATH", "/bin:/opt/tool")] }
    let command : DelegateCommand := ⟨some "bash", "./build.sh", []⟩
    let refusal := .launchFailed "./build.sh" (.ofWalk .notDirectory "/opt/tool/bash")
    command.words.head? = some "bash" ∧ Text.holds "bash" '/' = false ∧
      (∀ word ∈ command.words, hasNull word = false) ∧
      Env.Legal (Runner.mergedEnv swapped none) ∧
      (∀ directory ∈ searchDirectories (Runner.mergedEnv swapped none),
        swapped.Lacks (candidate directory "bash")) ∧
      (invokeDelegate swapped command .exec none).ending = .failed (.refusal refusal) ∧
      refusal.exitStatus = 126 := by
  decide +kernel

end Handoff
