import Handoff.Proofs.MissingProgram
import Mathlib.Data.List.Forall2

set_option autoImplicit false

/-! # What a launch finds along the search path

A launch tries every path under which the program may be found, and each of them has one of two
ends: the process becomes the file (`Host.Executable`), or the system says what is wrong with it
(`Host.FailsWith`). `Runner.replace_exec_search` says what the launch makes of these ends, whatever
directories are listed and in whatever order. The first file that can be executed wins; if there is
none, one of the errors is reported (`Reports`), by its kind and its place in the list. Nothing on
the host changes, and no value comes back. -/

namespace Handoff

/-! ## The error of one path -/

namespace Host

/-- The system answers the request to execute the file under the path with this error: there is no
    way to it, it is no regular file that may be executed, or its launch fails. -/
inductive FailsWith (host : Host) (path : String) : SystemError → Prop
  | walk {cause : WalkError} (hwalk : host.tree.resolve host.cwd? path = .error cause) :
      FailsWith host path (.ofWalk cause path)
  | barred {place : Location} (hwalk : host.tree.resolve host.cwd? path = .ok place)
      (hbarred : ∀ mode fault children,
        host.tree.at? place = some ⟨.file mode fault, children⟩ → mode.execute = false) :
      FailsWith host path (.ofWalk .denied path)
  | faulty {place : Location} {mode : Mode} {errno : Int} {children : List (String × Node)}
      (hwalk : host.tree.resolve host.cwd? path = .ok place)
      (hfile : host.tree.at? place = some ⟨.file mode (some errno), children⟩)
      (hx : mode.execute = true) :
      FailsWith host path (.ofErrno errno (some path))

variable {host : Host} {path : String} {image : Image} {error : SystemError}

/-- A request that can be passed on is answered with the error of its path. -/
theorem execute_eq_error_iff (hfault : imageFault? image = none) :
    host.execute image = .error (.system error) ↔ host.FailsWith image.path error := by
  unfold execute
  simp only [hfault]
  constructor
  · intro h
    split at h
    · next cause hwalk =>
        cases h
        exact .walk hwalk
    · next place hwalk =>
        split at h
        · next mode fault children hfile =>
            split_ifs at h with hx
            · cases h
              refine .barred hwalk fun other _ _ hother => ?_
              cases hfile.symm.trans hother
              simpa using hx
            · split at h
              · cases h
                exact .faulty hwalk hfile (by simpa using hx)
              · exact absurd h (by simp)
        · next hother =>
            cases h
            exact .barred hwalk fun mode fault children hfile =>
              absurd hfile (hother mode fault children)
  · intro h
    cases h with
    | walk hwalk => simp only [hwalk]
    | barred hwalk hbarred =>
        simp only [hwalk]
        split
        · next mode fault children hfile => simp [hbarred mode fault children hfile]
        · rfl
    | faulty hwalk hfile hx => simp [hwalk, hfile, hx]

end Host

/-! ## The error of the search -/

/-- The error that is reported when all paths fail, with `errors` in order: the first one that says
    more than that nothing is there, and without such an error the last. -/
def Reports (errors : List SystemError) (reported : SystemError) : Prop :=
  (∃ before after, errors = before ++ reported :: after ∧
      (∀ error ∈ before, error.kind = .notFound ∨ error.kind = .notDirectory) ∧
      reported.kind ≠ .notFound ∧ reported.kind ≠ .notDirectory) ∨
    (∀ error ∈ errors, error.kind = .notFound ∨ error.kind = .notDirectory) ∧
      errors.getLast? = some reported

theorem SystemError.isAbsence_iff {error : SystemError} :
    error.isAbsence = true ↔ error.kind = .notFound ∨ error.kind = .notDirectory := by
  simp [isAbsence]

/-- What the search has saved counts, and otherwise the last error. -/
theorem reports_of_find? {errors : List SystemError} (hne : errors ≠ []) (last : SystemError) :
    Reports errors ((errors.find? fun error => !error.isAbsence).getD (errors.getLastD last)) := by
  cases hfind : errors.find? fun error => !error.isAbsence with
  | some reported =>
      obtain ⟨hreported, before, after, hsplit, hbefore⟩ :=
        List.find?_eq_some_iff_append.1 hfind
      refine .inl ⟨before, after, hsplit, fun error hmem => ?_, ?_⟩
      · exact SystemError.isAbsence_iff.1 (by simpa using hbefore error hmem)
      · simpa [SystemError.isAbsence] using hreported
  | none =>
      refine .inr ⟨fun error hmem => ?_, ?_⟩
      · exact SystemError.isAbsence_iff.1 (by simpa using List.find?_eq_none.1 hfind error hmem)
      · rw [Option.getD_none, List.getLastD_eq_getLast?, List.getLast?_eq_some_getLast hne]
        rfl

namespace Host

variable {host : Host} {arguments : List String} {env : Env} {paths : List String}

/-- A search along paths that can all be passed on. -/
theorem tryEach_cases (hne : paths ≠ [])
    (hfault : ∀ path ∈ paths, imageFault? ⟨path, arguments, env⟩ = none) (last : SystemError) :
    (∃ skipped path others, paths = skipped ++ path :: others ∧
      (∀ other ∈ skipped, ¬ host.Executable other) ∧ host.Executable path ∧
      host.tryEach arguments env none last paths = .ok ⟨path, arguments, env⟩) ∨
    (∀ path ∈ paths, ¬ host.Executable path) ∧
      ∃ errors reported, List.Forall₂ host.FailsWith paths errors ∧ Reports errors reported ∧
        host.tryEach arguments env none last paths = .error (.system reported) := by
  classical
  cases hfirst : paths.find? fun path => decide (host.Executable path) with
  | some path =>
      obtain ⟨hpath, skipped, others, rfl, hskipped⟩ := List.find?_eq_some_iff_append.1 hfirst
      have hskipped' : ∀ other ∈ skipped, ¬ host.Executable other := by
        intro other hmem
        simpa using hskipped other hmem
      have hexec : host.Executable path := by simpa using hpath
      exact .inl ⟨skipped, path, others, rfl, hskipped', hexec,
        tryEach_of_executable hfault hskipped' hexec⟩
  | none =>
      have hbarred : ∀ path ∈ paths, ¬ host.Executable path := by
        intro path hmem
        simpa using List.find?_eq_none.1 hfirst path hmem
      refine .inr ⟨hbarred, ?_⟩
      have herrors : ∀ path ∈ paths, ∃ error,
          host.execute ⟨path, arguments, env⟩ = .error (.system error) :=
        fun path hmem => exists_error_of_not_executable (hfault path hmem) (hbarred path hmem)
      have : Nonempty SystemError := ⟨last⟩
      choose! reason hreason using herrors
      refine ⟨paths.map reason, _, ?_, reports_of_find? (by simpa using hne) last, ?_⟩
      · rw [List.forall₂_map_right_iff, List.forall₂_same]
        intro path hmem
        exact (execute_eq_error_iff (hfault path hmem)).1 (hreason path hmem)
      · rw [tryEach_of_errors hreason, Option.none_or]

end Host

/-! ## The search of the runner that replaces the process -/

namespace Runner

theorem get?_mergedEnv (host : Host) (env : Option Env) (name : String) :
    (mergedEnv host env).get? name =
      (env.bind (Table.get? · name)).or (host.env.get? name) := by
  unfold mergedEnv
  rw [Table.get?_overlay]
  cases env <;> rfl

variable {host : Host} {env : Option Env} {program : String} {rest : List String}

/-- What the runner that replaces the process does with a command that names its program without a
    slash, and that can be passed on with its variables. The variables of the process are overridden
    by those of the command, and list the directories to search. The first path in their order that
    leads to a regular file which may be executed, and whose launch does not fail, becomes the
    process, with the words of the command and these variables. Without any such path every path has
    its own error, and one of them is reported. The host and the runner are left as they were. -/
theorem replace_exec_search (hname : program ≠ "") (hslash : Text.holds program '/' = false)
    (hnull : ∀ word ∈ program :: rest, hasNull word = false)
    (hlegal : Env.Legal (mergedEnv host env)) (note : Option String) :
    let merged := mergedEnv host env
    let listed := ((env.bind (Table.get? · "PATH")).or (host.env.get? "PATH")).getD "/bin:/usr/bin"
    let paths := (Text.splitOn ':' listed).map (candidate · program)
    (∀ name, merged.get? name = (env.bind (Table.get? · name)).or (host.env.get? name)) ∧
    ∃ ending, Runner.exec.replace host (program :: rest) env note = ⟨ending, host, .exec⟩ ∧
      ((∃ skipped path others, paths = skipped ++ path :: others ∧
        (∀ other ∈ skipped, ¬ host.Executable other) ∧ host.Executable path ∧
        ending = .replaced ⟨path, program :: rest, merged⟩) ∨
      (∀ path ∈ paths, ¬ host.Executable path) ∧
        ∃ errors reported, List.Forall₂ host.FailsWith paths errors ∧ Reports errors reported ∧
          ending = .failed (.system reported)) := by
  intro merged listed paths
  refine ⟨get?_mergedEnv host env, _, rfl, ?_⟩
  have hcandidates : candidates merged program = paths := by
    simp only [candidates, hslash, searchDirectories, merged, get?_mergedEnv]
    rfl
  have hne : paths ≠ [] := by
    simpa [paths] using Text.splitOn_ne_nil ':' listed
  have hfault : ∀ path ∈ paths, imageFault? ⟨path, program :: rest, merged⟩ = none := by
    intro path hmem
    exact imageFault?_eq_none_iff.2 ⟨argumentsFault?_eq_none hname hnull, hlegal,
      hlegal.hasNull_candidates (hnull program List.mem_cons_self) (hcandidates ▸ hmem)⟩
  have hlaunch : host.launch program (program :: rest) (mergedEnv host env) =
      host.tryEach (program :: rest) merged none (.ofWalk .missing program) paths := by
    rw [← hcandidates]
    rfl
  rcases Host.tryEach_cases hne hfault (.ofWalk .missing program) with
    ⟨skipped, path, others, hsplit, hskipped, hexec, htry⟩ |
    ⟨hbarred, errors, reported, hfails, hreports, htry⟩
  · refine .inl ⟨skipped, path, others, hsplit, hskipped, hexec, ?_⟩
    simp only [replaceProcess, hlaunch, htry]
  · refine .inr ⟨hbarred, errors, reported, hfails, hreports, ?_⟩
    simp only [replaceProcess, hlaunch, htry, CallError.toFailure]

/-- A host with many things under one name: a file that may not be executed, a file on the way, a
    program that the system cannot load, and one that runs. -/
def toolHost : Host where
  tree :=
    (((Node.emptyDir.put (.file ⟨true, true, false⟩ none) ["opt", "make"]).put
      (.file .all none) ["srv", "tool"]).put (.file .all (some 8)) ["sbin", "make"]).put
      (.file .all none) ["usr", "bin", "make"]
  env := [("PATH", "/bin"), ("HOME", "/root")]

/-- The program that runs is found behind the others, which are passed over. Without it the first
    error that is more than absence is reported, which is neither the first of all nor the last. -/
theorem toolHost_search :
    let found := Runner.exec.replace toolHost ["make", "all"]
      (some [("PATH", "/gone:/opt:/srv/tool:/sbin:/usr/bin")]) none
    let lost := Runner.exec.replace toolHost ["make", "all"]
      (some [("PATH", "/gone:/opt:/srv/tool:/sbin:")]) none
    (∃ skipped others,
      ["/gone/make", "/opt/make", "/srv/tool/make", "/sbin/make", "/usr/bin/make"] =
        skipped ++ "/usr/bin/make" :: others ∧
      (∀ other ∈ skipped, ¬ toolHost.Executable other) ∧
      found.ending = .replaced ⟨"/usr/bin/make", ["make", "all"],
        [("PATH", "/gone:/opt:/srv/tool:/sbin:/usr/bin"), ("HOME", "/root")]⟩) ∧
    ∃ errors,
      List.Forall₂ toolHost.FailsWith
        ["/gone/make", "/opt/make", "/srv/tool/make", "/sbin/make", "make"] errors ∧
      Reports errors (.ofWalk .denied "/opt/make") ∧
      lost.ending = .failed (.system (.ofWalk .denied "/opt/make")) := by
  intro found lost
  constructor
  · have hended : found.ending = .replaced ⟨"/usr/bin/make", ["make", "all"],
        [("PATH", "/gone:/opt:/srv/tool:/sbin:/usr/bin"), ("HOME", "/root")]⟩ := by
      decide +kernel
    obtain ⟨-, ending, hreplace, hcases⟩ := @replace_exec_search toolHost
      (some [("PATH", "/gone:/opt:/srv/tool:/sbin:/usr/bin")]) "make" ["all"]
      (by decide) (by decide) (by decide) (by decide) none
    obtain rfl : found.ending = ending := congrArg Outcome.ending hreplace
    rw [hended] at hcases
    rcases hcases with ⟨skipped, path, others, hsplit, hskipped, -, hpath⟩ |
      ⟨-, errors, reported, -, -, hfailed⟩
    · cases hpath
      exact ⟨skipped, others, Eq.trans (by decide +kernel) hsplit, hskipped, hended⟩
    · exact absurd hfailed (by simp)
  · have hended : lost.ending = .failed (.system (.ofWalk .denied "/opt/make")) := by
      decide +kernel
    obtain ⟨-, ending, hreplace, hcases⟩ := @replace_exec_search toolHost
      (some [("PATH", "/gone:/opt:/srv/tool:/sbin:")]) "make" ["all"]
      (by decide) (by decide) (by decide) (by decide) none
    obtain rfl : lost.ending = ending := congrArg Outcome.ending hreplace
    rw [hended] at hcases
    rcases hcases with ⟨skipped, path, others, -, -, -, hreplaced⟩ |
      ⟨-, errors, reported, hfails, hreports, hfailed⟩
    · exact absurd hreplaced (by simp)
    · cases hfailed
      exact ⟨errors, hfails, hreports, hended⟩

end Runner

end Handoff
