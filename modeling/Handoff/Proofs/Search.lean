import Handoff.Proofs.Stages

set_option autoImplicit false

/-! # Finding a program

There are two searches along the search path: `Host.which` looks at every candidate, `Host.launch`
tries every candidate. What the second makes of a candidate is settled by `Host.Executable`
(`execute_of_executable`, `exists_error_of_not_executable`); a candidate that is not executable is
passed over, whatever is wrong with it. Since the first search passes over fewer candidates, the two
agree where the first finds an executable file: `launch_of_which`. -/

namespace Handoff

/-- Every variable can be passed on to a program. -/
def Env.Legal (env : Env) : Prop := ∀ entry ∈ env, variableFault? entry.1 entry.2 = none

instance (env : Env) : Decidable env.Legal :=
  inferInstanceAs (Decidable (∀ entry ∈ env, variableFault? entry.1 entry.2 = none))

theorem imageFault?_eq_none_iff {image : Image} :
    imageFault? image = none ↔
      argumentsFault? image.arguments = none ∧ Env.Legal image.env ∧
        hasNull image.path = false := by
  simp [imageFault?, Env.Legal, Option.or_eq_none_iff, List.findSome?_eq_none_iff]

theorem argumentsFault?_eq_none {program : String} {rest : List String} (hname : program ≠ "")
    (h : ∀ word ∈ program :: rest, hasNull word = false) :
    argumentsFault? (program :: rest) = none := by
  have hnull : (program :: rest).any hasNull = false := by simpa using h
  simp only [argumentsFault?, hnull, hname, Bool.false_eq_true, if_false]

theorem Env.Legal.set {env : Env} (h : env.Legal) {name value : String}
    (hnew : variableFault? name value = none) : Env.Legal (env.set name value) := by
  induction env with
  | nil => simpa [Env.Legal, Table.set] using hnew
  | cons entry rest ih =>
      obtain ⟨key, old⟩ := entry
      obtain ⟨hfirst, hrest⟩ := List.forall_mem_cons.1 h
      unfold Table.set
      split_ifs with hkey
      · subst hkey
        exact List.forall_mem_cons.2 ⟨hnew, hrest⟩
      · exact List.forall_mem_cons.2 ⟨hfirst, ih hrest⟩

/-! ## Candidates -/

theorem hasNull_candidate {directory name : String} :
    hasNull (candidate directory name) = false ↔
      hasNull directory = false ∧ hasNull name = false := by
  have hslash : hasNull "/" = false := by decide
  have hempty : hasNull "" = false := by decide
  unfold candidate
  split_ifs with hdir
  · simp [hdir, hempty]
  · exact hasNull_append directory name
  · rw [hasNull_append, hasNull_append]
    simp [hslash]

theorem Env.Legal.hasNull_value {env : Env} (h : env.Legal) {name value : String}
    (hget : env.get? name = some value) : hasNull value = false := by
  have hfault := h _ (Table.mem_of_get? hget)
  unfold variableFault? at hfault
  cases hnull : hasNull value with
  | false => rfl
  | true => simp [hnull] at hfault

/-- The directories that legal variables list can be passed on. -/
theorem Env.Legal.hasNull_directory {env : Env} (h : env.Legal) {directory : String}
    (hdir : directory ∈ searchDirectories env) : hasNull directory = false := by
  have hlist : hasNull ((env.get? searchPathName).getD defaultSearchPath) = false := by
    cases hget : env.get? searchPathName with
    | none => decide
    | some value => exact h.hasNull_value hget
  rw [hasNull_eq_false_iff] at hlist ⊢
  intro hmem
  exact hlist ((Text.mem_splitOn (by decide) _).2 ⟨directory, hdir, hmem⟩)

/-- The name is a part of each candidate. -/
theorem hasNull_of_mem_candidates {env : Env} {name path : String}
    (hmem : path ∈ candidates env name) (hpath : hasNull path = false) : hasNull name = false := by
  unfold candidates at hmem
  split_ifs at hmem
  · rw [List.mem_singleton] at hmem
    exact hmem ▸ hpath
  · obtain ⟨directory, -, rfl⟩ := List.mem_map.1 hmem
    exact (hasNull_candidate.1 hpath).2

theorem Env.Legal.hasNull_candidates {env : Env} (h : env.Legal) {name path : String}
    (hname : hasNull name = false) (hmem : path ∈ candidates env name) : hasNull path = false := by
  unfold candidates at hmem
  split_ifs at hmem
  · rw [List.mem_singleton] at hmem
    exact hmem ▸ hname
  · obtain ⟨directory, hdir, rfl⟩ := List.mem_map.1 hmem
    exact hasNull_candidate.2 ⟨h.hasNull_directory hdir, hname⟩

namespace Host

variable {host : Host} {path name : String} {image result : Image}

/-! ## Trying a candidate -/

/-- The path names a regular file that may be executed and whose launch does not fail. -/
def Executable (host : Host) (path : String) : Prop :=
  ∃ place mode children, host.lookup path = .ok place ∧
    host.tree.at? place = some ⟨.file mode none, children⟩ ∧ mode.execute = true

theorem execute_of_executable (hfault : imageFault? image = none)
    (h : host.Executable image.path) : host.execute image = .ok image := by
  obtain ⟨place, mode, children, hlook, hnode, hx⟩ := h
  unfold execute
  simp [hfault, (lookup_eq_ok_iff.1 hlook).2, hnode, hx]

/-- Whatever is wrong with a candidate that is not executable, the system says so. -/
theorem exists_error_of_not_executable (hfault : imageFault? image = none)
    (h : ¬ host.Executable image.path) : ∃ error, host.execute image = .error (.system error) := by
  unfold execute
  simp only [hfault]
  split
  · exact ⟨_, rfl⟩
  · next place hresolve =>
      split
      · next mode fault children hnode =>
          split_ifs with hx
          · exact ⟨_, rfl⟩
          · split
            · exact ⟨_, rfl⟩
            · refine absurd ⟨place, mode, children, ?_, hnode, by simpa using hx⟩ h
              exact lookup_eq_ok_iff.2 ⟨(imageFault?_eq_none_iff.1 hfault).2.2, hresolve⟩
      · exact ⟨_, rfl⟩

/-- A path along which the walk fails is reported with the error of the walk. -/
theorem execute_of_walk_error {cause : WalkError} (hfault : imageFault? image = none)
    (h : host.tree.resolve host.cwd? image.path = .error cause) :
    host.execute image = .error (.system (.ofWalk cause image.path)) := by
  simp only [execute, hfault, h]

/-- The process becomes the image that was asked for. -/
theorem eq_of_execute (h : host.execute image = .ok result) : result = image := by
  unfold execute at h
  split at h
  · exact absurd h (by simp)
  · split at h
    · exact absurd h (by simp)
    · split at h
      · split_ifs at h
        split at h
        · exact absurd h (by simp)
        · cases h
          rfl
      · exact absurd h (by simp)

/-! ## Trying all candidates -/

variable {arguments : List String} {env : Env} {saved : Option SystemError} {last : SystemError}

/-- One of the paths was tried with success, with the given arguments and variables. -/
theorem exists_path_of_tryEach {paths : List String}
    (h : host.tryEach arguments env saved last paths = .ok result) :
    ∃ path ∈ paths, result = ⟨path, arguments, env⟩ := by
  induction paths generalizing saved last with
  | nil => exact absurd h (by simp [tryEach])
  | cons path rest ih =>
      rw [tryEach] at h
      split at h
      · next image hexec =>
          cases h
          exact ⟨path, List.mem_cons_self, eq_of_execute hexec⟩
      · exact absurd h (by simp)
      · next error hexec =>
          obtain ⟨found, hmem, rfl⟩ := ih h
          exact ⟨found, List.mem_cons_of_mem _ hmem, rfl⟩

/-- Paths that are not executable are passed over. The errors that they leave behind, `saved` and
    `last`, do not matter to a path that is executable. -/
theorem tryEach_of_executable {skipped rest : List String}
    (hfault : ∀ candidate ∈ skipped ++ path :: rest,
      imageFault? ⟨candidate, arguments, env⟩ = none)
    (hskipped : ∀ candidate ∈ skipped, ¬ host.Executable candidate)
    (hpath : host.Executable path) :
    host.tryEach arguments env saved last (skipped ++ path :: rest) =
      .ok ⟨path, arguments, env⟩ := by
  induction skipped generalizing saved last with
  | nil =>
      rw [List.nil_append, tryEach,
        execute_of_executable (hfault path (by simp)) (by exact hpath)]
  | cons first others ih =>
      obtain ⟨error, hexec⟩ := exists_error_of_not_executable (hfault first (by simp))
        (hskipped first (by simp))
      rw [List.cons_append, tryEach, hexec]
      exact ih (fun candidate hmem => hfault candidate (List.mem_cons_of_mem _ hmem))
        (fun candidate hmem => hskipped candidate (List.mem_cons_of_mem _ hmem))

/-- Where every path fails, what is reported is the first error that is more than absence, the one
    saved before the search counting as the first of all, and without any such error the last. -/
theorem tryEach_of_errors {paths : List String} {reason : String → SystemError}
    (h : ∀ path ∈ paths,
      host.execute ⟨path, arguments, env⟩ = .error (.system (reason path))) :
    host.tryEach arguments env saved last paths =
      .error (.system ((saved.or ((paths.map reason).find? fun error => !error.isAbsence)).getD
        ((paths.map reason).getLastD last))) := by
  induction paths generalizing saved last with
  | nil => simp [tryEach]
  | cons path rest ih =>
      obtain ⟨hfirst, hrest⟩ := List.forall_mem_cons.1 h
      rw [tryEach, hfirst]
      simp only [ih hrest, List.map_cons, List.getLastD_cons, List.find?_cons, Option.or_assoc]
      -- An error that is saved hides all later ones, one that is not leaves the rest to decide.
      cases (reason path).isAbsence <;> simp

/-- Errors that are all absence leave the last one. -/
theorem tryEach_of_absences {paths : List String} {reason : String → SystemError}
    (h : ∀ path ∈ paths,
      host.execute ⟨path, arguments, env⟩ = .error (.system (reason path)))
    (habsence : ∀ path ∈ paths, (reason path).isAbsence = true) :
    host.tryEach arguments env none last paths =
      .error (.system ((paths.map reason).getLastD last)) := by
  have hnone : (paths.map reason).find? (fun error => !error.isAbsence) = none := by
    rw [List.find?_eq_none]
    intro error herror
    obtain ⟨path, hpath, rfl⟩ := List.mem_map.1 herror
    simp [habsence path hpath]
  rw [tryEach_of_errors h, hnone]
  rfl

/-! ## Looking and trying agree -/

/-- Looking passes over no executable file. -/
theorem runnable_of_executable (h : host.Executable path) : host.runnable path = true := by
  obtain ⟨place, mode, children, hlook, hnode, hx⟩ := h
  have hfound : host.node? path = some ⟨.file mode none, children⟩ :=
    node?_eq_some_iff.2 ⟨place, hlook, hnode⟩
  have hmay : host.mayExecute path = true := (permits_of_lookup hlook hnode rfl).trans hx
  simp [runnable, hfound, hmay, Node.isDir, Node.kind]

theorem executable_of_runnable {mode : Mode} {children : List (String × Node)}
    (hrun : host.runnable path = true)
    (hfile : host.node? path = some ⟨.file mode none, children⟩) : host.Executable path := by
  obtain ⟨place, hlook, hnode⟩ := node?_eq_some_iff.1 hfile
  refine ⟨place, mode, children, hlook, hnode, ?_⟩
  have hmay : host.mayExecute path = true := by
    simp [runnable, hfile] at hrun
    exact hrun.1
  exact (permits_of_lookup hlook hnode rfl).symm.trans hmay

/-- The first candidate that is runnable is found. -/
theorem candidates_of_which (h : host.which name = some path) :
    host.runnable path = true ∧
      ∃ skipped rest, candidates host.env name = skipped ++ path :: rest ∧
        ∀ candidate ∈ skipped, host.runnable candidate = false := by
  unfold which at h
  split_ifs at h
  obtain ⟨hrun, skipped, rest, hsplit, hskipped⟩ := List.find?_eq_some_iff_append.1 h
  exact ⟨hrun, skipped, rest, hsplit, fun candidate hmem => by simpa using hskipped candidate hmem⟩

/-- A name that is found can be passed on, since the path under which it is found was looked at. -/
theorem hasNull_of_which (h : host.which name = some path) : hasNull name = false := by
  obtain ⟨hrun, skipped, rest, hsplit, -⟩ := candidates_of_which h
  have hmem : path ∈ candidates host.env name := by simp [hsplit]
  refine hasNull_of_mem_candidates hmem ?_
  unfold runnable at hrun
  split at hrun
  · next node hnode =>
      obtain ⟨place, hlook, -⟩ := node?_eq_some_iff.1 hnode
      exact (lookup_eq_ok_iff.1 hlook).1
  · exact absurd hrun (by simp)

/-- Where looking finds an executable file, trying finds the same one, given variables that list the
    same directories and a request that can be passed on. -/
theorem launch_of_which (harguments : argumentsFault? arguments = none) (henv : env.Legal)
    (hlist : env.get? searchPathName = host.env.get? searchPathName)
    (hwhich : host.which name = some path) (hexec : host.Executable path) :
    host.launch name arguments env = .ok ⟨path, arguments, env⟩ := by
  obtain ⟨-, skipped, rest, hsplit, hskipped⟩ := candidates_of_which hwhich
  have hcandidates : candidates env name = skipped ++ path :: rest := by
    rw [← hsplit]
    simp [candidates, searchDirectories, hlist]
  unfold launch
  rw [hcandidates]
  apply tryEach_of_executable _ _ hexec
  · intro candidate hmem
    exact imageFault?_eq_none_iff.2
      ⟨harguments, henv, henv.hasNull_candidates (hasNull_of_which hwhich) (hcandidates ▸ hmem)⟩
  · intro candidate hmem hcandidate
    exact absurd (runnable_of_executable hcandidate) (by simp [hskipped candidate hmem])

end Host

end Handoff
