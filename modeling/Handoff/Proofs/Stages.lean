import Handoff.Launcher
import Handoff.Proofs.PathText
import Handoff.Proofs.Walk

set_option autoImplicit false

/-! # What each stage of a launch asks for

A launch goes through three stages before it hands over: it locates the launcher's file, enters the
project root and looks at the delegate. Here each stage gets the exact condition under which it
succeeds, in terms of the file tree and of nothing that was computed on the way:
`locateWrapper_eq_ok_iff`, `enterProjectRoot_eq_ok_iff` and `resolveDelegate_eq_ok_iff`. -/

namespace Handoff

instance decidableEqExcept {ε α : Type} [DecidableEq ε] [DecidableEq α] :
    DecidableEq (Except ε α)
  | .error first, .error second => decidable_of_iff (first = second) (by simp)
  | .ok first, .ok second => decidable_of_iff (first = second) (by simp)
  | .error _, .ok _ => isFalse (by simp)
  | .ok _, .error _ => isFalse (by simp)

theorem hasNull_eq_false_iff {text : String} : hasNull text = false ↔ '\x00' ∉ text.toList := by
  simp [hasNull, Text.holds]

/-- No component of a path is lost when the text is read again, so no null is. -/
theorem hasNull_text_eq_false_iff {path : Path} :
    hasNull path.text = false ↔ ∀ part ∈ path.parts, hasNull part = false := by
  simp [hasNull_eq_false_iff, Path.mem_text_toList]

theorem hasNull_text_ofText (text : String) :
    hasNull (Path.ofText text).text = false ↔ hasNull text = false := by
  simp [hasNull_eq_false_iff, Path.mem_text_ofText]

theorem hasNull_append (first second : String) :
    hasNull (first ++ second) = false ↔ hasNull first = false ∧ hasNull second = false := by
  simp [hasNull_eq_false_iff, String.toList_append]

/-- The text of a path shows the nulls of every text that went into it. -/
theorem hasNull_of_join {base : Path} {text : String}
    (h : hasNull (base.join (.ofText text)).text = false) : hasNull text = false := by
  rw [← hasNull_text_ofText]
  by_cases habs : (Path.ofText text).isAbsolute = true
  · rwa [Path.join_of_isAbsolute base habs] at h
  · rw [hasNull_text_eq_false_iff, Path.join_of_relative base (by simpa using habs)] at h
    rw [hasNull_text_eq_false_iff]
    intro part hpart
    exact h part (List.mem_append_right _ hpart)

/-- The project root is written with components of the launcher's path only. -/
theorem hasNull_projectRoot {wrapper : Path} (h : hasNull wrapper.text = false) :
    hasNull (projectRoot wrapper).text = false := by
  rw [hasNull_text_eq_false_iff] at h ⊢
  intro part hpart
  have habove : part ∈ wrapper.parent.parts := List.dropLast_subset _ hpart
  exact h part (List.dropLast_subset _ habove)

namespace Host

variable {host : Host} {text : String} {place : Location} {node : Node}

/-! ## Looking -/

theorem isSome_at?_of_cwd? (h : host.cwd? = some place) : (host.tree.at? place).isSome = true :=
  (Option.filter_eq_some_iff.1 h).2

theorem cwd?_of_passable (hcwd : host.cwd = some place) (h : host.tree.Passable place) :
    host.cwd? = some place := by
  obtain ⟨mode, children, hdir, -⟩ := h
  exact Option.filter_eq_some_iff.2 ⟨hcwd, by simp [hdir]⟩

theorem lookup_eq_ok_iff :
    host.lookup text = .ok place ↔
      hasNull text = false ∧ host.tree.resolve host.cwd? text = .ok place := by
  unfold lookup
  by_cases hnull : hasNull text = true
  · simp [hnull]
  · rw [if_neg hnull]
    cases host.tree.resolve host.cwd? text <;> simp [Except.mapError, hnull]

/-- What a path names is there. -/
theorem exists_node_of_lookup (h : host.lookup text = .ok place) :
    ∃ node, host.tree.at? place = some node :=
  Option.isSome_iff_exists.1 <|
    Node.isSome_at?_of_resolve (fun _ => isSome_at?_of_cwd?) (lookup_eq_ok_iff.1 h).2

theorem probe_eq_ok_some_iff :
    host.probe text = .ok (some node) ↔
      ∃ place, host.lookup text = .ok place ∧ host.tree.at? place = some node := by
  unfold probe
  cases hlook : host.lookup text with
  | ok place => simp
  | error error =>
      cases error with
      | embeddedNull => simp
      | walk error => by_cases habs : error.isAbsence = true <;> simp [habs]

theorem node?_eq_some_iff :
    host.node? text = some node ↔
      ∃ place, host.lookup text = .ok place ∧ host.tree.at? place = some node := by
  unfold node?
  cases hlook : host.lookup text <;> simp

theorem permits_of_lookup {mode : Mode} {permission : Mode → Bool}
    (hlook : host.lookup text = .ok place) (hnode : host.tree.at? place = some node)
    (hmode : node.mode? = some mode) : host.permits text permission = permission mode := by
  simp [permits, node?, hlook, hnode, hmode]

/-- Only for a relative path is the current directory asked for. -/
theorem absolute_eq_error_iff {error : SystemError} :
    host.absolute text = .error error ↔
      (Path.ofText text).isAbsolute = false ∧ host.cwd? = none ∧ error = .ofErrno 2 none := by
  unfold absolute
  simp only
  cases (Path.ofText text).isAbsolute with
  | true => simp
  | false => cases host.cwd? <;> simp [WalkError.errno, eq_comm]

/-! ## Moving -/

/-- The path leads to `place`, a directory that can be entered. -/
def LeadsInto (host : Host) (path : Path) (place : Location) : Prop :=
  host.chdirFault = none ∧ host.tree.resolve host.cwd? path.text = .ok place ∧
    host.tree.Passable place

theorem chdir_eq_ok_iff_resolve {after : Host} :
    host.chdir text = .ok after ↔
      ∃ place, (host.chdirFault = none ∧ host.tree.resolve host.cwd? text = .ok place ∧
        host.tree.Passable place) ∧ after = { host with cwd := some place } := by
  unfold chdir Node.Passable
  cases host.chdirFault with
  | some errno => simp
  | none =>
      cases host.tree.resolve host.cwd? text with
      | error error => simp
      | ok place =>
          simp only [Except.ok.injEq, true_and]
          constructor
          · intro h
            split at h
            · next mode children hdir =>
                split_ifs at h with hx
                cases h
                exact ⟨place, ⟨rfl, mode, children, hdir, hx⟩, rfl⟩
            · exact absurd h (by simp)
          · rintro ⟨_, ⟨rfl, mode, children, hdir, hx⟩, rfl⟩
            simp [hdir, hx]

theorem chdir_eq_ok_iff {path : Path} {after : Host} :
    host.chdir path.text = .ok after ↔
      ∃ place, host.LeadsInto path place ∧ after = { host with cwd := some place } :=
  chdir_eq_ok_iff_resolve

/-! ## Locating the launcher's file -/

/-- The launcher's file is known, its absolute path can be told and passed on to the system, and
    it names something. -/
def Locates (host : Host) (file : Option String) (wrapper : Path) : Prop :=
  ∃ name place, file.or host.wrapperFile? = some name ∧ host.absolute name = .ok wrapper ∧
    host.lookup wrapper.text = .ok place

end Host

theorem locateWrapper_eq_ok_iff {host : Host} {file : Option String} {wrapper : Path} :
    locateWrapper host file = .ok wrapper ↔ host.Locates file wrapper := by
  unfold locateWrapper Host.Locates
  constructor
  · intro h
    split at h
    · exact absurd h (by simp)
    · next name hname =>
        split at h
        · exact absurd h (by simp)
        · next path habs =>
            split at h
            · exact absurd h (by simp)
            · exact absurd h (by simp)
            · next node hprobe =>
                cases h
                obtain ⟨place, hlook, -⟩ := Host.probe_eq_ok_some_iff.1 hprobe
                exact ⟨name, place, hname, habs, hlook⟩
  · rintro ⟨name, place, hname, habs, hlook⟩
    obtain ⟨node, hnode⟩ := Host.exists_node_of_lookup hlook
    simp only [hname, habs, Host.probe_eq_ok_some_iff.2 ⟨place, hlook, hnode⟩]

/-! ## Entering the project root -/

theorem enterProjectRoot_eq_ok_iff {host after : Host} {wrapper root : Path} :
    enterProjectRoot host wrapper = .ok (root, after) ↔
      root = projectRoot wrapper ∧ hasNull root.text = false ∧
        ∃ place, host.LeadsInto root place ∧ after = { host with cwd := some place } := by
  unfold enterProjectRoot
  simp only
  constructor
  · intro h
    split at h
    · exact absurd h (by simp)
    · next mode children hprobe =>
        split at h
        · next moved hmoved =>
            cases h
            obtain ⟨place, hlook, -⟩ := Host.probe_eq_ok_some_iff.1 hprobe
            exact ⟨rfl, (Host.lookup_eq_ok_iff.1 hlook).1, Host.chdir_eq_ok_iff.1 hmoved⟩
        · exact absurd h (by simp)
    · exact absurd h (by simp)
  · rintro ⟨rfl, hnull, place, hleads, rfl⟩
    obtain ⟨mode, children, hdir, -⟩ := hleads.2.2
    have hprobe : host.probe (projectRoot wrapper).text = .ok (some ⟨.dir mode, children⟩) :=
      Host.probe_eq_ok_some_iff.2 ⟨place, Host.lookup_eq_ok_iff.2 ⟨hnull, hleads.2.1⟩, hdir⟩
    simp only [hprobe, Host.chdir_eq_ok_iff.2 ⟨place, hleads, rfl⟩]

/-! ## Looking at the delegate -/

/-- The script is a regular file. With an interpreter that can be found and the script may be
    read; without one it may be executed. -/
def Host.CanLaunch (host : Host) (script : Path) (settings : Settings) : Prop :=
  ∃ place mode fault children, host.lookup script.text = .ok place ∧
    host.tree.at? place = some ⟨.file mode fault, children⟩ ∧
    match settings.interpreter? with
    | some interpreter => (host.which interpreter).isSome = true ∧ mode.read = true
    | none => mode.execute = true

/-- For a regular file the obstacles are those that `Host.CanLaunch` excludes. -/
theorem launchObstacle?_eq_none_iff {host : Host} {script : Path} {settings : Settings}
    {place : Location} {mode : Mode} {fault : Option Int} {children : List (String × Node)}
    (hlook : host.lookup script.text = .ok place)
    (hnode : host.tree.at? place = some ⟨.file mode fault, children⟩) :
    launchObstacle? host script settings = none ↔
      match settings.interpreter? with
      | some interpreter => (host.which interpreter).isSome = true ∧ mode.read = true
      | none => mode.execute = true := by
  have hread : host.mayRead script.text = mode.read := Host.permits_of_lookup hlook hnode rfl
  have hexec : host.mayExecute script.text = mode.execute := Host.permits_of_lookup hlook hnode rfl
  unfold launchObstacle?
  cases settings.interpreter? with
  | none => cases hx : mode.execute <;> simp [hexec, hx]
  | some interpreter =>
      cases hw : host.which interpreter <;> cases hr : mode.read <;> simp [hread, hw, hr]

/-- A delegate that is a regular file is refused for such an obstacle only. -/
theorem resolveDelegate_eq_ok_of_file {host : Host} {root : Path} {settings : Settings}
    {place : Location} {mode : Mode} {fault : Option Int} {children : List (String × Node)}
    (hlook : host.lookup (root.join (.ofText settings.delegate)).text = .ok place)
    (hnode : host.tree.at? place = some ⟨.file mode fault, children⟩) :
    resolveDelegate host root settings = .ok (root.join (.ofText settings.delegate)) ↔
      launchObstacle? host (root.join (.ofText settings.delegate)) settings = none := by
  unfold resolveDelegate
  simp only [Host.probe_eq_ok_some_iff.2 ⟨place, hlook, hnode⟩]
  generalize launchObstacle? _ _ _ = obstacle
  cases obstacle <;> simp

theorem resolveDelegate_eq_ok_iff {host : Host} {root script : Path} {settings : Settings} :
    resolveDelegate host root settings = .ok script ↔
      script = root.join (.ofText settings.delegate) ∧ host.CanLaunch script settings := by
  unfold resolveDelegate Host.CanLaunch
  simp only
  constructor
  · intro h
    split at h
    · exact absurd h (by simp)
    · exact absurd h (by simp)
    · next mode fault children hprobe =>
        obtain ⟨place, hlook, hnode⟩ := Host.probe_eq_ok_some_iff.1 hprobe
        split at h
        · exact absurd h (by simp)
        · next hfree =>
            cases h
            exact ⟨rfl, place, mode, fault, children, hlook, hnode,
              (launchObstacle?_eq_none_iff hlook hnode).1 hfree⟩
    · exact absurd h (by simp)
  · rintro ⟨rfl, place, mode, fault, children, hlook, hnode, hcan⟩
    exact (resolveDelegate_eq_ok_of_file hlook hnode).2
      ((launchObstacle?_eq_none_iff hlook hnode).2 hcan)

end Handoff
