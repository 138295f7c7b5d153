import Handoff.Proofs.DelegatePath

set_option autoImplicit false

/-! # The project root above a launcher

A launcher that was located stands below its project root, and the walk along its path has passed
through the root: the root's components come first, and what follows them asks for a directory.
`Host.Locates.exists_dir` draws the conclusion that the root is a directory. Whether it can be
entered is then a question to `Host.chdir` alone (`enterProjectRoot_eq_error_iff`). -/

namespace Handoff

namespace Path

/-- The text of a path is the start of the text of every path that goes on from it. -/
theorem exists_text_append {base : Path} (h : base.isAbsolute = true) (names : List String) :
    ∃ rest, text { base with parts := base.parts ++ names } = base.text ++ rest := by
  by_cases hparts : base.parts = []
  · rw [text_of_isAbsolute (by exact h), text_of_isAbsolute h]
    exact ⟨Text.joinWith '/' names, by simp [hparts, Text.joinWith, Text.join]⟩
  by_cases hnames : names = []
  · exact ⟨"", by simp [hnames]⟩
  · exact ⟨"/" ++ Text.joinWith '/' names, by rw [text_append h hparts hnames, String.append_assoc]⟩

/-- A path that has components is its project root with the last of them behind it. -/
theorem exists_names_projectRoot {wrapper : Path} (h : wrapper.parts ≠ []) :
    ∃ names, names ≠ [] ∧
      wrapper = { projectRoot wrapper with parts := (projectRoot wrapper).parts ++ names } := by
  refine ⟨wrapper.parts.drop (wrapper.parts.length - 2), ?_, ?_⟩
  · have hlength := List.length_pos_iff.2 h
    rw [ne_eq, List.drop_eq_nil_iff]
    omega
  · have hroot : (projectRoot wrapper).parts = wrapper.parts.take (wrapper.parts.length - 2) := by
      simp [projectRoot, List.dropLast_eq_take, List.take_take]
      omega
    rw [hroot, List.take_append_drop]
    rfl

end Path

namespace Node

variable {root : Node} {links : Nat} {here : Location} {arrival : Arrival}

/-- Components are looked up in directories only. -/
theorem exists_dir_of_walk {names : List String} (hnames : names ≠ [])
    (h : root.walk links here names = .ok arrival) :
    ∃ mode children, root.at? here = some ⟨.dir mode, children⟩ := by
  obtain ⟨component, rest, rfl⟩ := List.exists_cons_of_ne_nil hnames
  by_contra hdir
  have hno : root.NoDir here := by
    intro mode children hnode
    exact hdir ⟨mode, children, hnode⟩
  rw [walk_cons, step_of_not_dir hno] at h
  exact absurd h (by simp)

/-- A path that ends in a slash leads to a directory. -/
theorem exists_dir_of_walk_slash {names : List String}
    (h : root.walk links here (names ++ [""]) = .ok arrival) :
    ∃ mode children, root.at? arrival.place = some ⟨.dir mode, children⟩ := by
  obtain ⟨middle, -, hlast⟩ := walk_append_eq_ok.1 h
  obtain ⟨mode, children, hdir⟩ := exists_dir_of_walk (by simp) hlast
  have hstep : root.step middle.place "" = .reach middle.place := by simp [step, hdir]
  simp only [walk_cons, hstep, walk_nil] at hlast
  cases hlast
  exact ⟨mode, children, hdir⟩

/-- An absolute path does not ask for the current directory. -/
theorem resolve_of_isAbsolute {path : Path} (h : path.isAbsolute = true)
    (cwd cwd' : Option Location) : root.resolve cwd path.text = root.resolve cwd' path.text := by
  unfold resolve
  simp only [Path.startsWith_text h, if_true]

/-- The walk along a path that goes on from another one passes through the place to which the first
    path leads, and goes on from there. -/
theorem exists_walk_of_resolve_append {base : Path} {names : List String} {cwd : Option Location}
    {found : Location} (hbase : base.isAbsolute = true) (hnames : names ≠ [])
    (h : root.resolve cwd (Path.text { base with parts := base.parts ++ names }) = .ok found) :
    ∃ place left arrival, root.resolve cwd base.text = .ok place ∧
      root.walk left place (components (Text.joinWith '/' names)) = .ok arrival := by
  obtain ⟨-, hsize, start, left, hstart, hwalk⟩ := resolve_eq_ok_iff.1 h
  rw [if_pos (Path.startsWith_text (by exact hbase))] at hstart
  rw [walk_components_append hbase hnames, walk_append_eq_ok] at hwalk
  obtain ⟨middle, hfirst, hrest⟩ := hwalk
  refine ⟨middle.place, middle.linksLeft, _, ?_, hrest⟩
  have hslash := Path.startsWith_text hbase
  -- The limit on the length of a path holds for `base`, whose text is a part of the longer one.
  have hshort : base.text.utf8ByteSize < maxPathBytes := by
    obtain ⟨rest, hrest⟩ := Path.exists_text_append hbase names
    rw [hrest, String.utf8ByteSize_append] at hsize
    omega
  have hne : base.text ≠ "" := by
    intro hempty
    rw [hempty] at hslash
    exact absurd hslash (by decide)
  exact resolve_eq_ok_iff.2 ⟨hne, hshort, start, middle.linksLeft, by rw [if_pos hslash, hstart],
    hfirst⟩

end Node

namespace Host

variable {host : Host} {file : Option String} {wrapper : Path}

theorem isAbsolute_of_absolute {name : String} (h : host.absolute name = .ok wrapper) :
    wrapper.isAbsolute = true := by
  unfold absolute at h
  simp only at h
  split at h
  · next habs =>
      cases h
      exact habs
  · next habs =>
      split at h
      · next place hcwd =>
          cases h
          rw [Path.join_of_relative _ (by simpa using habs)]
          rfl
      · exact absurd h (by simp)

theorem Locates.isAbsolute (h : host.Locates file wrapper) : wrapper.isAbsolute = true := by
  obtain ⟨name, found, -, habs, -⟩ := h
  exact isAbsolute_of_absolute habs

theorem Locates.isAbsolute_projectRoot (h : host.Locates file wrapper) :
    (projectRoot wrapper).isAbsolute = true := h.isAbsolute

/-- The project root of a launcher that was located is a directory. -/
theorem Locates.exists_dir (h : host.Locates file wrapper) :
    ∃ place mode children, host.lookup (projectRoot wrapper).text = .ok place ∧
      host.tree.at? place = some ⟨.dir mode, children⟩ := by
  have habs := h.isAbsolute
  obtain ⟨name, found, -, -, hlook⟩ := h
  obtain ⟨hnull, hresolve⟩ := lookup_eq_ok_iff.1 hlook
  have hclean := hasNull_projectRoot hnull
  suffices ∃ place mode children,
      host.tree.resolve host.cwd? (projectRoot wrapper).text = .ok place ∧
        host.tree.at? place = some ⟨.dir mode, children⟩ by
    obtain ⟨place, mode, children, hroot, hdir⟩ := this
    exact ⟨place, mode, children, lookup_eq_ok_iff.2 ⟨hclean, hroot⟩, hdir⟩
  by_cases hparts : wrapper.parts = []
  · -- The root directory is its own project root, and its path asks for a directory by its slash.
    have hroot : projectRoot wrapper = wrapper := by
      obtain ⟨anchor, parts⟩ := wrapper
      obtain rfl : parts = [] := hparts
      rfl
    rw [hroot]
    obtain ⟨-, -, start, left, -, hwalk⟩ := Node.resolve_eq_ok_iff.1 hresolve
    rw [Path.components_text habs, hparts] at hwalk
    obtain ⟨mode, children, hdir⟩ := Node.exists_dir_of_walk_slash hwalk
    exact ⟨found, mode, children, hresolve, hdir⟩
  · obtain ⟨names, hnames, hwrapper⟩ := Path.exists_names_projectRoot hparts
    rw [hwrapper] at hresolve
    have habove : (projectRoot wrapper).isAbsolute = true := habs
    obtain ⟨place, left, arrival, hroot, hrest⟩ :=
      Node.exists_walk_of_resolve_append habove hnames hresolve
    obtain ⟨mode, children, hdir⟩ := Node.exists_dir_of_walk (components_ne_nil _) hrest
    exact ⟨place, mode, children, hroot, hdir⟩

end Host

/-- The project root of a launcher that was located is refused only if it cannot be entered. -/
theorem enterProjectRoot_eq_error_iff {host : Host} {file : Option String} {wrapper : Path}
    {failure : Failure} (h : host.Locates file wrapper) :
    enterProjectRoot host wrapper = .error failure ↔
      ∃ error, host.chdir (projectRoot wrapper).text = .error error ∧
        failure = .refusal (.rootNotEntered (projectRoot wrapper) error) := by
  obtain ⟨place, mode, children, hlook, hdir⟩ := h.exists_dir
  have hprobe : host.probe (projectRoot wrapper).text = .ok (some ⟨.dir mode, children⟩) :=
    Host.probe_eq_ok_some_iff.2 ⟨place, hlook, hdir⟩
  unfold enterProjectRoot
  simp only [hprobe]
  cases host.chdir (projectRoot wrapper).text with
  | ok after => simp
  | error error => simp [eq_comm]

end Handoff
