import Handoff.Proofs.Settled

set_option autoImplicit false

/-! # The file that was located

The launcher's file is named by the caller in one way and located under another: absolute, and
without the components that name nothing or lead back up.

`lookup_of_located` compares the two as walks. They end at the same place, for a process that is
settled and a name that does not use `..`; a name with `..` behind a link may well lead elsewhere.

`located_again` is about the path alone. It is a normal form: locating the file under its text gives
the same path again, from whatever directory. -/

namespace Handoff

namespace Path

variable {path : Path} {text : String}

theorem foldl_descend_of_not_mem {above names : List String} (h : ".." ∉ names) :
    names.foldl descend above = above ++ names := by
  induction names generalizing above with
  | nil => simp
  | cons name rest ih =>
      rw [List.mem_cons, not_or] at h
      rw [List.foldl_cons, ih h.2, descend, if_neg (Ne.symm h.1)]
      simp

/-- A path that never leads back up is left as it is. -/
theorem collapse_of_not_mem (h : ".." ∉ path.parts) : path.collapse = path := by
  unfold collapse
  rw [foldl_descend_of_not_mem h, List.nil_append]

/-- A text is read as an absolute path if it starts with a slash. -/
theorem isAbsolute_ofText (text : String) :
    (ofText text).isAbsolute = Text.startsWith text '/' := by
  show decide (Anchor.ofChars text.toList ≠ .relative) = decide (text.toList.head? = some '/')
  rw [decide_eq_decide]
  unfold Anchor.ofChars
  split
  · next htext => simp [htext]
  · next htext => simp [htext]
  · next htext => simp [htext]
  · next hother =>
      have hhead : text.toList.head? ≠ some '/' := by
        intro hslash
        obtain ⟨rest, htext⟩ := List.head?_eq_some_iff.1 hslash
        exact hother rest htext
      simp [hhead]

end Path

namespace Node

variable {root : Node} {place : Location} {cwd : Option Location} {path : Path}

/-- An absolute path that has components leads from the root directory along them. -/
theorem walk_parts_of_resolve (habs : path.isAbsolute = true) (hne : path.parts ≠ [])
    (hslash : ∀ part ∈ path.parts, '/' ∉ part.toList)
    (h : root.resolve cwd path.text = .ok place) :
    root.DirAt [] ∧ ∃ left, root.walk maxLinks [] path.parts = .ok ⟨place, left⟩ := by
  obtain ⟨-, -, start, left, hstart, hwalk⟩ := resolve_eq_ok_iff.1 h
  rw [if_pos (Path.startsWith_text habs)] at hstart
  cases hstart
  have hparts : components (Text.joinWith '/' path.parts) = path.parts :=
    Text.splitOn_joinWith hne hslash
  -- A second slash in front asks for nothing that the first has not asked for.
  have hone : root.walk maxLinks [] ("" :: path.parts) = .ok ⟨place, left⟩ := by
    rw [Path.components_text habs, hparts] at hwalk
    split_ifs at hwalk
    · rwa [List.cons_append, List.singleton_append, walk_empty_empty] at hwalk
    · exact hwalk
  obtain ⟨mode, children, hdir⟩ := exists_dir_of_walk (by simp) hone
  have hstep : root.step [] "" = .reach [] := by simp [step, hdir]
  rw [walk_cons, hstep] at hone
  exact ⟨⟨mode, children, hdir⟩, left, hone⟩

end Node

/-! ## The place -/

/-- An absolute path is made of the place at which the walk along the text starts and of the
    components of the text, if none of them leads back up. -/
theorem Host.Settled.exists_start {host : Host} (h : host.Settled) {text : String} {wrapper : Path}
    (hdots : ".." ∉ components text) (habs : host.absolute text = .ok wrapper) :
    ∃ start, (if Text.startsWith text '/' then some [] else host.cwd?) = some start ∧
      Location.Canonical start ∧ (host.tree.DirAt [] → host.tree.Grounded start) ∧
      wrapper.parts = start ++ (Path.ofText text).parts := by
  have hnames : ".." ∉ (Path.ofText text).parts := fun hmem => hdots (List.mem_filter.1 hmem).1
  unfold Host.absolute at habs
  simp only [Path.isAbsolute_ofText] at habs
  split_ifs at habs ⊢ with hslash
  · cases habs
    refine ⟨[], rfl, by simp [Location.Canonical], Node.hangs_nil.grounded, ?_⟩
    rw [Path.collapse_of_not_mem hnames, List.nil_append]
  · split at habs
    · next start hcwd =>
        cases habs
        have hcanonical : Location.Canonical start :=
          h.canonical start (Option.filter_eq_some_iff.1 hcwd).1
        refine ⟨start, hcwd, hcanonical, fun _ => h.grounded start hcwd, ?_⟩
        have hrelative : (Path.ofText text).isAbsolute = false := by
          rw [Path.isAbsolute_ofText]
          simpa using hslash
        rw [Path.join_of_relative _ hrelative, Path.collapse_of_not_mem]
        intro hmem
        rcases List.mem_append.1 hmem with hstart | hname
        · exact (hcanonical ".." hstart).2.1 rfl
        · exact hnames hname
    · exact absurd habs (by simp)

/-- The launcher's file as the caller names it and as it is located. The name, read from the current
    directory, and the path that was found for it, read from the root, lead to the same place. The
    name is neither too long nor does it end in a component that names nothing, and it does not use
    `..`, which goes up from where a link leads in a walk and from where the link stands in a
    path. -/
theorem lookup_of_located {host : Host} {text : String} {wrapper : Path} (hsettled : host.Settled)
    (hsize : text.utf8ByteSize < maxPathBytes) (hdots : ".." ∉ components text)
    (hempty : lastComponent text ≠ "") (hdot : lastComponent text ≠ ".")
    (hlocated : locateWrapper host (some text) = .ok wrapper) :
    ∃ place node, host.lookup text = .ok place ∧
      host.tree.resolve (some []) wrapper.text = .ok place ∧ host.tree.at? place = some node := by
  obtain ⟨name, place, hname, habs, hlook⟩ := locateWrapper_eq_ok_iff.1 hlocated
  obtain rfl : text = name := by simpa using hname
  have habsolute := Host.isAbsolute_of_absolute habs
  obtain ⟨node, hnode⟩ := Host.exists_node_of_lookup hlook
  obtain ⟨hnull, hresolve⟩ := Host.lookup_eq_ok_iff.1 hlook
  obtain ⟨start, hstart, hcanonical, hgrounded, hparts⟩ := hsettled.exists_start hdots habs
  have hlast := getLast?_components text
  have hpart : Path.isPart (lastComponent text) = true := by simp [Path.isPart, hempty, hdot]
  have hmem : lastComponent text ∈ (Path.ofText text).parts :=
    List.mem_filter.2 ⟨List.mem_of_getLast? hlast, hpart⟩
  have hslash : ∀ part ∈ wrapper.parts, '/' ∉ part.toList := by
    intro part hmem
    exact (Host.canonical_of_absolute hsettled.canonical habs part hmem).2.2
  obtain ⟨hroot, left, hwalk⟩ := Node.walk_parts_of_resolve habsolute
    (hparts ▸ List.ne_nil_of_mem (List.mem_append_right _ hmem)) hslash hresolve
  -- The walk along the path comes by the place where the other one starts, with all its links.
  rw [hparts, Node.walk_append_eq_ok] at hwalk
  obtain ⟨middle, hfirst, hrest⟩ := hwalk
  obtain rfl := Node.walk_of_grounded (hgrounded hroot) hcanonical hfirst
  have hnamed := Node.walk_of_walk_filter hlast hpart hrest
  refine ⟨place, node, Host.lookup_eq_ok_iff.2 ⟨?_, ?_⟩, ?_, hnode⟩
  · rw [← hasNull_text_ofText, hasNull_text_eq_false_iff]
    intro part hmem
    exact hasNull_text_eq_false_iff.1 hnull part (hparts ▸ List.mem_append_right _ hmem)
  · refine Node.resolve_eq_ok_iff.2 ⟨?_, hsize, start, left, hstart, hnamed⟩
    rintro rfl
    exact hempty (by decide)
  · rw [Node.resolve_of_isAbsolute habsolute (some []) host.cwd?]
    exact hresolve

/-- Links, detours and all, the file is the one that was named. -/
theorem linkedLauncher_lookup :
    let text := "./project//.cf/./build.py"
    locateWrapper linkedLauncher (some text) = .ok (.ofText "/home/project/.cf/build.py") ∧
      linkedLauncher.Settled ∧
      linkedLauncher.lookup text = .ok ["opt", "ci", "run.py"] ∧
      linkedLauncher.tree.resolve (some []) "/home/project/.cf/build.py" =
        .ok ["opt", "ci", "run.py"] := by
  intro text
  have hlocated : locateWrapper linkedLauncher (some text) =
      .ok (.ofText "/home/project/.cf/build.py") := by
    decide +kernel
  have hsettled : linkedLauncher.Settled := ⟨by decide +kernel, by decide +kernel⟩
  have hplace : linkedLauncher.tree.resolve (some []) "/home/project/.cf/build.py" =
      .ok ["opt", "ci", "run.py"] := by
    decide +kernel
  obtain ⟨place, node, hlook, hresolve, -⟩ := lookup_of_located hsettled (by decide) (by decide)
    (by decide) (by decide) hlocated
  obtain rfl : ["opt", "ci", "run.py"] = place := Except.ok.inj (hplace.symm.trans hresolve)
  exact ⟨hlocated, hsettled, hlook, hplace⟩

-- Behind a link, `..` leads up from elsewhere: the name leads nowhere, and a file is located.
example :
    let text := "project/../project/.cf/build.py"
    (locateWrapper linkedLauncher (some text)).isOk = true ∧
      linkedLauncher.lookup text = .error (.walk .missing) := by
  decide +kernel

/-! ## The path -/

namespace Host

variable {host other : Host} {file : Option String} {wrapper : Path}

/-- A normal form is its own absolute path, seen from any directory. -/
theorem absolute_text (habs : wrapper.isAbsolute = true)
    (hparts : Location.Canonical wrapper.parts) : host.absolute wrapper.text = .ok wrapper := by
  have hread : Path.ofText wrapper.text = wrapper :=
    Path.ofText_text habs fun part hpart => ⟨(hparts part hpart).1, (hparts part hpart).2.2⟩
  have hdots : ".." ∉ wrapper.parts := fun hmem => (hparts ".." hmem).2.1 rfl
  unfold absolute
  simp only [hread, habs, if_true, Path.collapse_of_not_mem hdots]

theorem Locates.again (h : host.Locates file wrapper) (hparts : Location.Canonical wrapper.parts)
    (htree : other.tree = host.tree) : other.Locates (some wrapper.text) wrapper := by
  have habs := h.isAbsolute
  obtain ⟨-, place, -, -, hlook⟩ := h
  obtain ⟨hnull, hresolve⟩ := lookup_eq_ok_iff.1 hlook
  refine ⟨wrapper.text, place, rfl, absolute_text habs hparts, lookup_eq_ok_iff.2 ⟨hnull, ?_⟩⟩
  rw [htree, Node.resolve_of_isAbsolute habs _ host.cwd?]
  exact hresolve

end Host

/-- The path of a launcher that was located. It is absolute, written with one slash in front or with
    two, and behind them with components that name something, none of which leads back up; it can
    be passed on to the system and names something. Located by its text, the launcher has the same
    path again, and with it the same project root: in any directory or in none, as long as the files
    are the same, and so after every launch. -/
theorem located_again {host : Host} {file : Option String} {wrapper : Path}
    (hcwd : ∀ place ∈ host.cwd, Location.Canonical place)
    (hlocated : locateWrapper host file = .ok wrapper) :
    wrapper.isAbsolute = true ∧ Location.Canonical wrapper.parts ∧
      (∃ body, body = Text.joinWith '/' wrapper.parts ∧ Text.startsWith body '/' = false ∧
        (wrapper.text = "/" ++ body ∨ wrapper.text = "//" ++ body)) ∧
      hasNull wrapper.text = false ∧
      (∃ place node, host.lookup wrapper.text = .ok place ∧ host.tree.at? place = some node) ∧
      (∀ other : Host, other.tree = host.tree →
        locateWrapper other (some wrapper.text) = .ok wrapper) ∧
      ∀ (invocation : Invocation) (runner : Runner),
        locateWrapper (invocation.launch host runner).host (some wrapper.text) = .ok wrapper := by
  have hlocates := locateWrapper_eq_ok_iff.1 hlocated
  obtain ⟨name, place, -, habs, hlook⟩ := locateWrapper_eq_ok_iff.1 hlocated
  have habsolute := hlocates.isAbsolute
  have hparts := Host.canonical_of_absolute hcwd habs
  have hagain : ∀ other : Host, other.tree = host.tree →
      locateWrapper other (some wrapper.text) = .ok wrapper := by
    intro other htree
    exact locateWrapper_eq_ok_iff.2 (hlocates.again hparts htree)
  obtain ⟨node, hnode⟩ := Host.exists_node_of_lookup hlook
  refine ⟨habsolute, hparts, ⟨_, rfl, ?_, ?_⟩, (Host.lookup_eq_ok_iff.1 hlook).1,
    ⟨place, node, hlook, hnode⟩, hagain, ?_⟩
  · have hhead := (Host.readable_of_absolute hcwd habs).head?_joinWith
    simpa [Text.startsWith] using hhead
  · rw [Path.text_of_isAbsolute habsolute]
    cases hanchor : wrapper.anchor with
    | relative => exact absurd habsolute (by simp [Path.isAbsolute, hanchor])
    | root => exact .inl rfl
    | twoSlashes => exact .inr rfl
  · intro invocation runner
    exact hagain _ (Host.Alike.ofLaunch invocation host runner).tree.symm

/-- A detour up and down is gone, and with it the need for a current directory. -/
theorem linkedLauncher_again :
    let host := linkedLauncher
    let wrapper := Path.ofText "/home/project/.cf/build.py"
    locateWrapper host (some "project/./x/../.cf//build.py") = .ok wrapper ∧
      wrapper.text = "/home/project/.cf/build.py" ∧
      locateWrapper { host with cwd := none } (some wrapper.text) = .ok wrapper ∧
      locateWrapper (Invocation.launch { file := some "/home/project/.cf/build.py" } host
        .exec).host (some wrapper.text) = .ok wrapper := by
  intro host wrapper
  have hlocated : locateWrapper host (some "project/./x/../.cf//build.py") = .ok wrapper := by
    decide +kernel
  obtain ⟨-, -, -, -, -, hagain, hlaunch⟩ := located_again (by decide) hlocated
  exact ⟨hlocated, by decide, hagain _ rfl, hlaunch _ _⟩

end Handoff
