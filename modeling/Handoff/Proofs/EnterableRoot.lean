import Handoff.Proofs.Root

set_option autoImplicit false

/-! # A located launcher has a root that can be entered

That the project root of a located launcher is a directory is shown in `Root`. Here it is shown that
the directory may be passed through, so that nothing but a fault of the system keeps a launch from
entering it (`enterProjectRoot_of_located`). The launcher's path goes on behind the root with a
component that names something, and that one could not have been looked up otherwise.

That the component names something holds of every absolute path, since components that do not are
dropped when a path is read and `..` is taken away when it is made absolute. For a relative path it
rests on the current directory, which has to have a canonical location (`Location.Canonical`). It
has one after every walk from such a directory (`Node.canonical_of_resolve`). -/

namespace Handoff

/-! ## Canonical locations -/

/-- The location is spelled as a canonical path is: no name is empty or dotted, and none holds a
    slash. -/
def Location.Canonical (place : Location) : Prop :=
  ∀ name ∈ place, Path.isPart name = true ∧ name ≠ ".." ∧ '/' ∉ name.toList

instance (place : Location) : Decidable place.Canonical :=
  inferInstanceAs (Decidable (∀ name ∈ place,
    Path.isPart name = true ∧ name ≠ ".." ∧ '/' ∉ name.toList))

namespace Location.Canonical

variable {place : Location}

theorem dropLast (h : place.Canonical) : Location.Canonical place.dropLast := by
  intro name hname
  exact h name (List.dropLast_subset _ hname)

theorem concat (h : place.Canonical) {name : String} (hpart : Path.isPart name = true)
    (hdots : name ≠ "..") (hslash : '/' ∉ name.toList) :
    Location.Canonical (place ++ [name]) := by
  intro other hother
  rcases List.mem_append.1 hother with hbefore | hlast
  · exact h other hbefore
  · rw [List.mem_singleton] at hlast
    subst hlast
    exact ⟨hpart, hdots, hslash⟩

end Location.Canonical

namespace Node

variable {root : Node} {here place : Location}

/-- A step reaches the place itself, the one above it, or one with a name that was asked for. -/
theorem canonical_of_step {component : String} (hhere : here.Canonical)
    (hslash : '/' ∉ component.toList) (h : root.step here component = .reach place) :
    place.Canonical := by
  unfold step at h
  split at h
  · split_ifs at h with hempty hexec hdot hdots hsize
    · cases h
      exact hhere
    · cases h
      exact hhere
    · cases h
      exact hhere.dropLast
    · have hpart : Path.isPart component = true := by simp [Path.isPart, hempty, hdot]
      split at h
      · exact absurd h (by simp)
      · exact absurd h (by simp)
      · cases h
        exact hhere.concat hpart hdots hslash
  · exact absurd h (by simp)

theorem canonical_of_resolve {cwd : Option Location} {text : String}
    (hcwd : ∀ here ∈ cwd, Location.Canonical here) (h : root.resolve cwd text = .ok place) :
    place.Canonical :=
  resolve_invariant (by simp [Location.Canonical])
    (fun _ _ _ hslash hreach hhere => canonical_of_step hhere hslash hreach) hcwd h

end Node

/-! ## Absolute paths -/

namespace Path

/-- Going down by one component keeps a location canonical: `..`, the one component that would not
    do so, goes up instead. -/
theorem canonical_foldl_descend {above names : List String} (habove : Location.Canonical above)
    (hnames : ∀ name ∈ names, isPart name = true ∧ '/' ∉ name.toList) :
    Location.Canonical (names.foldl descend above) := by
  induction names generalizing above with
  | nil => exact habove
  | cons name rest ih =>
      obtain ⟨⟨hpart, hslash⟩, hrest⟩ := List.forall_mem_cons.1 hnames
      rw [List.foldl_cons]
      apply ih _ hrest
      unfold descend
      split_ifs with hdots
      · exact habove.dropLast
      · exact habove.concat hpart hdots hslash

/-- An absolute path without components is a root directory. -/
theorem parts_ne_nil {path : Path} (habs : path.isAbsolute = true) (hone : path.text ≠ "/")
    (htwo : path.text ≠ "//") : path.parts ≠ [] := by
  obtain ⟨anchor, parts⟩ := path
  rintro (rfl : parts = [])
  cases anchor with
  | relative => exact absurd habs (by decide)
  | root => exact hone (by decide)
  | twoSlashes => exact htwo (by decide)

end Path

namespace Host

variable {host : Host} {file : Option String} {wrapper : Path}

theorem canonical_of_absolute {name : String}
    (hcwd : ∀ place ∈ host.cwd, Location.Canonical place)
    (h : host.absolute name = .ok wrapper) : Location.Canonical wrapper.parts := by
  unfold absolute at h
  simp only at h
  split at h
  · cases h
    exact Path.canonical_foldl_descend (by simp [Location.Canonical]) (Path.readable_ofText name)
  · next habs =>
      split at h
      · next place hplace =>
          cases h
          have hcanonical : Location.Canonical place :=
            hcwd place (Option.filter_eq_some_iff.1 hplace).1
          rw [Path.join_of_relative _ (by simpa using habs)]
          refine Path.canonical_foldl_descend (by simp [Location.Canonical]) ?_
          intro part hpart
          rcases List.mem_append.1 hpart with hbelow | hnamed
          · exact ⟨(hcanonical part hbelow).1, (hcanonical part hbelow).2.2⟩
          · exact Path.readable_ofText name part hnamed
      · exact absurd h (by simp)

/-- The path of an absolute file can be read back from its text. -/
theorem readable_of_absolute {name : String}
    (hcwd : ∀ place ∈ host.cwd, Location.Canonical place)
    (h : host.absolute name = .ok wrapper) : wrapper.Readable := by
  intro part hpart
  obtain ⟨hnames, -, hslash⟩ := canonical_of_absolute hcwd h part hpart
  exact ⟨hnames, hslash⟩

/-- The launcher's path goes on behind its project root, so the root may be passed through. -/
theorem Locates.exists_passable (h : host.Locates file wrapper)
    (hcanonical : Location.Canonical wrapper.parts) (hparts : wrapper.parts ≠ []) :
    ∃ place, host.tree.resolve host.cwd? (projectRoot wrapper).text = .ok place ∧
      host.tree.Passable place := by
  have habove := h.isAbsolute_projectRoot
  obtain ⟨name, found, -, -, hlook⟩ := h
  have hresolve := (lookup_eq_ok_iff.1 hlook).2
  obtain ⟨names, hnames, hwrapper⟩ := Path.exists_names_projectRoot hparts
  have hbelow : Location.Canonical names := by
    intro part hpart
    apply hcanonical
    rw [hwrapper]
    exact List.mem_append_right _ hpart
  rw [hwrapper] at hresolve
  obtain ⟨place, left, arrival, hroot, hrest⟩ :=
    Node.exists_walk_of_resolve_append habove hnames hresolve
  refine ⟨place, hroot, ?_⟩
  -- No name holds a slash, so the components that follow are these names.
  rw [show components (Text.joinWith '/' names) = names from
    Text.splitOn_joinWith hnames fun part hpart => (hbelow part hpart).2.2] at hrest
  obtain ⟨first, others, rfl⟩ := List.exists_cons_of_ne_nil hnames
  refine Node.passable_of_walk_cons ?_ hrest
  rintro rfl
  exact absurd (hbelow "" List.mem_cons_self).1 (by decide)

end Host

/-- A launcher that was located has a project root that can be entered. Unless the launcher's file
    is the root directory itself, and as long as the system lets the directory be changed at all,
    the process moves to the place to which the project root's path leads, a directory whose
    location is canonical again. -/
theorem enterProjectRoot_of_located {host : Host} {file : Option String} {wrapper : Path}
    (hcwd : ∀ place ∈ host.cwd, Location.Canonical place) (hfault : host.chdirFault = none)
    (hlocated : locateWrapper host file = .ok wrapper) (hone : wrapper.text ≠ "/")
    (htwo : wrapper.text ≠ "//") :
    ∃ place, host.tree.resolve host.cwd? (projectRoot wrapper).text = .ok place ∧
      host.tree.Passable place ∧ place.Canonical ∧
      enterProjectRoot host wrapper =
        .ok (projectRoot wrapper, { host with cwd := some place }) ∧
      { host with cwd := some place }.cwdText = .ok (Location.text place) := by
  have hlocates := locateWrapper_eq_ok_iff.1 hlocated
  obtain ⟨name, found, -, habs, hlook⟩ := locateWrapper_eq_ok_iff.1 hlocated
  have hnull := hasNull_projectRoot (Host.lookup_eq_ok_iff.1 hlook).1
  have hparts := Path.parts_ne_nil hlocates.isAbsolute hone htwo
  obtain ⟨place, hroot, hpass⟩ :=
    hlocates.exists_passable (Host.canonical_of_absolute hcwd habs) hparts
  have hcanonical : place.Canonical := by
    refine Node.canonical_of_resolve ?_ hroot
    intro here hhere
    exact hcwd here (Option.filter_eq_some_iff.1 hhere).1
  refine ⟨place, hroot, hpass, hcanonical, ?_, ?_⟩
  · exact enterProjectRoot_eq_ok_iff.2 ⟨rfl, hnull, place, ⟨hfault, hroot, hpass⟩, rfl⟩
  · have hmoved : ({ host with cwd := some place } : Host).cwd? = some place :=
      Host.cwd?_of_passable rfl hpass
    simp only [Host.cwdText, hmoved]

/-- A host on which the project, the directory of its launcher and the launcher itself are all
    reached through links. -/
def linkedLauncher : Host where
  tree :=
    (((Node.emptyDir.put (.file .all none) ["opt", "ci", "run.py"]).put
      (.link "../ci/./run.py") ["opt", "tools", "build.py"]).put
      (.link "/opt/tools/") ["srv", "app", ".cf"]).put (.link "../srv//app") ["home", "project"]
  cwd := some ["home"]

theorem linkedLauncher_enters :
    let host := linkedLauncher
    let root := Path.ofText "/home/project"
    locateWrapper host (some "./project/x/../.cf//build.py") =
        .ok (.ofText "/home/project/.cf/build.py") ∧
      enterProjectRoot host (.ofText "/home/project/.cf/build.py") =
        .ok (root, { host with cwd := some ["srv", "app"] }) ∧
      { host with cwd := some ["srv", "app"] }.cwdText = .ok "/srv/app" := by
  intro host root
  have hlocated : locateWrapper host (some "./project/x/../.cf//build.py") =
      .ok (.ofText "/home/project/.cf/build.py") := by
    decide +kernel
  have hroot : host.tree.resolve host.cwd? "/home/project" = .ok ["srv", "app"] := by
    decide +kernel
  obtain ⟨place, hplace, -, -, hentered, hcwd⟩ :=
    enterProjectRoot_of_located (by decide) rfl hlocated (by decide) (by decide)
  obtain rfl : ["srv", "app"] = place := Except.ok.inj (hroot.symm.trans hplace)
  exact ⟨hlocated, hentered, hcwd⟩

-- The root directory itself is located without being passed through.
example :
    let barred : Host := { tree := ⟨.dir ⟨true, true, false⟩, []⟩ }
    (locateWrapper barred (some "/")).isOk = true ∧
      (enterProjectRoot barred (.ofText "/")).isOk = false := by
  decide

end Handoff
