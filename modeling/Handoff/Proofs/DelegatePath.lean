import Handoff.Proofs.Stages

set_option autoImplicit false

/-! # The script that is checked and the script that is named

The delegate is checked under an absolute path, which goes through the project root and is written
without the components that name nothing. It is handed over under a relative text, the one in the
settings, which is read in the directory that was entered. `script_names_checked_file` compares the
two walks.

The absolute walk passes through the place where the relative one starts (`walk_components_join`),
with no more links left than the relative one has (`walk_from_base`). What remains is the difference
between the delegate's text and its path: components that name nothing, which matter at the end of
the text only (`walk_components_of_file`). -/

namespace Handoff

namespace Node

variable {tree : Node} {links : Nat} {here : Location}

/-- Components that are added to an absolute path are walked after it. -/
theorem walk_components_append {base : Path} {names : List String} (hbase : base.isAbsolute = true)
    (hnames : names ≠ []) :
    tree.walk links here (components (Path.text { base with parts := base.parts ++ names })) =
      tree.walk links here (components base.text ++ components (Text.joinWith '/' names)) := by
  by_cases hparts : base.parts = []
  · -- A root directory is written with one slash more when nothing follows it.
    rw [Path.components_text (by exact hbase), Path.components_text hbase]
    simp only [hparts, List.nil_append]
    have hempty : components (Text.joinWith '/' []) = [""] := by decide
    rw [hempty]
    split_ifs <;> simp only [List.cons_append, List.nil_append, walk_empty_empty]
  · rw [Path.components_text_append hbase hparts hnames]

/-- A relative path that is joined to an absolute one is walked after it. -/
theorem walk_components_join {base next : Path} (hbase : base.isAbsolute = true)
    (hnext : next.isAbsolute = false) (hslash : ∀ part ∈ next.parts, '/' ∉ part.toList) :
    tree.walk links here (components (base.join next).text) =
      tree.walk links here (components base.text ++ next.parts) := by
  rw [Path.join_of_relative base hnext]
  by_cases hnames : next.parts = []
  · rw [hnames, List.append_nil, List.append_nil]
  · have hjoin : components (Text.joinWith '/' next.parts) = next.parts :=
      Text.splitOn_joinWith hnames hslash
    rw [walk_components_append hbase hnames, hjoin]

/-- From the place to which the first path leads, the second leads where both together lead. It has
    all links to spend there, and the walk along both had only those that the first one left. -/
theorem walk_from_base {base next : Path} {cwd other : Option Location} {start place : Location}
    (hbase : base.isAbsolute = true) (hnext : next.isAbsolute = false)
    (hslash : ∀ part ∈ next.parts, '/' ∉ part.toList)
    (hstart : tree.resolve cwd base.text = .ok start)
    (hplace : tree.resolve other (base.join next).text = .ok place) :
    ∃ left, tree.walk maxLinks start next.parts = .ok ⟨place, left⟩ := by
  have hjoin : (base.join next).isAbsolute = true := by
    rw [Path.join_of_relative base hnext]
    exact hbase
  obtain ⟨-, -, origin, left, horigin, hfirst⟩ := resolve_eq_ok_iff.1 hstart
  obtain ⟨-, -, origin', left', horigin', hboth⟩ := resolve_eq_ok_iff.1 hplace
  rw [if_pos (Path.startsWith_text hbase)] at horigin
  rw [if_pos (Path.startsWith_text hjoin)] at horigin'
  cases horigin
  cases horigin'
  rw [walk_components_join hbase hnext hslash, walk_append_eq_ok] at hboth
  obtain ⟨middle, hmiddle, hrest⟩ := hboth
  obtain rfl : ⟨start, left⟩ = middle := by simpa [hfirst] using hmiddle
  -- The second part went on with `left` links; from its start it has all of them.
  have hspare := walk_add_links (maxLinks - left) hrest
  have hle : left ≤ maxLinks := linksLeft_le_of_walk hfirst
  rw [Nat.add_sub_cancel' hle] at hspare
  exact ⟨_, hspare⟩

/-- A text behind a dot and a slash is walked from the current directory. -/
theorem resolve_dot_slash {start : Location} (hpass : tree.Passable start) (text : String) :
    tree.resolve (some start) ("./" ++ text) =
      if maxPathBytes ≤ ("./" ++ text).utf8ByteSize then .error .nameTooLong
      else (tree.walk maxLinks start (components text)).map Arrival.place := by
  have hne : "./" ++ text ≠ "" := by simp
  have hrel : Text.startsWith ("./" ++ text) '/' = false := by simp [Text.startsWith]
  have hcomponents : components ("./" ++ text) = "." :: components text := by
    simp [components, Text.splitOn, Text.split]
  have hwalk : tree.walk maxLinks start ("." :: components text) =
      tree.walk maxLinks start (components text) := by
    rw [walk_cons, step_of_passable hpass (by decide)]
  unfold resolve
  rw [if_neg hne, hrel, hcomponents]
  simp only [Bool.false_eq_true, if_false, hwalk]

/-- Where a text's components that name something lead to a file, the whole text does so too if it
    ends in such a component, and asks for a directory otherwise. -/
theorem walk_components_of_file {text : String} {start place : Location} {left : Nat}
    (hwalk : tree.walk maxLinks start (Path.ofText text).parts = .ok ⟨place, left⟩)
    (hfile : tree.NoDir place) :
    (tree.walk maxLinks start (components text)).map Arrival.place =
      if Path.isPart (lastComponent text) then .ok place else .error .notDirectory := by
  have hlast := getLast?_components text
  split_ifs with hpart
  · rw [walk_of_walk_filter hlast hpart hwalk]
    rfl
  · rw [walk_error_of_trailing hlast (by simpa using hpart) hwalk hfile]
    rfl

end Node

/-- What the relative text leads to, in all cases. -/
theorem Host.lookup_dot_slash {host : Host} {root : Path} {delegate : String}
    {cwd : Option Location} {start place : Location} (hroot : root.isAbsolute = true)
    (hstart : host.tree.resolve cwd root.text = .ok start) (hpass : host.tree.Passable start)
    (hcwd : host.cwd = some start) (hdelegate : (Path.ofText delegate).isAbsolute = false)
    (hchecked : host.lookup (root.join (.ofText delegate)).text = .ok place)
    (hfile : host.tree.NoDir place) :
    host.lookup ("./" ++ delegate) =
      if maxPathBytes ≤ ("./" ++ delegate).utf8ByteSize then .error (.walk .nameTooLong)
      else if Path.isPart (lastComponent delegate) then .ok place
      else .error (.walk .notDirectory) := by
  obtain ⟨hnull, hplace⟩ := lookup_eq_ok_iff.1 hchecked
  have hclean : hasNull ("./" ++ delegate) = false :=
    (hasNull_append _ _).2 ⟨by decide, hasNull_of_join hnull⟩
  obtain ⟨left, hwalk⟩ := Node.walk_from_base hroot hdelegate
    (fun part => Path.slash_not_mem_parts) hstart hplace
  unfold lookup
  rw [if_neg (by simp [hclean]), cwd?_of_passable hcwd hpass, Node.resolve_dot_slash hpass,
    Node.walk_components_of_file hwalk hfile]
  split_ifs <;> rfl

/-- The delegate as it is checked and as it is handed over, in a project root that was just
    entered. A regular file that was found under the joined path is found again, from the new
    directory, under the text that the command names, provided that this text is not too long and
    that it ends in a component that names something. Where either fails, the text leads nowhere,
    although the delegate is not refused for it. -/
theorem script_names_checked_file {host entered : Host} {wrapper root : Path} {place : Location}
    {mode : Mode} {fault : Option Int} {children : List (String × Node)}
    (settings : Settings) (arguments : List String) (hroot : root.isAbsolute = true)
    (hentered : enterProjectRoot host wrapper = .ok (root, entered))
    (hdelegate : (Path.ofText settings.delegate).isAbsolute = false)
    (hchecked : entered.lookup (root.join (.ofText settings.delegate)).text = .ok place)
    (hfile : entered.tree.at? place = some ⟨.file mode fault, children⟩) :
    let checked := root.join (.ofText settings.delegate)
    let script := (buildCommand checked arguments settings).script
    let last := lastComponent settings.delegate
    script = "./" ++ settings.delegate ∧
      (script.utf8ByteSize < maxPathBytes → last ≠ "" → last ≠ "." →
        entered.lookup script = .ok place) ∧
      (maxPathBytes ≤ script.utf8ByteSize →
        entered.lookup script = .error (.walk .nameTooLong)) ∧
      (script.utf8ByteSize < maxPathBytes → last = "" ∨ last = "." →
        entered.lookup script = .error (.walk .notDirectory)) ∧
      (resolveDelegate entered root settings = .ok checked ↔
        launchObstacle? entered checked settings = none) := by
  obtain ⟨rfl, -, start, ⟨-, hstart, hpass⟩, hmoved⟩ := enterProjectRoot_eq_ok_iff.1 hentered
  -- The tree is the one in which the root was found: only the current directory is another.
  have htree : entered.tree = host.tree := by rw [hmoved]
  have hcwd : entered.cwd = some start := by rw [hmoved]
  rw [← htree] at hstart hpass
  have hscript : (buildCommand ((projectRoot wrapper).join (.ofText settings.delegate)) arguments
      settings).script = "./" ++ settings.delegate := by
    simp [buildCommand, hdelegate]
  have hlookup := Host.lookup_dot_slash hroot hstart hpass hcwd hdelegate hchecked
    (by simp [Node.NoDir, hfile])
  simp only [hscript, hlookup, true_and]
  refine ⟨fun hsize hempty hdot => ?_, fun hsize => if_pos hsize, fun hsize hend => ?_, ?_⟩
  · rw [if_neg (Nat.not_le.2 hsize), if_pos (by simp [Path.isPart, hempty, hdot])]
  · rw [if_neg (Nat.not_le.2 hsize), if_neg]
    rcases hend with hend | hend <;> simp [Path.isPart, hend]
  · exact resolveDelegate_eq_ok_of_file hchecked hfile

/-- A project that is reached through a link. -/
def linkedRoot : Host where
  tree := (Node.emptyDir.put (.file .all none) ["srv", "go"]).put (.link "srv") ["project"]

/-- A detour leads to the file that was checked; a dot at the end is not seen by the check. -/
theorem linkedRoot_script :
    let entered := { linkedRoot with cwd := some ["srv"] }
    let root := Path.ofText "/project"
    enterProjectRoot linkedRoot (.ofText "/project/.cf/build.py") = .ok (root, entered) ∧
      entered.lookup "./../srv//go" = .ok ["srv", "go"] ∧
      resolveDelegate entered root { delegate := "go/.", interpreter := none } =
        .ok (.ofText "/project/go") ∧
      entered.lookup "./go/." = .error (.walk .notDirectory) := by
  intro entered root
  have hentered : enterProjectRoot linkedRoot (.ofText "/project/.cf/build.py") =
      .ok (root, entered) := rfl
  have hdetour : entered.lookup (root.join (.ofText "../srv//go")).text = .ok ["srv", "go"] := by
    decide +kernel
  have hdotted : entered.lookup (root.join (.ofText "go/.")).text = .ok ["srv", "go"] := by
    decide +kernel
  have hfree : launchObstacle? entered (.ofText "/project/go")
      { delegate := "go/.", interpreter := none } = none := by
    decide +kernel
  obtain ⟨-, hsame, -⟩ := script_names_checked_file { delegate := "../srv//go" } [] rfl hentered
    rfl hdetour rfl
  obtain ⟨-, -, -, hrefused, haccepted⟩ := script_names_checked_file
    { delegate := "go/.", interpreter := none } [] rfl hentered rfl hdotted rfl
  exact ⟨hentered, hsame (by decide) (by decide) (by decide), haccepted.2 hfree,
    hrefused (by decide) (by decide)⟩

end Handoff
