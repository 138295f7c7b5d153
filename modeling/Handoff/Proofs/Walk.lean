import Handoff.Proofs.PathText
import Mathlib.Tactic.ByContra
import Mathlib.Tactic.SplitIfs
import Mathlib.Logic.Basic

set_option autoImplicit false

/-! # Where walks lead

Facts about `Node.walk` and `Node.resolve` that do not depend on what the walk is for. They rest on
what a single step can do (`passable_of_step`, `step_of_not_dir`) and on one induction along a walk
that arrives (`walk_induction`). What every step keeps is kept by the walk (`walk_invariant`).

The main results compare walks along different texts. Links that are left over change nothing
(`walk_add_links`). Components that name nothing, the empty one and the single dot, change nothing
either as long as one that names something follows (`walk_of_walk_filter`); at the end of a path
they ask for a directory (`walk_error_of_trailing`). -/

namespace Handoff

namespace Node

/-- A directory that may be passed through stands at the place. -/
def Passable (root : Node) (here : Location) : Prop :=
  ∃ mode children, root.at? here = some ⟨.dir mode, children⟩ ∧ mode.execute = true

/-- Something other than a directory, or nothing, stands at the place. -/
def NoDir (root : Node) (here : Location) : Prop :=
  ∀ mode children, root.at? here ≠ some ⟨.dir mode, children⟩

/-! ## One step -/

variable {root : Node} {here : Location} {component : String}

theorem step_of_not_dir (h : root.NoDir here) (component : String) :
    root.step here component = .stop .notDirectory := by
  unfold step
  split
  · next mode children hdir => exact absurd hdir (h mode children)
  · rfl

/-- A component that names nothing stays where it is, in a directory that may be passed through. -/
theorem step_of_passable (h : root.Passable here) (hc : Path.isPart component = false) :
    root.step here component = .reach here := by
  obtain ⟨mode, children, hdir, hx⟩ := h
  have hcases : component = "" ∨ component = "." := by
    simpa [Path.isPart, Classical.or_iff_not_imp_left] using hc
  rcases hcases with rfl | rfl <;> simp [step, hdir, hx]

/-- Only from a directory that may be passed through does a component lead anywhere; the empty one
    also leads back to a directory that may not. -/
theorem passable_of_step (h : ∀ error, root.step here component ≠ .stop error)
    (hc : component ≠ "") : root.Passable here := by
  unfold step at h
  split at h
  · next mode children hdir =>
      refine ⟨mode, children, hdir, ?_⟩
      by_contra hx
      exact h .denied (by simp [hc, hx])
  · exact absurd rfl (h .notDirectory)

/-- A step arrives at something. -/
theorem isSome_at?_of_step {place : Location} (h : root.step here component = .reach place) :
    (root.at? place).isSome = true := by
  unfold step at h
  split at h
  · next mode children hdir =>
      have hhere : (root.at? here).isSome = true := by simp [hdir]
      split_ifs at h
      · cases h; exact hhere
      · cases h; exact hhere
      · -- One up: the root stays where it is, and elsewhere the way here passed the place above.
        cases h
        rcases List.eq_nil_or_concat here with rfl | ⟨above, name, rfl⟩
        · exact hhere
        · rw [List.concat_eq_append, at?_append] at hhere
          cases habove : root.at? above with
          | none => simp [habove] at hhere
          | some node => simp [habove]
      · split at h
        · exact absurd h (by simp)
        · exact absurd h (by simp)
        · next child hchild =>
            cases h
            rw [at?_append, hdir]
            simp [Node.children, hchild]
  · exact absurd h (by simp)

/-! ## Walks -/

variable {links : Nat} {arrival : Arrival}

/-- Induction along a walk that arrives: either no component is left, or the first one reaches a
    place, or it is a link and the walk goes on along its target with one link fewer. -/
theorem walk_induction {motive : Nat → Location → List String → Arrival → Prop}
    (arrived : ∀ links here, motive links here [] ⟨here, links⟩)
    (reach : ∀ links here component rest place arrival,
      root.step here component = .reach place → motive links place rest arrival →
      motive links here (component :: rest) arrival)
    (follow : ∀ left here component rest target arrival,
      root.step here component = .follow target →
      motive left (if Text.startsWith target '/' then [] else here) (components target ++ rest)
        arrival →
      motive (left + 1) here (component :: rest) arrival)
    {names : List String} (h : root.walk links here names = .ok arrival) :
    motive links here names arrival := by
  -- A link makes the list of components longer, so the links count first.
  induction links using Nat.strongRecOn generalizing here names with
  | ind links onLink =>
    induction names generalizing here with
    | nil =>
        rw [walk_nil] at h
        cases h
        exact arrived links here
    | cons component rest ih =>
        rw [walk_cons] at h
        split at h
        · next place hstep => exact reach _ _ _ _ place _ hstep (ih h)
        · exact absurd h (by simp)
        · next target left hstep =>
            exact follow left _ _ _ target _ hstep (onLink left (by omega) h)
        · exact absurd h (by simp)

/-- A walk in two parts arrives if both parts do, the second with the links left by the first. -/
theorem walk_append_eq_ok {first second : List String} :
    root.walk links here (first ++ second) = .ok arrival ↔
      ∃ middle, root.walk links here first = .ok middle ∧
        root.walk middle.linksLeft middle.place second = .ok arrival := by
  rw [walk_append]
  cases root.walk links here first with
  | error error => simp [Except.bind]
  | ok middle => simp [Except.bind]

/-- What holds of the root directory and is kept by every step holds where a walk arrives if it held
    where the walk started. No component holds a slash, those of a link's text included. -/
theorem walk_invariant {motive : Location → Prop} (hroot : motive [])
    (hstep : ∀ here component place, '/' ∉ component.toList →
      root.step here component = .reach place → motive here → motive place)
    {names : List String} (hslash : ∀ name ∈ names, '/' ∉ name.toList) (hhere : motive here)
    (h : root.walk links here names = .ok arrival) : motive arrival.place := by
  revert hhere hslash
  refine walk_induction (motive := fun _ here names arrival =>
    (∀ name ∈ names, '/' ∉ name.toList) → motive here → motive arrival.place) ?_ ?_ ?_ h
  · intro links here _ hhere
    exact hhere
  · intro links here component rest place arrival hreach ih hslash hhere
    obtain ⟨hfirst, hrest⟩ := List.forall_mem_cons.1 hslash
    exact ih hrest (hstep here component place hfirst hreach hhere)
  · intro left here component rest target arrival _ ih hslash hhere
    apply ih
    · intro name hname
      rcases List.mem_append.1 hname with htarget | hrest
      · exact Text.not_mem_of_mem_splitOn htarget
      · exact hslash name (List.mem_cons_of_mem _ hrest)
    · split
      · exact hroot
      · exact hhere

/-- More links than a walk needs are left over at its end. -/
theorem walk_add_links {names : List String} (extra : Nat)
    (h : root.walk links here names = .ok arrival) :
    root.walk (links + extra) here names =
      .ok ⟨arrival.place, arrival.linksLeft + extra⟩ := by
  refine walk_induction (motive := fun links here names arrival =>
    root.walk (links + extra) here names = .ok ⟨arrival.place, arrival.linksLeft + extra⟩)
    ?_ ?_ ?_ h
  · intro links here
    exact walk_nil root (links + extra) here
  · intro links here component rest place arrival hstep ih
    rw [walk_cons, hstep]
    exact ih
  · intro left here component rest target arrival hstep ih
    rw [Nat.add_right_comm, walk_cons, hstep]
    exact ih

theorem linksLeft_le_of_walk {names : List String}
    (h : root.walk links here names = .ok arrival) : arrival.linksLeft ≤ links := by
  refine walk_induction (motive := fun links _ _ arrival => arrival.linksLeft ≤ links) ?_ ?_ ?_ h
  · intro links here
    exact Nat.le_refl links
  · intro links here component rest place arrival _ ih
    exact ih
  · intro left here component rest target arrival _ ih
    exact Nat.le_succ_of_le ih

/-! ## Components that name nothing -/

/-- A second empty component asks for nothing that the first has not asked for. -/
theorem walk_empty_empty (rest : List String) :
    root.walk links here ("" :: "" :: rest) = root.walk links here ("" :: rest) := by
  rw [walk_cons, walk_cons]
  by_cases hdir : root.NoDir here
  · rw [step_of_not_dir hdir]
  · simp only [NoDir, ne_eq, not_forall, not_not] at hdir
    obtain ⟨mode, children, hdir⟩ := hdir
    have hstep : root.step here "" = .reach here := by simp [step, hdir]
    rw [hstep]
    simp only
    rw [walk_cons, hstep]

theorem passable_of_walk_cons {rest : List String} (hc : component ≠ "")
    (h : root.walk links here (component :: rest) = .ok arrival) : root.Passable here := by
  apply passable_of_step _ hc
  intro error hstep
  rw [walk_cons, hstep] at h
  exact absurd h (by simp)

/-- A component that names nothing is skipped if one that names something comes later. -/
theorem walk_cons_of_not_part {rest : List String} (hc : Path.isPart component = false)
    (hrest : rest.filter Path.isPart ≠ [])
    (h : root.walk links here (rest.filter Path.isPart) = .ok arrival) :
    root.walk links here (component :: rest) = root.walk links here rest := by
  -- The later one could not have been looked up here without the right to pass through.
  have hpass : root.Passable here := by
    obtain ⟨first, others, hfirst⟩ := List.exists_cons_of_ne_nil hrest
    have hpart : Path.isPart first = true :=
      (List.mem_filter.1 (hfirst ▸ List.mem_cons_self : first ∈ rest.filter Path.isPart)).2
    rw [hfirst] at h
    exact passable_of_walk_cons (by rintro rfl; exact absurd hpart (by decide)) h
  rw [walk_cons, step_of_passable hpass hc]

theorem ne_nil_of_getLast?_cons {rest : List String} {last : String}
    (hlast : (component :: rest).getLast? = some last) (hne : component ≠ last) : rest ≠ [] := by
  rintro rfl
  exact hne (by simpa using hlast)

/-- Components that name nothing may stand anywhere but at the end of a path. -/
theorem walk_of_walk_filter {names : List String} {last : String}
    (hlast : names.getLast? = some last) (hpart : Path.isPart last = true)
    (h : root.walk links here (names.filter Path.isPart) = .ok arrival) :
    root.walk links here names = .ok arrival := by
  induction names generalizing links here with
  | nil => exact absurd hlast (by simp)
  | cons component rest ih =>
      by_cases hc : Path.isPart component = true
      · rw [List.filter_cons_of_pos hc, ← List.singleton_append, walk_append_eq_ok] at h
        obtain ⟨middle, hfirst, hthen⟩ := h
        rw [← List.singleton_append, walk_append_eq_ok]
        refine ⟨middle, hfirst, ?_⟩
        by_cases hrest : rest = []
        · subst hrest
          exact hthen
        · exact ih (by rwa [List.getLast?_cons_of_ne_nil hrest] at hlast) hthen
      · rw [List.filter_cons_of_neg hc] at h
        have hrest := ne_nil_of_getLast?_cons hlast (by rintro rfl; exact hc hpart)
        rw [List.getLast?_cons_of_ne_nil hrest] at hlast
        have hkept : rest.filter Path.isPart ≠ [] :=
          List.ne_nil_of_mem (List.mem_filter.2 ⟨List.mem_of_getLast? hlast, hpart⟩)
        rw [walk_cons_of_not_part (by simpa using hc) hkept h]
        exact ih hlast h

/-- At the end of a path a component that names nothing asks for a directory. -/
theorem walk_error_of_trailing {names : List String} {last : String}
    (hlast : names.getLast? = some last) (hpart : Path.isPart last = false)
    (h : root.walk links here (names.filter Path.isPart) = .ok arrival)
    (hdir : root.NoDir arrival.place) :
    root.walk links here names = .error .notDirectory := by
  induction names generalizing links here with
  | nil => exact absurd hlast (by simp)
  | cons component rest ih =>
      by_cases hc : Path.isPart component = true
      · have hrest := ne_nil_of_getLast?_cons hlast (by rintro rfl; simp [hpart] at hc)
        rw [List.getLast?_cons_of_ne_nil hrest] at hlast
        -- Both walks take this component; what differs comes after it.
        rw [List.filter_cons_of_pos hc, ← List.singleton_append, walk_append_eq_ok] at h
        obtain ⟨middle, hfirst, hthen⟩ := h
        rw [← List.singleton_append, walk_append, hfirst]
        exact ih hlast hthen
      · rw [List.filter_cons_of_neg hc] at h
        by_cases hkept : rest.filter Path.isPart = []
        · -- Nothing else is to come: the walk has arrived already, at something that is no
          -- directory.
          rw [hkept, walk_nil] at h
          cases h
          rw [walk_cons, step_of_not_dir hdir]
        · rw [walk_cons_of_not_part (by simpa using hc) hkept h]
          have hrest : rest ≠ [] := by
            rintro rfl
            exact hkept rfl
          exact ih (by rwa [List.getLast?_cons_of_ne_nil hrest] at hlast) h

/-! ## Resolving a text -/

variable {cwd : Option Location} {text : String} {place : Location}

/-- A text resolves if it is neither empty nor too long and its components lead somewhere. -/
theorem resolve_eq_ok_iff :
    root.resolve cwd text = .ok place ↔
      text ≠ "" ∧ text.utf8ByteSize < maxPathBytes ∧
        ∃ start left, (if Text.startsWith text '/' then some [] else cwd) = some start ∧
          root.walk maxLinks start (components text) = .ok ⟨place, left⟩ := by
  unfold resolve
  by_cases hempty : text = ""
  · simp [hempty]
  by_cases hlong : maxPathBytes ≤ text.utf8ByteSize
  · simp [hempty, hlong, Nat.not_lt.2 hlong]
  rw [if_neg hempty, if_neg hlong]
  cases (if Text.startsWith text '/' then some [] else cwd) with
  | none => simp
  | some start =>
      cases hwalk : root.walk maxLinks start (components text) with
      | error error => simp [hwalk, Except.map]
      | ok arrival =>
          obtain ⟨reached, left⟩ := arrival
          simp [hwalk, Except.map, hempty, Nat.lt_of_not_le hlong]

/-- What holds of the root directory and is kept by every step holds of every place that a text
    names, if it holds of the current directory. -/
theorem resolve_invariant {motive : Location → Prop} (hroot : motive [])
    (hstep : ∀ here component place, '/' ∉ component.toList →
      root.step here component = .reach place → motive here → motive place)
    (hcwd : ∀ here ∈ cwd, motive here) (h : root.resolve cwd text = .ok place) :
    motive place := by
  obtain ⟨-, -, start, left, hstart, hwalk⟩ := resolve_eq_ok_iff.1 h
  refine walk_invariant hroot hstep (fun name hname => Text.not_mem_of_mem_splitOn hname) ?_ hwalk
  split at hstart
  · cases hstart
    exact hroot
  · exact hcwd start hstart

/-- What a text names is there. -/
theorem isSome_at?_of_resolve (hcwd : ∀ here ∈ cwd, (root.at? here).isSome = true)
    (h : root.resolve cwd text = .ok place) : (root.at? place).isSome = true :=
  resolve_invariant (motive := fun place => (root.at? place).isSome = true) rfl
    (fun _ _ _ _ hreach _ => isSome_at?_of_step hreach) hcwd h

end Node

end Handoff
