import Handoff.Proofs.EnterableRoot
import Handoff.Proofs.History
import Mathlib.Data.List.Infix

set_option autoImplicit false

/-! # Where a process stands

The path of a directory, made of the names from the root down to it, leads back to that directory,
and without following a link, if everything on the way is a directory itself (`Node.Grounded`).
`Node.walk_of_grounded` is the walk.

A process that stands at such a place, with names that a path can hold, is `Host.Settled`. Wherever
a walk arrives, what is above is made of directories, so a process that moves along paths comes to
such a place again (`Host.Settled.of_reaches`). No request of a session moves it in any other way
(`Session.reaches_step`), which keeps it settled until something is edited
(`Session.settled_run`). -/

namespace Handoff

namespace Node

/-- A directory stands at the place. -/
def DirAt (root : Node) (place : Location) : Prop :=
  ∃ mode children, root.at? place = some ⟨.dir mode, children⟩

/-- Every place on the way down to this one is a directory, and so is the place itself. -/
def Grounded (root : Node) (place : Location) : Prop := ∀ upper, upper <+: place → root.DirAt upper

/-- Every place above this one is a directory. -/
def Hangs (root : Node) (place : Location) : Prop :=
  ∀ upper, upper <+: place → upper ≠ place → root.DirAt upper

variable {root : Node} {here place : Location}

instance (root : Node) (place : Location) : Decidable (root.DirAt place) :=
  decidable_of_iff ((root.at? place).any isDir = true) <| by
    rw [Option.any_eq_true]
    constructor
    · rintro ⟨⟨kind, children⟩, hnode, hdir⟩
      cases kind with
      | dir mode => exact ⟨mode, children, hnode⟩
      | _ => exact absurd hdir (by simp [isDir, kind])
    · rintro ⟨mode, children, hnode⟩
      exact ⟨_, hnode, rfl⟩

instance (root : Node) (place : Location) : Decidable (root.Grounded place) :=
  decidable_of_iff (∀ upper ∈ place.inits, root.DirAt upper) (by simp [Grounded, List.mem_inits])

theorem Hangs.grounded (h : root.Hangs place) (hdir : root.DirAt place) : root.Grounded place := by
  intro upper hupper
  by_cases heq : upper = place
  · exact heq ▸ hdir
  · exact h upper hupper heq

theorem Grounded.hangs (h : root.Grounded place) : root.Hangs place :=
  fun upper hupper _ => h upper hupper

theorem hangs_nil : root.Hangs [] :=
  fun _ hupper hne => absurd (List.prefix_nil.1 hupper) hne

theorem Hangs.dropLast (h : root.Hangs place) : root.Hangs place.dropLast := by
  intro upper hupper hne
  refine h upper (hupper.trans (List.dropLast_prefix place)) ?_
  rintro rfl
  -- Only the root is not below the place one up.
  exact hne (hupper.eq_of_length_le (List.dropLast_prefix upper).length_le)

theorem Grounded.hangs_concat (h : root.Grounded here) (name : String) :
    root.Hangs (here ++ [name]) := by
  intro upper hupper hne
  rcases List.prefix_concat_iff.1 hupper with heq | habove
  · exact absurd heq hne
  · exact h upper habove

/-! ## Walks -/

/-- A step is made in a directory. -/
theorem dirAt_of_step {component : String} (h : root.step here component = .reach place) :
    root.DirAt here := by
  have hwalk : root.walk 0 here [component] = .ok ⟨place, 0⟩ := by
    rw [walk_cons, h]
    exact walk_nil root 0 place
  exact exists_dir_of_walk (List.cons_ne_nil component []) hwalk

theorem Hangs.step {component : String} (hhere : root.Hangs here)
    (h : root.step here component = .reach place) : root.Hangs place := by
  have hground := hhere.grounded (dirAt_of_step h)
  unfold Node.step at h
  split at h
  · split_ifs at h
    · cases h
      exact hhere
    · cases h
      exact hhere
    · cases h
      exact hhere.dropLast
    · split at h
      · exact absurd h (by simp)
      · exact absurd h (by simp)
      · cases h
        exact hground.hangs_concat component
  · exact absurd h (by simp)

theorem hangs_of_resolve {cwd : Option Location} {text : String}
    (hcwd : ∀ here ∈ cwd, root.Hangs here) (h : root.resolve cwd text = .ok place) :
    root.Hangs place :=
  resolve_invariant hangs_nil (fun _ _ _ _ hreach hhere => hhere.step hreach) hcwd h

/-- A name leads down into a directory that stands there. -/
theorem step_of_dirAt {name : String} (hpart : Path.isPart name = true) (hdots : name ≠ "..")
    (hdir : root.DirAt (here ++ [name])) (h : ∀ error, root.step here name ≠ .stop error) :
    root.step here name = .reach (here ++ [name]) := by
  obtain ⟨mode, children, hbelow⟩ := hdir
  have hempty : name ≠ "" := by rintro rfl; exact absurd hpart (by decide)
  have hdot : name ≠ "." := by rintro rfl; exact absurd hpart (by decide)
  unfold step at h ⊢
  split at h
  · next passed siblings hnode =>
      rw [at?_append, hnode] at hbelow
      have hchild : Table.get? siblings name = some ⟨.dir mode, children⟩ := by
        simpa [Node.children] using hbelow
      simp only [hempty, hdot, hdots, hchild, if_false] at h ⊢
      split_ifs at h ⊢
      · exact absurd rfl (h _)
      · exact absurd rfl (h _)
      · rfl
  · exact absurd rfl (h .notDirectory)

/-- The names from the root down to a place lead to that place if everything on the way is a
    directory; no link is met. -/
theorem walk_of_grounded {links : Nat} {names : List String} {arrival : Arrival}
    (hground : root.Grounded (here ++ names)) (hnames : Location.Canonical names)
    (h : root.walk links here names = .ok arrival) : arrival = ⟨here ++ names, links⟩ := by
  induction names generalizing here with
  | nil =>
      rw [walk_nil] at h
      cases h
      rw [List.append_nil]
  | cons name rest ih =>
      obtain ⟨⟨hpart, hdots, -⟩, hrest⟩ := List.forall_mem_cons.1 hnames
      have hsplit : here ++ name :: rest = (here ++ [name]) ++ rest := by simp
      have hdir : root.DirAt (here ++ [name]) := by
        rw [hsplit] at hground
        exact hground _ (List.prefix_append _ _)
      have hstep : root.step here name = .reach (here ++ [name]) := by
        apply step_of_dirAt hpart hdots hdir
        intro error hstop
        rw [walk_cons, hstop] at h
        exact absurd h (by simp)
      rw [walk_cons, hstep] at h
      rw [hsplit] at hground ⊢
      exact ih hground hrest h

end Node

/-! ## Settled hosts -/

namespace Host

/-- The current directory, if there is one, is found where its path says, as that of a process is:
    the names can be those of a path, and everything on the way is a directory. -/
structure Settled (host : Host) : Prop where
  canonical : ∀ place ∈ host.cwd, Location.Canonical place
  grounded : ∀ place ∈ host.cwd?, host.tree.Grounded place

/-- The current directory is the one before, or a directory to which a path has led from there. -/
def Reaches (host : Host) (cwd : Option Location) : Prop :=
  cwd = host.cwd ∨ ∃ text place, host.tree.resolve host.cwd? text = .ok place ∧
    host.tree.DirAt place ∧ cwd = some place

variable {host after : Host} {wrapper root : Path} {place : Location} {text : String}

theorem reaches_of_leadsInto {path : Path} (h : host.LeadsInto path place) :
    host.Reaches (some place) := by
  obtain ⟨-, hresolve, mode, children, hdir, -⟩ := h
  exact .inr ⟨_, place, hresolve, ⟨mode, children, hdir⟩, rfl⟩

theorem reaches_of_enterProjectRoot (h : enterProjectRoot host wrapper = .ok (root, after)) :
    host.Reaches after.cwd := by
  obtain ⟨-, -, place, hleads, rfl⟩ := enterProjectRoot_eq_ok_iff.1 h
  exact reaches_of_leadsInto hleads

theorem reaches_of_chdir (h : host.chdir text = .ok after) : host.Reaches after.cwd := by
  obtain ⟨place, ⟨-, hresolve, mode, children, hdir, -⟩, rfl⟩ := chdir_eq_ok_iff_resolve.1 h
  exact .inr ⟨text, place, hresolve, ⟨mode, children, hdir⟩, rfl⟩

theorem reaches_of_spawned (h : ∃ spawned, after = { host with spawned }) :
    host.Reaches after.cwd := by
  obtain ⟨spawned, rfl⟩ := h
  exact .inl rfl

/-- A process that moves along paths stays settled. -/
theorem Settled.of_reaches (h : host.Settled) (htree : host.tree = after.tree)
    (hcwd : host.Reaches after.cwd) : after.Settled := by
  rcases hcwd with hsame | ⟨text, place, hresolve, hdir, hmoved⟩
  · refine ⟨hsame ▸ h.canonical, ?_⟩
    have hcwd? : after.cwd? = host.cwd? := by simp only [cwd?, hsame, htree]
    rw [hcwd?, ← htree]
    exact h.grounded
  · refine ⟨?_, ?_⟩
    · intro other hother
      obtain rfl : place = other := Option.some.inj (hmoved.symm.trans hother)
      refine Node.canonical_of_resolve ?_ hresolve
      intro here hhere
      exact h.canonical here (Option.filter_eq_some_iff.1 hhere).1
    · intro other hother
      obtain rfl : place = other :=
        Option.some.inj (hmoved.symm.trans (Option.filter_eq_some_iff.1 hother).1)
      rw [← htree]
      refine (Node.hangs_of_resolve ?_ hresolve).grounded hdir
      intro here hhere
      exact (h.grounded here hhere).hangs

end Host

/-! ## Settled sessions -/

theorem Invocation.reaches_launch (invocation : Invocation) (host : Host) (runner : Runner) :
    host.Reaches (invocation.launch host runner).host.cwd := by
  obtain ⟨spawned, hlaunch⟩ := invocation.exists_host_launch host runner
  obtain ⟨progress, hcomes⟩ := invocation.exists_comes host
  simp only [hlaunch, hcomes.preflight_eq]
  cases hcomes with
  | lost hlocate => exact .inl rfl
  | outside hlocated henter => exact .inl (Host.cwd_selectManifest host _)
  | stopped hentered hresolve => exact Host.reaches_of_leadsInto hentered.enterable
  | ready hready => exact Host.reaches_of_leadsInto hready.enterable

namespace Session

variable {session : Session}

theorem reaches_step {request : Request} (h : request.isEdit = false) :
    session.host.Reaches (session.step request).2.host.cwd := by
  cases request with
  | selectManifest separate => exact .inl (Host.cwd_selectManifest _ _)
  | enterProjectRoot wrapper =>
      unfold step
      simp only
      split
      · next hentered => exact Host.reaches_of_enterProjectRoot hentered
      · exact .inl rfl
  | invokeDelegate command choice env =>
      simp only [step, host_after]
      exact Host.reaches_of_spawned (Runner.exists_host_replace _ _ _ _ _)
  | callRunner choice calls =>
      simp only [step, host_after]
      exact Host.reaches_of_spawned (RunnerCall.exists_host_applyAll _ _ _)
  | launch invocation choice =>
      simp only [step, host_after]
      exact invocation.reaches_launch _ _
  | runScript script searchPath =>
      simp only [step, Script.run]
      split
      · exact .inl rfl
      · split_ifs
        · exact Invocation.reaches_launch _ (script.startedOn session.host) .exec
        · exact .inl rfl
  | chdir text =>
      unfold step
      simp only
      split
      · next hmoved => exact Host.reaches_of_chdir hmoved
      · exact .inl rfl
  | edit edit => exact absurd h (by simp [Request.isEdit])
  -- All other requests only look.
  | _ => exact .inl rfl

/-- A session in which nothing is edited from outside keeps the process settled. -/
theorem settled_run {history : List Request} (hsettled : session.host.Settled)
    (h : ∀ request ∈ history, request.isEdit = false) :
    (session.run history).2.host.Settled := by
  induction history generalizing session with
  | nil => exact hsettled
  | cons request rest ih =>
      have hfirst := h request List.mem_cons_self
      exact ih (hsettled.of_reaches (alike_step hfirst).tree (reaches_step hfirst))
        fun request hmem => h request (List.mem_cons_of_mem _ hmem)

end Session

end Handoff
