import Handoff.Proofs.Root

set_option autoImplicit false

/-! # How far a preflight comes

The three stages of `Invocation.preflight` put together. A preflight can end at each of them, and
`Invocation.Comes` says where it does, in terms of the host as it is before the launch. It comes to
some point (`exists_comes`), and the point settles all that it has done by then
(`Comes.preflight_eq`).

The last of the points is that everything is ready: `Invocation.Ready` states what the stages ask
for. The preflight passes exactly then: `exists_ready_of_verdict` is the one direction, and
`Ready.preflight_eq` the other.

Between two stages the host changes: the manifest is selected and the directory is entered. That
neither matters to a later stage, apart from relative paths, follows from what the requests to the
system look at (`Host.lookup_congr`, `Host.which_congr`). -/

namespace Handoff

namespace Host

variable {host other : Host}

/-! ## What requests look at -/

theorem lookup_congr (htree : host.tree = other.tree) (hcwd : host.cwd = other.cwd)
    (text : String) : host.lookup text = other.lookup text := by
  simp [lookup, cwd?, htree, hcwd]

theorem runnable_congr (htree : host.tree = other.tree) (hcwd : host.cwd = other.cwd)
    (text : String) : host.runnable text = other.runnable text := by
  simp [runnable, mayExecute, permits, node?, lookup_congr htree hcwd, htree]

/-- Of the variables only the search path matters to where a program is found. -/
theorem which_congr (htree : host.tree = other.tree) (hcwd : host.cwd = other.cwd)
    (hpath : host.env.get? searchPathName = other.env.get? searchPathName) (name : String) :
    host.which name = other.which name := by
  have hrun : host.runnable = other.runnable := funext (runnable_congr htree hcwd)
  simp [which, candidates, searchDirectories, hpath, hrun]

/-- The way to an absolute path does not start from the current directory. -/
theorem leadsInto_congr {path : Path} {place : Location} (habs : path.isAbsolute = true)
    (htree : host.tree = other.tree) (hfault : host.chdirFault = other.chdirFault) :
    host.LeadsInto path place ↔ other.LeadsInto path place := by
  unfold LeadsInto
  rw [htree, hfault, Node.resolve_of_isAbsolute habs host.cwd? other.cwd?]

theorem chdir_error_congr {path : Path} {error : SystemError} (habs : path.isAbsolute = true)
    (htree : host.tree = other.tree) (hfault : host.chdirFault = other.chdirFault)
    (h : host.chdir path.text = .error error) : other.chdir path.text = .error error := by
  unfold chdir at h ⊢
  rw [htree, hfault, Node.resolve_of_isAbsolute habs host.cwd? other.cwd?] at h
  split at h
  · exact h
  · split at h
    · exact h
    · split at h
      · split_ifs at h with hx
        rw [if_neg hx]
        exact h
      · exact h

/-! ## Selecting the manifest -/

variable (host) (separate : Option Env)

@[simp] theorem tree_selectManifest : (host.selectManifest separate).tree = host.tree := by
  cases separate <;> rfl

@[simp] theorem cwd_selectManifest : (host.selectManifest separate).cwd = host.cwd := by
  cases separate <;> rfl

@[simp] theorem chdirFault_selectManifest :
    (host.selectManifest separate).chdirFault = host.chdirFault := by
  cases separate <;> rfl

@[simp] theorem spawned_selectManifest :
    (host.selectManifest separate).spawned = host.spawned := by
  cases separate <;> rfl

/-- The search path is not touched. -/
theorem searchPath_selectManifest :
    (host.selectManifest separate).env.get? searchPathName = host.env.get? searchPathName := by
  cases separate with
  | none => exact Env.get?_selectManifest host.env searchPathName
  | some env => rfl

theorem locates_selectManifest {file : Option String} {wrapper : Path} :
    (host.selectManifest separate).Locates file wrapper ↔ host.Locates file wrapper := by
  cases separate <;> exact Iff.rfl

theorem leadsInto_selectManifest {path : Path} {place : Location} :
    (host.selectManifest separate).LeadsInto path place ↔ host.LeadsInto path place := by
  simp [LeadsInto, cwd?]

end Host

/-- Of the host the delegate's stage sees the files, the directory it is in, and whether the
    interpreter is found; of the settings it sees the delegate and the interpreter. -/
theorem resolveDelegate_congr {host other : Host} {settings others : Settings} (root : Path)
    (htree : host.tree = other.tree) (hcwd : host.cwd = other.cwd)
    (hdelegate : settings.delegate = others.delegate)
    (hinterpreter : settings.interpreter? = others.interpreter?)
    (hfound : ∀ interpreter, settings.interpreter? = some interpreter →
      (host.which interpreter).isSome = (other.which interpreter).isSome) :
    resolveDelegate host root settings = resolveDelegate other root others := by
  have hlook : host.lookup = other.lookup := funext (Host.lookup_congr htree hcwd)
  have hread : host.mayRead = other.mayRead := by
    funext text
    simp [Host.mayRead, Host.permits, Host.node?, hlook, htree]
  have hexec : host.mayExecute = other.mayExecute := by
    funext text
    simp [Host.mayExecute, Host.permits, Host.node?, hlook, htree]
  have hobstacle : ∀ script, launchObstacle? host script settings =
      launchObstacle? other script others := by
    intro script
    unfold launchObstacle?
    rw [← hinterpreter, hread, hexec]
    cases hname : settings.interpreter? with
    | none => rfl
    | some interpreter =>
        have hnone : (host.which interpreter).isNone = (other.which interpreter).isNone := by
          rw [← Option.not_isSome, ← Option.not_isSome, hfound interpreter hname]
        simp only [hnone]
  unfold resolveDelegate Host.probe
  simp only [hdelegate, hlook, htree, hobstacle]

namespace Invocation

variable {invocation : Invocation} {host : Host} {wrapper : Path} {place : Location}

/-! ## The stages together -/

/-- The path under which the delegate is looked for. -/
def scriptPath (invocation : Invocation) (host : Host) (wrapper : Path) : Path :=
  (projectRoot wrapper).join (.ofText (invocation.settingsOn host).delegate)

/-- The launcher's file is at `wrapper`, and its project root leads into the directory `place`. -/
structure EntersRoot (invocation : Invocation) (host : Host) (wrapper : Path) (place : Location) :
    Prop where
  located : host.Locates invocation.file wrapper
  enterable : host.LeadsInto (projectRoot wrapper) place

/-- Everything that a launch asks for before it hands over: the launcher's file is at `wrapper`,
    the project root leads into the directory `place`, and seen from there the delegate can be
    launched. -/
structure Ready (invocation : Invocation) (host : Host) (wrapper : Path) (place : Location) :
    Prop where
  located : host.Locates invocation.file wrapper
  enterable : host.LeadsInto (projectRoot wrapper) place
  launchable : { host with cwd := some place }.CanLaunch (invocation.scriptPath host wrapper)
    (invocation.settingsOn host)

theorem Ready.entersRoot (h : invocation.Ready host wrapper place) :
    invocation.EntersRoot host wrapper place := ⟨h.located, h.enterable⟩

/-- The host when the project root was entered. -/
def readyHost (invocation : Invocation) (host : Host) (place : Location) : Host :=
  { host.selectManifest invocation.separateEnv with cwd := some place }

/-- The command that the preflight comes to. -/
def readyCommand (invocation : Invocation) (host : Host) (wrapper : Path) : DelegateCommand :=
  buildCommand (invocation.scriptPath host wrapper) (invocation.argumentsOn host)
    (invocation.settingsOn host)

theorem EntersRoot.cwd?_readyHost (h : invocation.EntersRoot host wrapper place) :
    (invocation.readyHost host place).cwd? = some place := by
  refine Host.cwd?_of_passable rfl ?_
  unfold readyHost
  rw [Host.tree_selectManifest]
  exact h.enterable.2.2

theorem Ready.cwd?_readyHost (h : invocation.Ready host wrapper place) :
    (invocation.readyHost host place).cwd? = some place := h.entersRoot.cwd?_readyHost

/-- A located launcher has a path that can be passed on, and so has its project root. -/
theorem EntersRoot.enterProjectRoot_eq {seen : Host} (h : invocation.EntersRoot host wrapper place)
    (hleads : seen.LeadsInto (projectRoot wrapper) place) :
    enterProjectRoot seen wrapper = .ok (projectRoot wrapper, { seen with cwd := some place }) := by
  obtain ⟨name, found, -, -, hlook⟩ := h.located
  have hnull : hasNull (projectRoot wrapper).text = false :=
    hasNull_projectRoot (Host.lookup_eq_ok_iff.1 hlook).1
  exact enterProjectRoot_eq_ok_iff.2 ⟨rfl, hnull, place, hleads, rfl⟩

/-- That the manifest was selected does not matter to the delegate's stage. -/
theorem resolveDelegate_readyHost (invocation : Invocation) (host : Host) (place : Location)
    (root : Path) (settings : Settings) :
    resolveDelegate (invocation.readyHost host place) root settings =
      resolveDelegate { host with cwd := some place } root settings := by
  have htree : (invocation.readyHost host place).tree = host.tree := Host.tree_selectManifest host _
  have hwhich : (invocation.readyHost host place).which =
      ({ host with cwd := some place } : Host).which :=
    funext (Host.which_congr htree rfl (Host.searchPath_selectManifest host _))
  apply resolveDelegate_congr root
  · exact htree
  · rfl
  · rfl
  · rfl
  · intro interpreter _
    rw [hwhich]

/-! ## The points that a preflight comes to -/

end Invocation

/-- Where a preflight ends. -/
inductive Progress where
  /-- The launcher's file was not located. -/
  | lost (failure : Failure)
  /-- The project root was not entered. -/
  | outside (failure : Failure)
  /-- The delegate cannot be launched. -/
  | stopped (wrapper : Path) (place : Location) (failure : Failure)
  /-- Everything is ready. -/
  | ready (wrapper : Path) (place : Location)

namespace Invocation

variable {invocation : Invocation} {host : Host} {wrapper : Path} {place : Location}
  {progress : Progress}

/-- The preflight comes to the given point. -/
inductive Comes (invocation : Invocation) (host : Host) : Progress → Prop
  | lost {failure : Failure} (hlocate : locateWrapper host invocation.file = .error failure) :
      Comes invocation host (.lost failure)
  | outside {wrapper : Path} {failure : Failure} (hlocated : host.Locates invocation.file wrapper)
      (henter : enterProjectRoot host wrapper = .error failure) :
      Comes invocation host (.outside failure)
  | stopped {wrapper : Path} {place : Location} {failure : Failure}
      (hentered : invocation.EntersRoot host wrapper place)
      (hresolve : resolveDelegate { host with cwd := some place } (projectRoot wrapper)
        (invocation.settingsOn host) = .error failure) :
      Comes invocation host (.stopped wrapper place failure)
  | ready {wrapper : Path} {place : Location} (hready : invocation.Ready host wrapper place) :
      Comes invocation host (.ready wrapper place)

theorem exists_comes (invocation : Invocation) (host : Host) :
    ∃ progress, invocation.Comes host progress := by
  cases hlocate : locateWrapper host invocation.file with
  | error failure => exact ⟨_, .lost hlocate⟩
  | ok wrapper =>
      have hlocated := locateWrapper_eq_ok_iff.1 hlocate
      cases henter : enterProjectRoot host wrapper with
      | error failure => exact ⟨_, .outside hlocated henter⟩
      | ok entered =>
          obtain ⟨root, after⟩ := entered
          obtain ⟨rfl, -, place, hleads, rfl⟩ := enterProjectRoot_eq_ok_iff.1 henter
          cases hresolve : resolveDelegate { host with cwd := some place } (projectRoot wrapper)
              (invocation.settingsOn host) with
          | error failure => exact ⟨_, .stopped ⟨hlocated, hleads⟩ hresolve⟩
          | ok script =>
              obtain ⟨rfl, hcan⟩ := resolveDelegate_eq_ok_iff.1 hresolve
              exact ⟨_, .ready ⟨hlocated, hleads, hcan⟩⟩

/-- What is printed when the project root was entered. -/
def enteredPrints (invocation : Invocation) (host : Host) (wrapper : Path) : List Print :=
  (invocation.consoleOn host).say .debug manifestMessage ++
    (invocation.consoleOn host).say .debug ("Project root: " ++ (projectRoot wrapper).text)

/-- What the preflight has done when it comes to a point. -/
def preflightAt (invocation : Invocation) (host : Host) : Progress → Preflight
  | .lost failure =>
    { host, separateEnv := invocation.separateEnv, prints := [], verdict := .error failure }
  | .outside failure =>
    { host := host.selectManifest invocation.separateEnv
      separateEnv := invocation.separateEnv.map Env.selectManifest
      prints := (invocation.consoleOn host).say .debug manifestMessage
      verdict := .error failure }
  | .stopped wrapper place failure =>
    { host := invocation.readyHost host place
      separateEnv := invocation.separateEnv.map Env.selectManifest
      prints := invocation.enteredPrints host wrapper
      verdict := .error failure }
  | .ready wrapper place =>
    { host := invocation.readyHost host place
      separateEnv := invocation.separateEnv.map Env.selectManifest
      prints := invocation.enteredPrints host wrapper ++
        (invocation.consoleOn host).say .info
          ("Handing off to " ++ Shell.commandLine (invocation.readyCommand host wrapper).words)
      verdict := .ok (invocation.readyCommand host wrapper) }

/-- The point settles what the preflight has done. -/
theorem Comes.preflight_eq (h : invocation.Comes host progress) :
    invocation.preflight host = invocation.preflightAt host progress := by
  have hselected : ∀ {wrapper place}, host.LeadsInto (projectRoot wrapper) place →
      (host.selectManifest invocation.separateEnv).LeadsInto (projectRoot wrapper) place :=
    (Host.leadsInto_selectManifest host _).2
  unfold preflight
  cases h with
  | lost hlocate => simp only [hlocate, preflightAt]
  | outside hlocated henter =>
      obtain ⟨error, hchdir, rfl⟩ := (enterProjectRoot_eq_error_iff hlocated).1 henter
      have henter' := (enterProjectRoot_eq_error_iff
        ((Host.locates_selectManifest host invocation.separateEnv).2 hlocated)).2
        ⟨error, Host.chdir_error_congr hlocated.isAbsolute_projectRoot
          (Host.tree_selectManifest host _).symm (Host.chdirFault_selectManifest host _).symm
          hchdir, rfl⟩
      simp only [locateWrapper_eq_ok_iff.2 hlocated, henter', preflightAt]
  | stopped hentered hresolve =>
      rw [← resolveDelegate_readyHost invocation] at hresolve
      simp only [locateWrapper_eq_ok_iff.2 hentered.located,
        hentered.enterProjectRoot_eq (hselected hentered.enterable)]
      unfold readyHost at hresolve
      simp only [hresolve, preflightAt, readyHost, enteredPrints]
  | ready hready =>
      have hresolve := resolveDelegate_eq_ok_iff.2 ⟨rfl, hready.launchable⟩
      rw [← resolveDelegate_readyHost invocation] at hresolve
      simp only [locateWrapper_eq_ok_iff.2 hready.located,
        hready.entersRoot.enterProjectRoot_eq (hselected hready.enterable)]
      unfold readyHost at hresolve
      simp only [hresolve, preflightAt, readyHost, enteredPrints, readyCommand, scriptPath]

/-- The preflight passes where everything is ready, and this is how it leaves the host. -/
theorem Ready.preflight_eq (h : invocation.Ready host wrapper place) :
    (invocation.preflight host).verdict = .ok (invocation.readyCommand host wrapper) ∧
      (invocation.preflight host).host = invocation.readyHost host place ∧
      (invocation.preflight host).separateEnv =
        invocation.separateEnv.map Env.selectManifest := by
  rw [(Comes.ready h).preflight_eq]
  exact ⟨rfl, rfl, rfl⟩

/-- Where the preflight passes, everything is ready. -/
theorem exists_ready_of_verdict {command : DelegateCommand}
    (h : (invocation.preflight host).verdict = .ok command) :
    ∃ wrapper place, invocation.Ready host wrapper place := by
  obtain ⟨progress, hcomes⟩ := invocation.exists_comes host
  rw [hcomes.preflight_eq] at h
  cases hcomes with
  | ready hready => exact ⟨_, _, hready⟩
  | _ => exact absurd h (by simp [preflightAt])

/-- No program is started before the hand-over. -/
theorem spawned_preflight : (invocation.preflight host).host.spawned = host.spawned := by
  obtain ⟨progress, hcomes⟩ := invocation.exists_comes host
  rw [hcomes.preflight_eq]
  cases progress with
  | lost => rfl
  | _ => exact Host.spawned_selectManifest host _

end Invocation

end Handoff
