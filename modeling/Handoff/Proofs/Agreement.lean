import Handoff.Proofs.Handover

set_option autoImplicit false

/-! # Launches that agree

Two launches, each with its own invocation on its own host, are compared. They agree
(`Invocation.Agrees`) if no stage of the preflight can tell them apart; then both come to the same
point (`Agrees.comes`). If the variables that reach the delegate list the same directories and have
the same fault, if any, the process search does not tell them apart either, and the launches end
alike (`Agrees.matches_ending`).

What alike means for the variables of a process that was replaced is left open: `Ending.Matches` has
it as a parameter. -/

namespace Handoff

/-- The tables bind each name alike, in whatever order. -/
def Table.SameBindings {β : Type} (first second : Table β) : Prop :=
  ∀ name, first.get? name = second.get? name

/-- The two operations end alike: with the same value, with the same failure, or by replacing the
    process by the same program with the same arguments, and variables related by `same`. -/
inductive Ending.Matches {α : Type} (same : Env → Env → Prop) : Ending α → Ending α → Prop
  | returned (value : α) : Matches same (.returned value) (.returned value)
  | replaced {path : String} {arguments : List String} {first second : Env}
      (h : same first second) :
      Matches same (.replaced ⟨path, arguments, first⟩) (.replaced ⟨path, arguments, second⟩)
  | failed (failure : Failure) : Matches same (.failed failure) (.failed failure)

theorem Ending.Matches.exists_replaced {α : Type} {same : Env → Env → Prop} {image : Image}
    {second : Ending α} (h : Matches same (.replaced image) second) :
    ∃ env, second = .replaced { image with env := env } ∧ same image.env env := by
  cases h with
  | replaced h => exact ⟨_, rfl, h⟩

theorem Ending.Matches.eq {α : Type} {first second : Ending α} (h : first.Matches (· = ·) second) :
    first = second := by
  cases h with
  | returned value => rfl
  | replaced h => rw [h]
  | failed failure => rfl

theorem Ending.Matches.launchVerdict {same : Env → Env → Prop} {first second : Ending Int}
    (h : first.Matches same second) (script : String) :
    (launchVerdict script first).Matches same (launchVerdict script second) := by
  cases h with
  | returned value => exact .returned value
  | replaced h => exact .replaced h
  | failed failure => cases failure <;> exact .failed _

theorem Ending.Matches.conclude {same : Env → Env → Prop} {first second : Ending Int}
    (h : first.Matches same second) (console console' : Console) :
    (conclude console first).1.Matches same (conclude console' second).1 := by
  cases h with
  | returned value => exact .returned value
  | replaced h => exact .replaced h
  | failed failure =>
      cases failure with
      | refusal refusal => exact .returned _
      | _ => exact .failed _

/-- The first fault among variables. -/
def Env.fault? (env : Env) : Option InvalidArgument :=
  env.findSome? fun entry => variableFault? entry.1 entry.2

theorem Env.Legal.fault?_eq_none {env : Env} (h : env.Legal) : env.fault? = none :=
  List.findSome?_eq_none_iff.2 h

/-! ## The process search -/

/-- Two results with the same image under a function are both successes or the same error. -/
theorem cases_of_map_eq_map {ε α β : Type} {f : α → β} {first second : Except ε α}
    (h : first.map f = second.map f) :
    (∃ a b, first = .ok a ∧ second = .ok b ∧ f a = f b) ∨
      ∃ error, first = .error error ∧ second = .error error := by
  cases first with
  | ok a =>
      cases second with
      | ok b => exact .inl ⟨a, b, rfl, rfl, by simpa [Except.map] using h⟩
      | error error => exact absurd h (by simp [Except.map])
  | error error =>
      cases second with
      | ok b => exact absurd h (by simp [Except.map])
      | error error' =>
          obtain rfl : error = error' := by simpa [Except.map] using h
          exact .inr ⟨error, rfl, rfl⟩

namespace Host

variable {host other : Host} {env env' : Env}

theorem path_execute_congr (htree : host.tree = other.tree) (hcwd : host.cwd = other.cwd)
    (hfault : env.fault? = env'.fault?) (path : String) (arguments : List String) :
    (host.execute ⟨path, arguments, env⟩).map Image.path =
      (other.execute ⟨path, arguments, env'⟩).map Image.path := by
  have himage : imageFault? ⟨path, arguments, env⟩ = imageFault? ⟨path, arguments, env'⟩ := by
    unfold imageFault?
    unfold Env.fault? at hfault
    rw [hfault]
  have hcwd? : host.cwd? = other.cwd? := by
    unfold cwd?
    rw [htree, hcwd]
  simp only [execute, himage, htree, hcwd?]
  split
  · rfl
  · split
    · rfl
    · split
      · split_ifs
        · rfl
        · split <;> rfl
      · rfl

/-- Trying does not depend on the variables beyond their fault. -/
theorem path_tryEach_congr (htree : host.tree = other.tree) (hcwd : host.cwd = other.cwd)
    (hfault : env.fault? = env'.fault?) (arguments : List String) (saved : Option SystemError)
    (last : SystemError) (paths : List String) :
    (host.tryEach arguments env saved last paths).map Image.path =
      (other.tryEach arguments env' saved last paths).map Image.path := by
  induction paths generalizing saved last with
  | nil => rfl
  | cons path rest ih =>
      rw [tryEach, tryEach]
      obtain ⟨image, image', hfirst, hsecond, hpath⟩ | ⟨error, hfirst, hsecond⟩ :=
        cases_of_map_eq_map (path_execute_congr htree hcwd hfault path arguments)
      · rw [hfirst, hsecond]
        exact congrArg Except.ok hpath
      · rw [hfirst, hsecond]
        cases error with
        | invalid reason => rfl
        | system error => exact ih _ _

end Host

namespace Runner

variable {host other : Host} {env env' : Option Env} {same : Env → Env → Prop}

/-- Hosts with the same files and the same current directory replace the process alike, if the
    variables list the same directories and have the same fault. -/
theorem matches_replaceProcess (htree : host.tree = other.tree) (hcwd : host.cwd = other.cwd)
    (hpath : (mergedEnv host env).get? searchPathName = (mergedEnv other env').get? searchPathName)
    (hfault : (mergedEnv host env).fault? = (mergedEnv other env').fault?)
    (hsame : same (mergedEnv host env) (mergedEnv other env')) (command : List String) :
    (replaceProcess host command env).Matches same (replaceProcess other command env') := by
  cases command with
  | nil => exact .failed _
  | cons program rest =>
      have hcandidates : candidates (mergedEnv other env') program =
          candidates (mergedEnv host env) program := by
        unfold candidates searchDirectories
        rw [hpath]
      simp only [replaceProcess, Host.launch, hcandidates]
      obtain ⟨image, image', hfirst, hsecond, himage⟩ | ⟨error, hfirst, hsecond⟩ :=
        cases_of_map_eq_map (Host.path_tryEach_congr htree hcwd hfault (program :: rest) none
          (.ofWalk .missing program) (candidates (mergedEnv host env) program))
      · -- The images hold the words and the variables of the request, so only the paths count.
        obtain ⟨path, -, rfl⟩ := Host.exists_path_of_tryEach hfirst
        obtain ⟨path', -, rfl⟩ := Host.exists_path_of_tryEach hsecond
        obtain rfl : path = path' := himage
        rw [hfirst, hsecond]
        exact .replaced hsame
      · rw [hfirst, hsecond]
        exact .failed _

end Runner

/-! ## The launches -/

namespace Invocation

/-- The variables that reach the delegate. -/
def delegateEnv (invocation : Invocation) (host : Host) : Env :=
  Runner.mergedEnv (host.selectManifest invocation.separateEnv)
    (invocation.separateEnv.map Env.selectManifest)

theorem get?_delegateEnv (invocation : Invocation) (host : Host) (name : String) :
    (invocation.delegateEnv host).get? name =
      if name = manifestVariable then some manifestPath
      else (invocation.separateEnv.bind (Table.get? · name)).or (host.env.get? name) := by
  show (Runner.mergedEnv (invocation.readyHost host []) _).get? name = _
  exact get?_mergedEnv_readyHost name

/-- A process that is replaced leaves the host as the preflight left it. -/
theorem host_launch_exec (invocation : Invocation) (host : Host) :
    (invocation.launch host .exec).host = (invocation.preflight host).host := by
  simp only [launch, handOver]
  cases (invocation.preflight host).verdict <;> rfl

/-- With the same search path a program is found from the same directory in both or in neither. -/
theorem isSome_which_congr {host other : Host} (htree : host.tree = other.tree)
    (hpath : host.env.get? searchPathName = other.env.get? searchPathName) (place : Location)
    (name : String) :
    ({ host with cwd := some place }.which name).isSome =
      ({ other with cwd := some place }.which name).isSome := by
  congr 1
  apply Host.which_congr
  · exact htree
  · rfl
  · exact hpath

/-- No stage of the preflight can tell the two launches apart: the files and the launcher's file
    are the same, and so is what is asked for. -/
structure Agrees (first : Invocation) (host : Host) (second : Invocation) (other : Host) :
    Prop where
  tree : host.tree = other.tree
  chdirFault : host.chdirFault = other.chdirFault
  located : locateWrapper host first.file = locateWrapper other second.file
  arguments : first.argumentsOn host = second.argumentsOn other
  delegate : (first.settingsOn host).delegate = (second.settingsOn other).delegate
  interpreter : (first.settingsOn host).interpreter = (second.settingsOn other).interpreter
  /-- The interpreter is found in both or in neither, once the project root was entered. -/
  found : ∀ wrapper place, first.EntersRoot host wrapper place →
    ∀ name, (first.settingsOn host).interpreter? = some name →
      ({ host with cwd := some place }.which name).isSome =
        ({ other with cwd := some place }.which name).isSome

namespace Agrees

variable {first second : Invocation} {host other : Host} {wrapper : Path} {place : Location}

theorem locates (h : first.Agrees host second other) :
    host.Locates first.file wrapper ↔ other.Locates second.file wrapper := by
  rw [← locateWrapper_eq_ok_iff, h.located, locateWrapper_eq_ok_iff]

theorem entersRoot (h : first.Agrees host second other) :
    first.EntersRoot host wrapper place ↔ second.EntersRoot other wrapper place := by
  constructor
  · rintro ⟨hlocated, hleads⟩
    have hroot := hlocated.isAbsolute_projectRoot
    exact ⟨h.locates.1 hlocated, (Host.leadsInto_congr hroot h.tree h.chdirFault).1 hleads⟩
  · rintro ⟨hlocated, hleads⟩
    have hroot := hlocated.isAbsolute_projectRoot
    exact ⟨h.locates.2 hlocated, (Host.leadsInto_congr hroot h.tree h.chdirFault).2 hleads⟩

theorem resolveDelegate_eq (h : first.Agrees host second other)
    (hentered : first.EntersRoot host wrapper place) (root : Path) :
    resolveDelegate { host with cwd := some place } root (first.settingsOn host) =
      resolveDelegate { other with cwd := some place } root (second.settingsOn other) := by
  apply resolveDelegate_congr root
  · exact h.tree
  · rfl
  · exact h.delegate
  · unfold Settings.interpreter?
    rw [h.interpreter]
  · exact h.found wrapper place hentered

theorem scriptPath_eq (h : first.Agrees host second other) (wrapper : Path) :
    first.scriptPath host wrapper = second.scriptPath other wrapper := by
  unfold scriptPath
  rw [h.delegate]

theorem readyCommand_eq (h : first.Agrees host second other) (wrapper : Path) :
    first.readyCommand host wrapper = second.readyCommand other wrapper := by
  simp only [readyCommand, buildCommand, h.scriptPath_eq, h.arguments, h.delegate, h.interpreter]

/-- Launches that agree come to the same point. -/
theorem comes (h : first.Agrees host second other) {progress : Progress}
    (hcomes : first.Comes host progress) : second.Comes other progress := by
  cases hcomes with
  | lost hlocate =>
      rw [h.located] at hlocate
      exact .lost hlocate
  | outside hlocated henter =>
      -- The root's path is absolute, so both hosts fail to enter it in the same way.
      obtain ⟨error, hchdir, rfl⟩ := (enterProjectRoot_eq_error_iff hlocated).1 henter
      have hchdir' := Host.chdir_error_congr hlocated.isAbsolute_projectRoot h.tree h.chdirFault
        hchdir
      have hlocated' := h.locates.1 hlocated
      exact .outside hlocated' ((enterProjectRoot_eq_error_iff hlocated').2 ⟨error, hchdir', rfl⟩)
  | stopped hentered hresolve =>
      rw [h.resolveDelegate_eq hentered] at hresolve
      exact .stopped (h.entersRoot.1 hentered) hresolve
  | ready hready =>
      obtain ⟨hlocated, hleads⟩ := h.entersRoot.1 hready.entersRoot
      have hresolve := resolveDelegate_eq_ok_iff.2 ⟨rfl, hready.launchable⟩
      rw [h.resolveDelegate_eq hready.entersRoot] at hresolve
      obtain ⟨hscript, hcan⟩ := resolveDelegate_eq_ok_iff.1 hresolve
      exact .ready ⟨hlocated, hleads, h.scriptPath_eq _ ▸ hcan⟩

/-- Launches that agree stop for the same reason, or both are ready. -/
theorem stop_or_ready (h : first.Agrees host second other) :
    (∃ failure, (first.preflight host).verdict = .error failure ∧
      (second.preflight other).verdict = .error failure) ∨
    ∃ wrapper place, first.Ready host wrapper place ∧ second.Ready other wrapper place := by
  obtain ⟨progress, hcomes⟩ := first.exists_comes host
  have hcomes' := h.comes hcomes
  rw [hcomes.preflight_eq, hcomes'.preflight_eq]
  cases progress with
  | lost failure => exact .inl ⟨failure, rfl, rfl⟩
  | outside failure => exact .inl ⟨failure, rfl, rfl⟩
  | stopped wrapper place failure => exact .inl ⟨failure, rfl, rfl⟩
  | ready wrapper place =>
      cases hcomes with
      | ready hready =>
      cases hcomes' with
      | ready hready' => exact .inr ⟨wrapper, place, hready, hready'⟩

/-- Launches that agree end alike where the variables that reach the delegate list the same
    directories and have the same fault. -/
theorem matches_ending (h : first.Agrees host second other) {same : Env → Env → Prop}
    (hpath : (first.delegateEnv host).get? searchPathName =
      (second.delegateEnv other).get? searchPathName)
    (hfault : (first.delegateEnv host).fault? = (second.delegateEnv other).fault?)
    (hsame : same (first.delegateEnv host) (second.delegateEnv other)) :
    (first.launch host .exec).ending.Matches same (second.launch other .exec).ending := by
  rcases h.stop_or_ready with ⟨failure, hfirst, hsecond⟩ | ⟨wrapper, place, hready, hready'⟩
  · simp only [launch, handOver, hfirst, hsecond]
    exact Ending.Matches.conclude (.failed failure) _ _
  · rw [(hready.launch_eq .exec).2.2, (hready'.launch_eq .exec).2.2, h.readyCommand_eq]
    apply Ending.Matches.conclude
    apply Ending.Matches.launchVerdict
    have htree : (first.readyHost host place).tree = (second.readyHost other place).tree := by
      unfold readyHost
      rw [Host.tree_selectManifest, Host.tree_selectManifest, h.tree]
    simp only [handover, Runner.replace, h.readyCommand_eq]
    exact Runner.matches_replaceProcess htree rfl hpath hfault hsame _

/-- Launches that agree leave hosts behind that differ in the variables only, if the hosts did so
    before. -/
theorem host_eq (h : first.Agrees host second other)
    (hother : other = { host with env := other.env }) :
    (second.launch other .exec).host =
      { (first.launch host .exec).host with env := (second.launch other .exec).host.env } := by
  obtain ⟨progress, hcomes⟩ := first.exists_comes host
  have hcomes' := h.comes hcomes
  rw [host_launch_exec, host_launch_exec, hcomes.preflight_eq, hcomes'.preflight_eq]
  generalize other.env = env at hother
  subst hother
  have hselected : ∀ {separate separate' : Option Env},
      ({ host with env := env } : Host).selectManifest separate' =
        { host.selectManifest separate with
          env := (({ host with env := env } : Host).selectManifest separate').env } := by
    intro separate separate'
    cases separate <;> cases separate' <;> rfl
  cases progress with
  | lost failure => rfl
  | outside failure => exact hselected
  | stopped wrapper place failure =>
      simp only [preflightAt, readyHost]
      rw [hselected]
  | ready wrapper place =>
      simp only [preflightAt, readyHost]
      rw [hselected]

end Agrees

end Invocation

end Handoff
