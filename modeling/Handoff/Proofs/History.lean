import Mathlib.Data.List.Forall2
import Handoff.Proofs.Agreement
import Handoff.Proofs.Effects
import Handoff.Session.Step

set_option autoImplicit false

/-! # What a session leaves to a launch

Requests change the current directory, select the manifest in the variables of the process and
start programs. Unless the host is edited from outside they change nothing else, so the host after a
session is `Host.Alike` to the one before it (`Session.alike_run`).

A launch that is told its arguments and, by an absolute path, its file does not see the difference
between hosts that are alike. `Session.launch_after_history` puts the two together: such a launch
gives the same answer after a session as at its start. -/

namespace Handoff

/-! ## The manifest selected before -/

theorem Env.selectManifest_selectManifest (env : Env) :
    env.selectManifest.selectManifest = env.selectManifest :=
  Table.set_set env manifestVariable manifestPath manifestPath

/-- Variables without fault can be left out of the search for the first fault. -/
theorem Env.fault?_erase {env : Env} {name : String}
    (h : ∀ value, (name, value) ∈ env → variableFault? name value = none) :
    Env.fault? (env.erase name) = env.fault? := by
  induction env with
  | nil => rfl
  | cons first rest ih =>
      obtain ⟨key, value⟩ := first
      have hrest := ih fun value hmem => h value (List.mem_cons_of_mem _ hmem)
      unfold fault? Table.erase at hrest ⊢
      by_cases hkey : key = name
      · subst hkey
        rw [List.filter_cons_of_neg (by simp), hrest]
        simp only [List.findSome?_cons, h value List.mem_cons_self]
      · rw [List.filter_cons_of_pos (by simpa using hkey)]
        simp only [List.findSome?_cons, hrest]

/-- Where the manifest is selected in the upper variables, the lower ones need not have it selected
    to have the same first fault. -/
theorem Env.fault?_overlay_selectManifest (base : Env) {top : Env} (htop : Table.Distinct top) :
    Env.fault? (base.selectManifest.overlay top.selectManifest) =
      Env.fault? (base.overlay top.selectManifest) := by
  have hmanifest : ∀ (lower : Env) (value : String),
      (manifestVariable, value) ∈ lower.overlay top.selectManifest →
      variableFault? manifestVariable value = none := by
    intro lower value hmem
    have hvalue : value = manifestPath := by
      rcases Table.mem_overlay_iff.1 hmem with ⟨old, -, hvalue⟩ | ⟨hentry, -⟩
      · rw [hvalue, Env.get?_selectManifest, if_pos rfl]
        rfl
      · exact Table.eq_of_mem_set htop hentry
    rw [hvalue]
    decide
  -- The overlays hold the manifest's variable at different places, or not at all, and are the same
  -- list without it.
  calc Env.fault? (base.selectManifest.overlay top.selectManifest)
      = Env.fault? ((base.selectManifest.overlay top.selectManifest).erase manifestVariable) :=
        (Env.fault?_erase (hmanifest _)).symm
    _ = Env.fault? ((base.overlay top.selectManifest).erase manifestVariable) := by
        rw [Table.erase_overlay, Table.erase_overlay]
        unfold Env.selectManifest
        rw [Table.erase_set base]
    _ = Env.fault? (base.overlay top.selectManifest) := Env.fault?_erase (hmanifest _)

/-! ## Hosts that are alike -/

namespace Host

/-- The hosts differ only in the current directory, in whether the manifest is selected, in how the
    process was started and in the programs that it has started. -/
structure Alike (host other : Host) : Prop where
  tree : host.tree = other.tree
  chdirFault : host.chdirFault = other.chdirFault
  childFate : host.childFate = other.childFate
  env : host.env.selectManifest = other.env.selectManifest

namespace Alike

variable {host other third : Host}

theorem refl (host : Host) : host.Alike host := ⟨rfl, rfl, rfl, rfl⟩

theorem trans (h : host.Alike other) (h' : other.Alike third) : host.Alike third :=
  ⟨h.tree.trans h'.tree, h.chdirFault.trans h'.chdirFault, h.childFate.trans h'.childFate,
    h.env.trans h'.env⟩

theorem ofSelectManifest (host : Host) (separate : Option Env) :
    host.Alike (host.selectManifest separate) := by
  cases separate with
  | none => exact ⟨rfl, rfl, rfl, (Env.selectManifest_selectManifest host.env).symm⟩
  | some env => exact refl host

theorem selectManifest (h : host.Alike other) (separate : Option Env) :
    (host.selectManifest separate).Alike (other.selectManifest separate) := by
  cases separate with
  | none => exact ⟨h.tree, h.chdirFault, h.childFate, congrArg Env.selectManifest h.env⟩
  | some env => exact h

theorem readyHost (h : host.Alike other) (invocation : Invocation) (place : Location) :
    (invocation.readyHost host place).Alike (invocation.readyHost other place) := by
  have hselected := h.selectManifest invocation.separateEnv
  exact ⟨hselected.tree, hselected.chdirFault, hselected.childFate, hselected.env⟩

theorem get?_env (h : host.Alike other) {name : String} (hname : name ≠ manifestVariable) :
    host.env.get? name = other.env.get? name := by
  have hget := congrArg (Table.get? · name) h.env
  simpa only [Env.get?_selectManifest, if_neg hname.symm] using hget

theorem ofEnterProjectRoot {wrapper root : Path} {entered : Host}
    (h : enterProjectRoot host wrapper = .ok (root, entered)) : host.Alike entered := by
  obtain ⟨-, -, place, -, rfl⟩ := enterProjectRoot_eq_ok_iff.1 h
  exact ⟨rfl, rfl, rfl, rfl⟩

theorem ofChdir {text : String} {moved : Host} (h : host.chdir text = .ok moved) :
    host.Alike moved := by
  obtain ⟨place, -, rfl⟩ := chdir_eq_ok_iff_resolve.1 h
  exact ⟨rfl, rfl, rfl, rfl⟩

end Alike

end Host

/-! ## What a request changes -/

theorem RunnerCall.exists_host_applyAll (calls : List RunnerCall) (runner : Runner) (host : Host) :
    ∃ spawned, (applyAll calls runner host).2.1 = { host with spawned } := by
  induction calls generalizing runner host with
  | nil => exact ⟨_, rfl⟩
  | cons call rest ih =>
      obtain ⟨started, hcall⟩ :
          ∃ spawned, (call.apply runner host).host = { host with spawned } := by
        cases call with
        | run command directory env note => exact runner.exists_host_run _ _ _ _ _
        | replace command env note => exact runner.exists_host_replace _ _ _ _
        | format command => exact ⟨_, rfl⟩
      obtain ⟨spawned, hrest⟩ := ih (call.apply runner host).runner (call.apply runner host).host
      refine ⟨spawned, ?_⟩
      unfold applyAll
      simp only
      rw [hrest, hcall]

namespace Host.Alike

variable {host other : Host}

theorem ofSpawned (h : ∃ spawned, other = { host with spawned }) : host.Alike other := by
  obtain ⟨spawned, rfl⟩ := h
  exact ⟨rfl, rfl, rfl, rfl⟩

theorem ofPreflight (invocation : Invocation) (host : Host) :
    host.Alike (invocation.preflight host).host := by
  obtain ⟨progress, hcomes⟩ := invocation.exists_comes host
  rw [hcomes.preflight_eq]
  have hselected := ofSelectManifest host invocation.separateEnv
  cases progress with
  | lost failure => exact refl host
  | outside failure => exact hselected
  | _ => exact hselected.trans ⟨rfl, rfl, rfl, rfl⟩

theorem ofLaunch (invocation : Invocation) (host : Host) (runner : Runner) :
    host.Alike (invocation.launch host runner).host :=
  (ofPreflight invocation host).trans (ofSpawned (invocation.exists_host_launch host runner))

theorem ofScript (script : Script) (host : Host) (searchPath : List String) :
    host.Alike (script.run host searchPath).host := by
  unfold Script.run
  split
  · exact refl host
  · simp only
    split_ifs
    · -- The launch sees how the script was started, which is no part of being alike.
      have hlaunch := ofLaunch { arguments := some script.arguments } (script.startedOn host) .exec
      exact ⟨hlaunch.tree, hlaunch.chdirFault, hlaunch.childFate, hlaunch.env⟩
    · exact refl host

end Host.Alike

/-- Whether the request is an edit of the host. -/
def Request.isEdit : Request → Bool
  | .edit _ => true
  | _ => false

namespace Session

variable {session : Session}

theorem host_after (choice : RunnerChoice) (host : Host) (runner : Runner) :
    (session.after choice host runner).host = host := by
  cases choice <;> rfl

/-- Every request but an edit leaves a host behind that is alike. -/
theorem alike_step {request : Request} (h : request.isEdit = false) :
    session.host.Alike (session.step request).2.host := by
  cases request with
  | selectManifest separate => exact .ofSelectManifest _ _
  | enterProjectRoot wrapper =>
      unfold step
      simp only
      split
      · next hentered => exact .ofEnterProjectRoot hentered
      · exact .refl _
  | invokeDelegate command choice env =>
      simp only [step, host_after]
      exact .ofSpawned (Runner.exists_host_replace _ _ _ _ _)
  | callRunner choice calls =>
      simp only [step, host_after]
      exact .ofSpawned (RunnerCall.exists_host_applyAll _ _ _)
  | launch invocation choice =>
      simp only [step, host_after]
      exact .ofLaunch _ _ _
  | runScript script searchPath => exact .ofScript _ _ _
  | chdir text =>
      unfold step
      simp only
      split
      · next hmoved => exact .ofChdir hmoved
      · exact .refl _
  | edit edit => exact absurd h (by simp [Request.isEdit])
  -- All other requests only look.
  | _ => exact .refl _

theorem alike_run {history : List Request} (h : ∀ request ∈ history, request.isEdit = false) :
    session.host.Alike (session.run history).2.host := by
  induction history generalizing session with
  | nil => exact .refl _
  | cons request rest ih =>
      have hfirst : session.host.Alike (session.step request).2.host :=
        alike_step (h request List.mem_cons_self)
      exact hfirst.trans (ih fun request hmem => h request (List.mem_cons_of_mem _ hmem))

end Session

/-! ## A launch on hosts that are alike -/

/-- The caller says what the arguments are and, by an absolute path, where the launcher's file
    is. -/
structure Invocation.Explicit (invocation : Invocation) : Prop where
  arguments : invocation.arguments.isSome
  file : ∃ file ∈ invocation.file, (Path.ofText file).isAbsolute = true

/-- The two programs were started by the same command, in the same directory and with the same
    bindings. -/
structure Spawned.Matches (first second : Spawned) : Prop where
  command : first.command = second.command
  directory : first.directory = second.directory
  env : Table.SameBindings first.env second.env

/-- The two calls, each made on its own host, end alike, leave the same runner behind and have
    started the same programs. -/
structure Outcome.Matches (host : Host) (first : Outcome Int) (other : Host)
    (second : Outcome Int) : Prop where
  ending : first.ending.Matches Table.SameBindings second.ending
  runner : first.runner = second.runner
  spawned : List.Forall₂ Spawned.Matches (spawnedSince host first.host)
    (spawnedSince other second.host)

theorem Ending.Matches.ofExcept {α : Type} {same : Env → Env → Prop} (result : Except Failure α) :
    (Ending.ofExcept result).Matches same (Ending.ofExcept result) := by
  cases result with
  | ok value => exact .returned value
  | error failure => exact .failed failure

theorem Ending.Matches.prints_conclude {same : Env → Env → Prop} {first second : Ending Int}
    (h : first.Matches same second) (console : Console) :
    (Handoff.conclude console first).2 = (Handoff.conclude console second).2 := by
  cases h <;> rfl

theorem spawnedSince_self (host : Host) : spawnedSince host host = [] := List.drop_length

namespace Host.Alike

variable {host other : Host} {invocation : Invocation}

/-- Every runner does the same on hosts that are alike and in the same directory, if the variables
    that it comes to bind alike and have the same fault. -/
theorem matches_replace (h : host.Alike other) (hcwd : host.cwd = other.cwd) {env : Option Env}
    (hsame : Table.SameBindings (Runner.mergedEnv host env) (Runner.mergedEnv other env))
    (hfault : Env.fault? (Runner.mergedEnv host env) = Env.fault? (Runner.mergedEnv other env))
    (runner : Runner) (command : List String) (note : Option String) :
    Outcome.Matches host (runner.replace host command env note) other
      (runner.replace other command env note) := by
  have hnone :
      List.Forall₂ Spawned.Matches (spawnedSince host host) (spawnedSince other other) := by
    rw [spawnedSince_self, spawnedSince_self]
    exact .nil
  cases runner with
  | exec => exact ⟨Runner.matches_replaceProcess h.tree hcwd (hsame _) hfault hsame _, rfl, hnone⟩
  | spawn =>
      have hfate : host.waitFor command = other.waitFor command := by
        unfold waitFor
        rw [h.childFate]
      refine ⟨?_, rfl, ?_⟩
      · simp only [Runner.replace, Runner.run, spawn, hfate]
        exact .ofExcept _
      · simp only [Runner.replace, Runner.run, spawn, spawnedSince, List.drop_left]
        exact .cons ⟨rfl, rfl, hsame⟩ .nil
  | recording records =>
      have htext : host.cwdText = other.cwdText := by
        unfold cwdText cwd?
        rw [h.tree, hcwd]
      simp only [Runner.replace, htext]
      split
      · exact ⟨.returned 0, rfl, hnone⟩
      · exact ⟨.failed _, rfl, hnone⟩
  | unimplemented => exact ⟨.failed _, rfl, hnone⟩
  | scripted reply calls =>
      cases reply with
      | status status => exact ⟨.returned status, rfl, hnone⟩
      | raises failure => exact ⟨.failed failure, rfl, hnone⟩

theorem settingsOn_eq (h : host.Alike other) (invocation : Invocation) :
    invocation.settingsOn host = invocation.settingsOn other := by
  have hload : Settings.load host.env = Settings.load other.env := by
    unfold Settings.load
    rw [h.get?_env (by decide)]
  unfold Invocation.settingsOn
  cases invocation.separateEnv with
  | none => simp only [Option.getD_none, hload]
  | some env => rfl

theorem consoleOn_eq (h : host.Alike other) (invocation : Invocation) :
    invocation.consoleOn host = invocation.consoleOn other := by
  unfold Invocation.consoleOn
  rw [h.settingsOn_eq]

theorem sameBindings_delegateEnv (h : host.Alike other) :
    Table.SameBindings (invocation.delegateEnv host) (invocation.delegateEnv other) := by
  intro name
  rw [Invocation.get?_delegateEnv, Invocation.get?_delegateEnv]
  by_cases hname : name = manifestVariable
  · rw [if_pos hname, if_pos hname]
  · rw [if_neg hname, if_neg hname, h.get?_env hname]

theorem fault?_delegateEnv (h : host.Alike other)
    (hdistinct : ∀ env ∈ invocation.separateEnv, Table.Distinct env) :
    Env.fault? (invocation.delegateEnv host) = Env.fault? (invocation.delegateEnv other) := by
  unfold Invocation.delegateEnv Runner.mergedEnv Host.selectManifest
  cases henv : invocation.separateEnv with
  | none => simp only [h.env, Option.map_none, Option.getD_none, Table.overlay_nil]
  | some env =>
      have hsingle := hdistinct env henv
      simp only [Option.map_some, Option.getD_some]
      rw [← Env.fault?_overlay_selectManifest host.env hsingle,
        ← Env.fault?_overlay_selectManifest other.env hsingle, h.env]

theorem locateWrapper_eq (h : host.Alike other) {file : String}
    (hfile : (Path.ofText file).isAbsolute = true) :
    locateWrapper host (some file) = locateWrapper other (some file) := by
  have hprobe : host.probe (Path.ofText file).collapse.text =
      other.probe (Path.ofText file).collapse.text := by
    unfold probe lookup
    have habs : (Path.ofText file).collapse.isAbsolute = true := hfile
    rw [h.tree, Node.resolve_of_isAbsolute habs host.cwd? other.cwd?]
  simp only [locateWrapper, Option.some_or, absolute, hfile, if_true, hprobe]

theorem agrees (h : host.Alike other) (hexplicit : invocation.Explicit) :
    invocation.Agrees host invocation other := by
  obtain ⟨harguments, file, hfile, habs⟩ := hexplicit
  obtain ⟨arguments, harguments⟩ := Option.isSome_iff_exists.1 harguments
  refine ⟨h.tree, h.chdirFault, ?_, ?_, ?_, ?_, ?_⟩
  · rw [hfile]
    exact h.locateWrapper_eq habs
  · simp only [Invocation.argumentsOn, harguments, Option.getD_some]
  · rw [h.settingsOn_eq]
  · rw [h.settingsOn_eq]
  · -- Relative entries of the search path are looked up from `place`, on both hosts.
    intro wrapper place _ name _
    apply Invocation.isSome_which_congr
    · exact h.tree
    · exact h.get?_env (by decide)

theorem preflight_eq (h : host.Alike other) (hexplicit : invocation.Explicit) :
    (invocation.preflight host).separateEnv = (invocation.preflight other).separateEnv ∧
      (invocation.preflight host).prints = (invocation.preflight other).prints := by
  have hagrees := h.agrees hexplicit
  obtain ⟨progress, hcomes⟩ := invocation.exists_comes host
  rw [hcomes.preflight_eq, (hagrees.comes hcomes).preflight_eq]
  cases progress with
  | lost failure => exact ⟨rfl, rfl⟩
  | _ =>
      simp only [Invocation.preflightAt, Invocation.enteredPrints, h.consoleOn_eq,
        hagrees.readyCommand_eq, and_self]

theorem matches_handOver (h : host.Alike other) (hexplicit : invocation.Explicit)
    (hdistinct : ∀ env ∈ invocation.separateEnv, Table.Distinct env) (runner : Runner) :
    Outcome.Matches host (Invocation.handOver (invocation.preflight host) runner) other
      (Invocation.handOver (invocation.preflight other) runner) := by
  have hagrees := h.agrees hexplicit
  -- The preflight starts nothing, so it makes no difference since when one counts.
  have hstarted : ∀ (host after : Host),
      spawnedSince (invocation.preflight host).host after = spawnedSince host after := by
    intro host after
    unfold spawnedSince
    rw [Invocation.spawned_preflight]
  rcases hagrees.stop_or_ready with ⟨failure, hfirst, hsecond⟩ | ⟨wrapper, place, hready, hready'⟩
  · simp only [Invocation.handOver, hfirst, hsecond]
    refine ⟨.failed failure, rfl, ?_⟩
    rw [← hstarted host, ← hstarted other, spawnedSince_self, spawnedSince_self]
    exact .nil
  · obtain ⟨hverdict, hhost, henv⟩ := hready.preflight_eq
    obtain ⟨hverdict', hhost', henv'⟩ := hready'.preflight_eq
    have hanswer := (h.readyHost invocation place).matches_replace rfl h.sameBindings_delegateEnv
      (h.fault?_delegateEnv hdistinct) runner (invocation.readyCommand host wrapper).words
      (some handoverNote)
    simp only [Invocation.handOver, hverdict, hverdict', hhost, hhost', henv, henv', invokeDelegate,
      ← hagrees.readyCommand_eq]
    refine ⟨hanswer.ending.launchVerdict _, hanswer.runner, ?_⟩
    rw [← hstarted host, ← hstarted other, hhost, hhost']
    exact hanswer.spawned

end Host.Alike

/-- The answers are those to launches that went alike: they ended alike, the log of the runner, the
    separate variables and the prints are the same, and so are the programs started. -/
inductive Answer.Matches : Answer → Answer → Prop
  | launched {ending ending' : Ending Int} {spawned spawned' : List Spawned}
      (hending : ending.Matches Table.SameBindings ending')
      (hspawned : List.Forall₂ Spawned.Matches spawned spawned') (log : LogView)
      (separateEnv : Option Env) (state state' : ProcessState) (prints : List Print) :
      Matches (.launched ending log spawned separateEnv state prints)
        (.launched ending' log spawned' separateEnv state' prints)

/-- A launch that is told its arguments and, by an absolute path, its file depends neither on the
    requests that came before it in the session nor on the directory in which it is made: the answer
    is the same as at the start of the session. If it enters the project root it ends there both
    times. The separate variables are a mapping, in which no name is bound twice. -/
theorem Session.launch_after_history (session : Session) {history : List Request}
    {invocation : Invocation} (runner : Runner)
    (hhistory : ∀ request ∈ history, request.isEdit = false) (hexplicit : invocation.Explicit)
    (hdistinct : ∀ env ∈ invocation.separateEnv, Table.Distinct env) :
    let later := (session.run history).2
    let first := session.step (.launch invocation (.own runner))
    let second := later.step (.launch invocation (.own runner))
    first.1.Matches second.1 ∧
      ∀ wrapper root entered, locateWrapper later.host invocation.file = .ok wrapper →
        enterProjectRoot later.host wrapper = .ok (root, entered) →
        first.2.host.processState.cwd = entered.processState.cwd ∧
          second.2.host.processState.cwd = entered.processState.cwd := by
  intro later first second
  have halike : session.host.Alike later.host := alike_run hhistory
  constructor
  · have hanswer := halike.matches_handOver hexplicit hdistinct runner
    obtain ⟨hseparate, hprints⟩ := halike.preflight_eq hexplicit
    simp only [first, second, step, runnerFor, Invocation.launch, logView, hseparate, hprints,
      halike.consoleOn_eq, hanswer.runner, hanswer.ending.prints_conclude]
    exact .launched (hanswer.ending.conclude _ _) hanswer.spawned _ _ _ _ _
  · intro wrapper root entered hlocate henter
    obtain ⟨rfl, -, place, hleads, rfl⟩ := enterProjectRoot_eq_ok_iff.1 henter
    have hlater : invocation.EntersRoot later.host wrapper place :=
      ⟨locateWrapper_eq_ok_iff.1 hlocate, hleads⟩
    have hfirst := (halike.agrees hexplicit).entersRoot.2 hlater
    have hentered : ({ later.host with cwd := some place } : Host).cwd? = some place :=
      Host.cwd?_of_passable rfl hleads.2.2
    simp only [first, second, step, runnerFor, host_after, Host.processState, hentered,
      hfirst.cwd?_launch, hlater.cwd?_launch, and_self]

/-- A session whose directory was deleted before it began. -/
def strandedSession : Session where
  host := { Invocation.linkedHost with cwd := none }

/-- Requests that move the process, select the manifest and start programs. -/
def busyHistory : List Request :=
  [.chdir "/home/project", .selectManifest none,
    .launch { file := some ".cf/build.py" } .shared,
    .callRunner (.own .spawn) [.run ["make"] none none none], .chdir "../bin",
    .runScript { file := "/srv/.cf/build.py", arguments := ["first"] } [],
    .chdir "/home"]

/-- A launch that says everything itself. -/
def explicitCall : Invocation where
  arguments := some ["x"]
  file := some "/home/project/.cf/build.py"
  separateEnv := some [("HOME", "/home")]

theorem strandedSession_launch :
    let later := (strandedSession.run busyHistory).2
    let first := strandedSession.step (.launch explicitCall (.own .exec))
    let second := later.step (.launch explicitCall (.own .exec))
    later.host.env ≠ strandedSession.host.env ∧ later.host.cwd? = some ["home"] ∧
      first.1.Matches second.1 ∧ first.2.host.processState.cwd = some "/srv" ∧
      second.2.host.processState.cwd = some "/srv" := by
  intro later first second
  have hhistory : ∀ request ∈ busyHistory, request.isEdit = false := by decide
  have hexplicit : explicitCall.Explicit := ⟨rfl, _, rfl, by decide +kernel⟩
  obtain ⟨hanswer, hcwd⟩ :=
    strandedSession.launch_after_history .exec hhistory hexplicit (by decide)
  have hlocate : locateWrapper later.host explicitCall.file =
      .ok ⟨.root, ["home", "project", ".cf", "build.py"]⟩ := by
    decide +kernel
  have henter : (enterProjectRoot later.host ⟨.root, ["home", "project", ".cf", "build.py"]⟩).map
      (·.2.processState.cwd) = .ok (some "/srv") := by
    decide +kernel
  refine ⟨by decide +kernel, by decide +kernel, hanswer, ?_⟩
  cases hentered : enterProjectRoot later.host
      ⟨.root, ["home", "project", ".cf", "build.py"]⟩ with
  | error failure =>
      rw [hentered] at henter
      cases henter
  | ok entered =>
      rw [hentered] at henter
      have hroot : entered.2.processState.cwd = some "/srv" := Except.ok.inj henter
      rw [← hroot]
      exact hcwd _ _ _ hlocate hentered

end Handoff
