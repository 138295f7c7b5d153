import Handoff.Proofs.Effects

set_option autoImplicit false

/-! # Launches with different runners

A launch does not know its runner until it hands over. `runner_independent` draws the conclusions:
either no runner is asked, and the launch is the same with all of them, or every runner is asked for
the same hand-over, in the project root of the launcher's file and after the same prints, and the
rest of the launch follows from its answer (`Invocation.HandsOver`).

What the runners make of it differs, but not what they make it of: the words that are written down,
that start a program and that replace the process are the same, and so are the variables of the
program that is started and of the one that replaces the process. -/

namespace Handoff

namespace Runner

variable {host : Host} {program : String} {command : List String} {env : Option Env}
  {note : Option String}

/-- The process is replaced by what the program search comes to, with the words of the command and
    the merged variables. -/
theorem ending_replace_exec (hprogram : command.head? = some program) :
    (Runner.exec.replace host command env note).ending =
      match host.launch program command (mergedEnv host env) with
      | .ok image => .replaced image
      | .error error => .failed error.toFailure := by
  obtain ⟨rest, rfl⟩ := List.head?_eq_some_iff.1 hprogram
  rfl

theorem replace_recording {place : Location} (hcwd : host.cwd? = some place)
    (records : List Record) :
    (Runner.recording records).replace host command env note =
      ⟨.returned 0, host, .recording
        (records ++ [⟨command, some (Location.text place), env.getD [], note, true⟩])⟩ := by
  simp only [replace, Host.cwdText, hcwd]

theorem runner_replace_scripted (reply : Reply) (calls : List Handover) :
    ((Runner.scripted reply calls).replace host command env note).runner =
      .scripted reply (calls ++ [⟨command, env, note⟩]) := by
  cases reply <;> rfl

end Runner

namespace Invocation

variable {invocation : Invocation} {host : Host} {wrapper : Path} {place : Location}

/-- The launch comes to the hand-over: with `prints` printed it asks the runner for `call` on the
    host `before`. All that follows is settled by the answer. The host and the runner are as the
    answer leaves them. How the launch ends, and what it prints after `prints`, is concluded from
    the end of the answer, in which an error of the system counts as a refusal to launch
    `script`. -/
structure HandsOver (invocation : Invocation) (host : Host) (runner : Runner) (call : Handover)
    (script : String) (before : Host) (prints : List Print) : Prop where
  host_eq : (invocation.launch host runner).host =
    (runner.replace before call.command call.env call.note).host
  runner_eq : (invocation.launch host runner).runner =
    (runner.replace before call.command call.env call.note).runner
  separateEnv_eq : (invocation.launch host runner).separateEnv = call.env
  ending_eq : (invocation.launch host runner).ending =
    (conclude (invocation.consoleOn host) (launchVerdict script
      (runner.replace before call.command call.env call.note).ending)).1
  prints_eq : (invocation.launch host runner).prints = prints ++
    (conclude (invocation.consoleOn host) (launchVerdict script
      (runner.replace before call.command call.env call.note).ending)).2

/-- A status that the runner returns is the status that the launch returns. -/
theorem HandsOver.status_eq {runner : Runner} {call : Handover} {script : String} {before : Host}
    {prints : List Print} (h : invocation.HandsOver host runner call script before prints)
    {status : Int}
    (hstatus : (runner.replace before call.command call.env call.note).ending = .returned status) :
    (invocation.launch host runner).ending = .returned status := by
  rw [h.ending_eq, hstatus]
  rfl

theorem Ready.handsOver (h : invocation.Ready host wrapper place) (runner : Runner) :
    invocation.HandsOver host runner (invocation.handover host wrapper)
      (invocation.readyCommand host wrapper).script (invocation.readyHost host place)
      (invocation.preflight host).prints := by
  obtain ⟨hverdict, hhost, henv⟩ := h.preflight_eq
  obtain ⟨hhost', hrunner, hending⟩ := h.launch_eq runner
  refine ⟨hhost', hrunner, henv, hending, ?_⟩
  simp only [launch, handOver, hverdict, invokeDelegate, hhost, henv, handover]

/-- What has been printed when a runner is asked. -/
theorem Ready.prints_preflight (h : invocation.Ready host wrapper place) :
    (invocation.preflight host).prints =
      (invocation.consoleOn host).say .debug manifestMessage ++
        (invocation.consoleOn host).say .debug ("Project root: " ++ (projectRoot wrapper).text) ++
        (invocation.consoleOn host).say .info
          ("Handing off to " ++ Shell.commandLine (invocation.handover host wrapper).command) := by
  rw [(Comes.ready h).preflight_eq]
  rfl

/-- Without a command to hand over to, the launch is the same with every runner. -/
theorem launch_of_verdict {failure : Failure}
    (h : (invocation.preflight host).verdict = .error failure) (runner other : Runner) :
    invocation.launch host runner = { invocation.launch host other with runner } := by
  simp only [launch, handOver, h]

/-! ## What each runner makes of it -/

theorem exists_program (invocation : Invocation) (host : Host) (wrapper : Path) :
    ∃ program, (invocation.handover host wrapper).command.head? = some program := by
  simp only [handover, words_readyCommand]
  cases (invocation.settingsOn host).interpreter? with
  | none => exact ⟨_, rfl⟩
  | some interpreter => exact ⟨interpreter, rfl⟩

theorem Ready.image_exec (h : invocation.Ready host wrapper place) {image : Image}
    (hended : (invocation.launch host .exec).ending = .replaced image) :
    image.arguments = (invocation.handover host wrapper).command ∧
      image.env = Runner.mergedEnv (invocation.readyHost host place)
        (invocation.handover host wrapper).env := by
  rw [(h.launch_eq .exec).2.2] at hended
  exact Runner.image_of_replaceProcess
    (eq_replaced_of_launchVerdict (eq_replaced_of_conclude hended))

theorem Ready.launch_spawn (h : invocation.Ready host wrapper place) :
    let call := invocation.handover host wrapper
    let before := invocation.readyHost host place
    (invocation.launch host .spawn).host =
        { before with spawned :=
            host.spawned ++ [⟨call.command, none, Runner.mergedEnv before call.env⟩] } ∧
      ∀ status, host.childFate = .exits status →
        (invocation.launch host .spawn).ending = .returned status := by
  intro call before
  obtain ⟨env, hselected⟩ := host.exists_selectManifest invocation.separateEnv
  have hspawned : before.spawned = host.spawned := by
    simp only [before, readyHost, hselected]
  have hfate : before.childFate = host.childFate := by
    simp only [before, readyHost, hselected]
  constructor
  · rw [(h.handsOver .spawn).host_eq, ← hspawned]
    rfl
  · intro status hexits
    apply (h.handsOver .spawn).status_eq
    rw [← hfate] at hexits
    simp only [Runner.replace, Runner.run, Host.spawn, Host.waitFor, before, hexits,
      Ending.ofExcept]

theorem Ready.launch_recording (h : invocation.Ready host wrapper place) (records : List Record) :
    let call := invocation.handover host wrapper
    (invocation.launch host (.recording records)).ending = .returned 0 ∧
      (invocation.launch host (.recording records)).runner = .recording (records ++
        [⟨call.command, some (Location.text place), call.env.getD [], call.note, true⟩]) := by
  intro call
  constructor
  · apply (h.handsOver (.recording records)).status_eq
    rw [Runner.replace_recording h.cwd?_readyHost]
  · rw [(h.handsOver (.recording records)).runner_eq,
      Runner.replace_recording h.cwd?_readyHost]

/-- Launches that differ in the runner only. Either all of them end before the hand-over, with the
    same end, host, variables and prints, with their runners as they were and with no program
    started. Or all of them come to the hand-over on one host, in the directory to which the project
    root of the launcher's file leads, ask for the same command and have printed the same by then;
    what the launch is in the end follows from the answer. Then the words that replace the process,
    that start a program and that are written down are those of this command; a program that is
    started gets the variables that the process would be replaced with, and starts in the current
    directory. A status that comes back, from the program, from the caller's runner or, as 0, from
    the one that writes commands down, is returned as it is. -/
theorem runner_independent (invocation : Invocation) (host : Host) :
    (∃ stopped : Report, stopped.host.spawned = host.spawned ∧
      ∀ runner, invocation.launch host runner = { stopped with runner }) ∨
    ∃ wrapper place, host.Locates invocation.file wrapper ∧
      host.LeadsInto (projectRoot wrapper) place ∧
      let call := invocation.handover host wrapper
      let script := (invocation.readyCommand host wrapper).script
      let before := invocation.readyHost host place
      let prints := (invocation.preflight host).prints
      let console := invocation.consoleOn host
      let env := Runner.mergedEnv before call.env
      before = (invocation.preflight host).host ∧
      before.cwd? = some place ∧ before.spawned = host.spawned ∧
      prints = console.say .debug manifestMessage ++
        console.say .debug ("Project root: " ++ (projectRoot wrapper).text) ++
        console.say .info ("Handing off to " ++ Shell.commandLine call.command) ∧
      (∀ runner, invocation.HandsOver host runner call script before prints) ∧
      (∃ program, call.command.head? = some program ∧
        (Runner.exec.replace before call.command call.env call.note).ending =
          match before.launch program call.command env with
          | .ok image => .replaced image
          | .error error => .failed error.toFailure) ∧
      (∀ image, (invocation.launch host .exec).ending = .replaced image →
        image.arguments = call.command ∧ image.env = env) ∧
      (invocation.launch host .spawn).host =
        { before with spawned := host.spawned ++ [⟨call.command, none, env⟩] } ∧
      (∀ status, host.childFate = .exits status →
        (invocation.launch host .spawn).ending = .returned status) ∧
      (∀ records,
        (invocation.launch host (.recording records)).ending = .returned 0 ∧
        (invocation.launch host (.recording records)).runner = .recording (records ++
          [⟨call.command, some (Location.text place), call.env.getD [], call.note, true⟩])) ∧
      (∀ reply calls, (invocation.launch host (.scripted reply calls)).runner =
        .scripted reply (calls ++ [call])) ∧
      (∀ status calls, (invocation.launch host (.scripted (.status status) calls)).ending =
        .returned status) ∧
      ∀ runner status,
        (runner.replace before call.command call.env call.note).ending = .returned status →
        (invocation.launch host runner).ending = .returned status := by
  cases hverdict : (invocation.preflight host).verdict with
  | error failure =>
      have halone := leavesAlone_of_verdict hverdict .exec
      exact .inl ⟨invocation.launch host .exec, halone.2.1,
        fun runner => launch_of_verdict hverdict runner .exec⟩
  | ok command =>
      obtain ⟨wrapper, place, hready⟩ := exists_ready_of_verdict hverdict
      have hover := hready.handsOver
      have hspawned : (invocation.readyHost host place).spawned = host.spawned :=
        Host.spawned_selectManifest host _
      refine .inr ⟨wrapper, place, hready.located, hready.enterable, ?_⟩
      intro call script before prints console env
      refine ⟨hready.preflight_eq.2.1.symm, hready.cwd?_readyHost, hspawned,
        hready.prints_preflight, hover, ?_, ?_, hready.launch_spawn.1, hready.launch_spawn.2,
        hready.launch_recording, ?_, ?_, ?_⟩
      · obtain ⟨program, hprogram⟩ := invocation.exists_program host wrapper
        exact ⟨program, hprogram, Runner.ending_replace_exec hprogram⟩
      · intro image hended
        exact hready.image_exec hended
      · intro reply calls
        rw [(hover (.scripted reply calls)).runner_eq]
        exact Runner.runner_replace_scripted reply calls
      · intro status calls
        exact (hover (.scripted (.status status) calls)).status_eq rfl
      · intro runner status hstatus
        exact (hover runner).status_eq hstatus

-- The program that is started gets what the delegate receives from `linkedCall` otherwise.
example : (linkedCall.launch linkedHost .spawn).host.spawned =
    [⟨["bash", "./build.sh", "a b", ""], none,
      [("PATH", "/bin"), (manifestVariable, manifestPath), ("HOME", "/home")]⟩] := by
  decide +kernel

end Invocation

end Handoff
