import Handoff.Proofs.Preflight
import Handoff.Proofs.Search

set_option autoImplicit false

/-! # The hand-over

What a launch asks of its runner, and what becomes of the process.

`asked_once_iff_ready` says when the runner is asked: once if everything is ready
(`Invocation.Ready`), and never otherwise. The other results are about the runner that replaces the
process. `replaced_receives` says what the delegate gets: the words, the variables and the current
directory. `replaced_path_of_which` says which file runs it: the one that the preflight found.

All of them rest on `Ready.launch_eq`, which writes a launch that is ready as one request to the
runner. -/

namespace Handoff

/-! ## How a launch ends -/

theorem eq_replaced_of_conclude {console : Console} {ending : Ending Int} {image : Image}
    (h : (conclude console ending).1 = .replaced image) : ending = .replaced image := by
  unfold conclude at h
  split at h
  · exact absurd h (by simp)
  · exact absurd h (by simp)
  · exact h

theorem eq_replaced_of_launchVerdict {script : String} {ending : Ending Int} {image : Image}
    (h : launchVerdict script ending = .replaced image) : ending = .replaced image := by
  unfold launchVerdict at h
  split at h
  · exact absurd h (by simp)
  · exact h

namespace Invocation

variable {invocation : Invocation} {host : Host} {wrapper : Path} {place : Location}

/-- The hand-over that the runner is asked for when everything is ready. -/
def handover (invocation : Invocation) (host : Host) (wrapper : Path) : Handover :=
  { command := (invocation.readyCommand host wrapper).words
    env := invocation.separateEnv.map Env.selectManifest
    note := some handoverNote }

/-- The launch asks the runner for this one hand-over: the runner's answer is what the launch leaves
    behind, and decides how it ends. -/
def AsksFor (invocation : Invocation) (host : Host) (runner : Runner) (call : Handover) : Prop :=
  let answer :=
    runner.replace (invocation.preflight host).host call.command call.env call.note
  (invocation.launch host runner).host = answer.host ∧
    (invocation.launch host runner).runner = answer.runner ∧
    ∃ script, (invocation.launch host runner).ending =
      (conclude (invocation.consoleOn host) (launchVerdict script answer.ending)).1

/-- The launch asks the runner for nothing: the runner and the programs started so far are as
    before, and the launch ends as with any other runner. -/
def LeavesAlone (invocation : Invocation) (host : Host) (runner : Runner) : Prop :=
  (invocation.launch host runner).runner = runner ∧
    (invocation.launch host runner).host.spawned = host.spawned ∧
    ∀ other, (invocation.launch host other).ending = (invocation.launch host runner).ending

/-- The answer of the runner on the host that the preflight leaves behind. -/
theorem Ready.launch_eq (h : invocation.Ready host wrapper place) (runner : Runner) :
    let call := invocation.handover host wrapper
    let answer := runner.replace (invocation.readyHost host place) call.command call.env call.note
    (invocation.launch host runner).host = answer.host ∧
      (invocation.launch host runner).runner = answer.runner ∧
      (invocation.launch host runner).ending =
        (conclude (invocation.consoleOn host)
          (launchVerdict (invocation.readyCommand host wrapper).script answer.ending)).1 := by
  obtain ⟨hverdict, hhost, henv⟩ := h.preflight_eq
  simp only [launch, handOver, hverdict, invokeDelegate, hhost, henv, handover, and_self]

theorem Ready.asksFor (h : invocation.Ready host wrapper place) (runner : Runner) :
    invocation.AsksFor host runner (invocation.handover host wrapper) := by
  obtain ⟨hhost, hrunner, hending⟩ := h.launch_eq runner
  unfold AsksFor
  rw [h.preflight_eq.2.1]
  exact ⟨hhost, hrunner, _, hending⟩

/-- Without a command to hand over to, the runner is not asked. -/
theorem leavesAlone_of_verdict {failure : Failure}
    (h : (invocation.preflight host).verdict = .error failure) (runner : Runner) :
    invocation.LeavesAlone host runner := by
  refine ⟨?_, ?_, fun other => ?_⟩
  · simp only [launch, handOver, h]
  · simp only [launch, handOver, h]
    exact spawned_preflight
  · simp only [launch, handOver, h]

/-- A launch asks its runner for at most one hand-over, and does so exactly when everything is
    ready. The calls are those that a runner sees which writes all of them down; every runner is
    asked for the same ones. Where there is none, no runner is touched and no program is started. -/
theorem asked_once_iff_ready (invocation : Invocation) (host : Host) :
    ∃ calls : List Handover,
      calls.length ≤ 1 ∧
      (calls ≠ [] ↔ ∃ wrapper place, invocation.Ready host wrapper place) ∧
      (∀ reply log, (invocation.launch host (.scripted reply log)).runner =
        .scripted reply (log ++ calls)) ∧
      (∀ call ∈ calls, ∀ runner, invocation.AsksFor host runner call) ∧
      (calls = [] → ∀ runner, invocation.LeavesAlone host runner) := by
  cases hverdict : (invocation.preflight host).verdict with
  | error failure =>
      have halone := leavesAlone_of_verdict hverdict
      refine ⟨[], by simp, ?_, ?_, by simp, fun _ => halone⟩
      · simp only [ne_eq, not_true_eq_false, false_iff, not_exists]
        intro wrapper place hready
        rw [hready.preflight_eq.1] at hverdict
        exact absurd hverdict (by simp)
      · intro reply log
        rw [(halone (.scripted reply log)).1, List.append_nil]
  | ok command =>
      obtain ⟨wrapper, place, hready⟩ := exists_ready_of_verdict hverdict
      refine ⟨[invocation.handover host wrapper], by simp, ?_, ?_, ?_, by simp⟩
      · simpa using ⟨wrapper, place, hready⟩
      · intro reply log
        rw [(hready.launch_eq (.scripted reply log)).2.1]
        cases reply <;> rfl
      · intro call hcall runner
        rw [List.mem_singleton] at hcall
        exact hcall ▸ hready.asksFor runner

/-! ## What a launch prints -/

theorem stream_of_mem_prints {runner : Runner} {print : Print}
    (h : print ∈ (invocation.launch host runner).prints) : print.stream = .err := by
  have hsay : ∀ {severity message}, print ∈ (invocation.consoleOn host).say severity message →
      print.stream = .err := by
    intro severity message hmem
    unfold Console.say at hmem
    split_ifs at hmem
    · rw [List.mem_singleton.1 hmem]
    · exact absurd hmem (by simp)
  rcases List.mem_append.1 h with hbefore | hafter
  · obtain ⟨progress, hcomes⟩ := invocation.exists_comes host
    rw [hcomes.preflight_eq] at hbefore
    cases progress with
    | lost failure => exact absurd hbefore (by simp [preflightAt])
    | outside failure => exact hsay hbefore
    | stopped wrapper place failure => exact (List.mem_append.1 hbefore).elim hsay hsay
    | ready wrapper place =>
        rcases List.mem_append.1 hbefore with hentered | hlast
        · exact (List.mem_append.1 hentered).elim hsay hsay
        · exact hsay hlast
  · unfold conclude at hafter
    split at hafter
    · rcases List.mem_cons.1 hafter with rfl | hstatus
      · rfl
      · exact hsay hstatus
    · exact hsay hafter
    · exact absurd hafter (by simp)

/-- The output stream is left to the delegate. -/
theorem transcript_out_launch (invocation : Invocation) (host : Host) (runner : Runner) :
    Print.transcript .out (invocation.launch host runner).prints = "" := by
  have hnone : (invocation.launch host runner).prints.filter (·.stream = .out) = [] := by
    rw [List.filter_eq_nil_iff]
    intro print hmem
    simp [stream_of_mem_prints hmem]
  unfold Print.transcript
  rw [hnone]
  rfl

/-! ## What the delegate receives -/

/-- Only a launch that is ready replaces the process, by what the program search comes to on the
    host that the preflight leaves behind. -/
theorem exists_ready_of_replaced {image : Image}
    (h : (invocation.launch host .exec).ending = .replaced image) :
    ∃ wrapper place, invocation.Ready host wrapper place ∧
      Runner.replaceProcess (invocation.readyHost host place)
        (invocation.readyCommand host wrapper).words
        (invocation.separateEnv.map Env.selectManifest) = .replaced image := by
  cases hverdict : (invocation.preflight host).verdict with
  | error failure =>
      simp only [launch, handOver, hverdict] at h
      exact absurd (eq_replaced_of_conclude h) (by simp)
  | ok command =>
      obtain ⟨wrapper, place, hready⟩ := exists_ready_of_verdict hverdict
      rw [(hready.launch_eq .exec).2.2] at h
      exact ⟨wrapper, place, hready, eq_replaced_of_launchVerdict (eq_replaced_of_conclude h)⟩

theorem Ready.ending_of_replaceProcess (h : invocation.Ready host wrapper place) {image : Image}
    (hreplaced : Runner.replaceProcess (invocation.readyHost host place)
      (invocation.readyCommand host wrapper).words
      (invocation.separateEnv.map Env.selectManifest) = .replaced image) :
    (invocation.launch host .exec).ending = .replaced image := by
  rw [(h.launch_eq .exec).2.2]
  simp only [handover, Runner.replace, hreplaced, launchVerdict, conclude]

/-- The variables that reach the delegate: the manifest is selected in them, then those that were
    given separately count, then those of the process. -/
theorem get?_mergedEnv_readyHost (name : String) :
    (Runner.mergedEnv (invocation.readyHost host place)
      (invocation.separateEnv.map Env.selectManifest)).get? name =
      if name = manifestVariable then some manifestPath
      else (invocation.separateEnv.bind (Table.get? · name)).or (host.env.get? name) := by
  unfold Runner.mergedEnv readyHost Host.selectManifest
  rw [Table.get?_overlay]
  by_cases hname : name = manifestVariable
  · subst hname
    cases invocation.separateEnv <;> simp [Env.get?_selectManifest]
  · cases invocation.separateEnv <;> simp [Env.get?_selectManifest, hname, Ne.symm hname]

end Invocation

namespace Runner

variable {host : Host} {command : List String} {env : Option Env} {image : Image}

/-- A process that is replaced gets the words of the command and the merged variables. -/
theorem image_of_replaceProcess (h : replaceProcess host command env = .replaced image) :
    image.arguments = command ∧ image.env = mergedEnv host env := by
  unfold replaceProcess at h
  split at h
  · exact absurd h (by simp)
  · split at h
    · next image hlaunch =>
        cases h
        obtain ⟨path, -, rfl⟩ := Host.exists_path_of_tryEach hlaunch
        exact ⟨rfl, rfl⟩
    · exact absurd h (by simp)

theorem replaceProcess_of_launch {program : String} (hprogram : command.head? = some program)
    (h : host.launch program command (mergedEnv host env) = .ok image) :
    replaceProcess host command env = .replaced image := by
  obtain ⟨rest, rfl⟩ := List.head?_eq_some_iff.1 hprogram
  simp only [replaceProcess, h]

end Runner

namespace Invocation

variable {invocation : Invocation} {host : Host} {wrapper : Path} {place : Location}

/-- What the delegate receives when the process becomes it. The words are the interpreter, if there
    is one, the script, and the caller's arguments as they are. The manifest is selected in the
    variables; of the rest each has the value given to it separately, or else that of the process.
    The current directory is the one to which the project root leads. -/
theorem replaced_receives {image : Image}
    (h : (invocation.launch host .exec).ending = .replaced image) :
    ∃ name wrapper place,
      invocation.file.or host.wrapperFile? = some name ∧ host.absolute name = .ok wrapper ∧
      image.arguments =
        (invocation.settingsOn host).interpreter?.toList ++
          (if (Path.ofText (invocation.settingsOn host).delegate).isAbsolute then
            (invocation.scriptPath host wrapper).text
          else "./" ++ (invocation.settingsOn host).delegate) ::
          invocation.arguments.getD host.commandLine.tail ∧
      (∀ key, image.env.get? key =
        if key = manifestVariable then some manifestPath
        else (invocation.separateEnv.bind (Table.get? · key)).or (host.env.get? key)) ∧
      host.tree.resolve host.cwd? (projectRoot wrapper).text = .ok place ∧
      host.tree.Passable place ∧
      (invocation.launch host .exec).host.cwdText = .ok (Location.text place) := by
  obtain ⟨wrapper, place, hready, hreplaced⟩ := exists_ready_of_replaced h
  obtain ⟨name, -, hname, habs, -⟩ := hready.located
  obtain ⟨-, hresolve, hpass⟩ := hready.enterable
  obtain ⟨hwords, henv⟩ := Runner.image_of_replaceProcess hreplaced
  refine ⟨name, wrapper, place, hname, habs, hwords, ?_, hresolve, hpass, ?_⟩
  · intro key
    rw [henv, get?_mergedEnv_readyHost]
  · rw [(hready.launch_eq .exec).1]
    simp [Runner.replace, Host.cwdText, hready.cwd?_readyHost]

/-- A host on which the project is reached through a link, with a manifest of its own selected. -/
def linkedHost : Host where
  tree :=
    (((Node.emptyDir.put (.file .all none) ["bin", "bash"]).put (.file .all none)
      ["srv", ".cf", "build.py"]).put (.file .all none) ["srv", "build.sh"]).put
      (.link "../srv") ["home", "project"]
  cwd := some ["home"]
  env := [("PATH", "/bin"), (manifestVariable, "other"), ("HOME", "/root")]

/-- A call on that host with variables that disagree with those of the process. -/
def linkedCall : Invocation where
  arguments := some ["a b", ""]
  file := some "project/.cf/build.py"
  separateEnv := some [("HOME", "/home"), (manifestVariable, "mine")]

theorem linkedCall_receives :
    ∃ image, (linkedCall.launch linkedHost .exec).ending = .replaced image ∧
      image.arguments = ["bash", "./build.sh", "a b", ""] ∧
      image.env.get? manifestVariable = some manifestPath ∧
      image.env.get? "HOME" = some "/home" ∧ image.env.get? "PATH" = some "/bin" ∧
      image.env.get? "USER" = none ∧
      (linkedCall.launch linkedHost .exec).host.cwdText = .ok "/srv" := by
  have hended : (linkedCall.launch linkedHost .exec).ending = .replaced ⟨"/bin/bash",
      ["bash", "./build.sh", "a b", ""],
      [("PATH", "/bin"), (manifestVariable, manifestPath), ("HOME", "/home")]⟩ := by
    decide +kernel
  obtain ⟨name, wrapper, place, hname, habs, hwords, henv, hresolve, -, hcwd⟩ :=
    replaced_receives hended
  cases hname
  cases habs
  obtain rfl : ["srv"] = place := Except.ok.inj hresolve
  exact ⟨_, hended, hwords, henv _, henv _, henv _, henv _, hcwd⟩

/-! ## The interpreter that was found is the one that runs -/

/-- The delegate's path has been looked at, so the text that names the script can be passed on. -/
theorem Ready.hasNull_script (h : invocation.Ready host wrapper place) :
    hasNull (invocation.readyCommand host wrapper).script = false := by
  obtain ⟨found, mode, fault, children, hlook, -⟩ := h.launchable
  have hnull : hasNull (invocation.scriptPath host wrapper).text = false :=
    (Host.lookup_eq_ok_iff.1 hlook).1
  unfold readyCommand buildCommand
  simp only
  split_ifs with habs
  · exact hnull
  · exact (hasNull_append _ _).2 ⟨by decide, hasNull_of_join hnull⟩

theorem words_readyCommand :
    (invocation.readyCommand host wrapper).words =
      (invocation.settingsOn host).interpreter?.toList ++
        (invocation.readyCommand host wrapper).script :: invocation.argumentsOn host := rfl

/-- The words can be passed on if what the caller and the settings put into them can. -/
theorem Ready.argumentsFault?_words (h : invocation.Ready host wrapper place) {interpreter : String}
    (hinterpreter : (invocation.settingsOn host).interpreter? = some interpreter)
    (hname : hasNull interpreter = false)
    (harguments : ∀ argument ∈ invocation.argumentsOn host, hasNull argument = false) :
    argumentsFault? (invocation.readyCommand host wrapper).words = none := by
  have hne : interpreter ≠ "" := by
    simpa using (Option.filter_eq_some_iff.1 hinterpreter).2
  rw [words_readyCommand, hinterpreter, Option.toList_some, List.singleton_append]
  apply argumentsFault?_eq_none hne
  intro word hword
  rcases List.mem_cons.1 hword with rfl | hword
  · exact hname
  · rcases List.mem_cons.1 hword with rfl | hword
    · exact h.hasNull_script
    · exact harguments word hword

theorem legal_mergedEnv_readyHost (hseparate : invocation.separateEnv = none)
    (henv : host.env.Legal) :
    Env.Legal (Runner.mergedEnv (invocation.readyHost host place)
      (invocation.separateEnv.map Env.selectManifest)) := by
  simp only [hseparate, Option.map_none, Runner.mergedEnv, readyHost, Host.selectManifest,
    Option.getD_none, Table.overlay_nil]
  exact henv.set (by decide)

/-- The search that the preflight makes for the interpreter and the search that the launch makes
    come to the same file: if the one that was found is a regular file whose launch does not fail,
    the process becomes it, whatever else stands on the search path before it. -/
theorem replaced_path_of_which {interpreter path : String} {mode : Mode}
    (hseparate : invocation.separateEnv = none) (henv : host.env.Legal)
    (harguments : ∀ argument ∈ invocation.argumentsOn host, hasNull argument = false)
    (hinterpreter : (invocation.settingsOn host).interpreter? = some interpreter)
    (hpassed : (invocation.preflight host).verdict.isOk = true)
    (hwhich : (invocation.preflight host).host.which interpreter = some path)
    (hfile : ((invocation.preflight host).host.node? path).map Node.kind =
      some (.file mode none)) :
    ∃ image, (invocation.launch host .exec).ending = .replaced image ∧ image.path = path := by
  obtain ⟨command, hverdict⟩ : ∃ command, (invocation.preflight host).verdict = .ok command := by
    cases hverdict : (invocation.preflight host).verdict with
    | error failure => simp [hverdict, Except.isOk, Except.toBool] at hpassed
    | ok command => exact ⟨command, rfl⟩
  obtain ⟨wrapper, place, hready⟩ := exists_ready_of_verdict hverdict
  rw [hready.preflight_eq.2.1] at hwhich hfile
  have hexec : (invocation.readyHost host place).Executable path := by
    obtain ⟨⟨kind, children⟩, hnode, hkind⟩ := Option.map_eq_some_iff.1 hfile
    obtain rfl : kind = .file mode none := hkind
    exact Host.executable_of_runnable (Host.candidates_of_which hwhich).1 hnode
  have hlist : (Runner.mergedEnv (invocation.readyHost host place)
      (invocation.separateEnv.map Env.selectManifest)).get? searchPathName =
      (invocation.readyHost host place).env.get? searchPathName := by
    simp [hseparate, Runner.mergedEnv]
  have hlaunch := Host.launch_of_which
    (hready.argumentsFault?_words hinterpreter (Host.hasNull_of_which hwhich) harguments)
    (legal_mergedEnv_readyHost hseparate henv) hlist hwhich hexec
  have hreplaced := Runner.replaceProcess_of_launch
    (by rw [words_readyCommand, hinterpreter]; rfl) hlaunch
  exact ⟨_, hready.ending_of_replaceProcess hreplaced, rfl⟩

/-- A longer search path: nothing, a loop, a directory and a file that may not be executed come
    before an interpreter of the project's own. -/
def crowdedHost : Host :=
  { linkedHost with
    tree :=
      (((linkedHost.tree.put (.link "loop") ["loop"]).put (.dir .all) ["opt", "bash"]).put
        (.file ⟨true, true, false⟩ none) ["etc", "bash"]).put (.file .all none)
        ["srv", "tools", "bash"]
    env := [("PATH", "/missing:/loop:/opt:/etc:/opt::tools:/bin")] }

theorem crowdedHost_path :
    let call : Invocation := { file := some "project/.cf/build.py" }
    ∃ image, (call.launch crowdedHost .exec).ending = .replaced image ∧
      image.path = "tools/bash" := by
  intro call
  have hwhich : (call.preflight crowdedHost).host.which "bash" = some "tools/bash" := by
    decide +kernel
  have hfile : ((call.preflight crowdedHost).host.node? "tools/bash").map Node.kind =
      some (.file .all none) := by
    decide +kernel
  exact replaced_path_of_which rfl (by decide) (by decide) rfl (by decide +kernel) hwhich hfile

end Invocation

end Handoff
