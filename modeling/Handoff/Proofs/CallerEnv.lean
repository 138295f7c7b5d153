import Handoff.Proofs.Agreement

set_option autoImplicit false

/-! # The variables of the caller

A caller binds variables in two places: in the process, and in a separate mapping if one is given.
The results here compare launches that differ in these variables only.

`launch_of_agreeing_callers` says that of all variables only the search path decides anything; every
other one is passed on to the delegate and can change what is printed on the error stream, and no
more. `launch_separate_eq_process` compares the two places: a separate mapping has the effect of the
same bindings in the process, as long as the interpreter is found under the search path of the
process exactly if it is found under the one that the mapping gives. That proviso is needed
(`separatePath_ignored`): the search for the interpreter does not look at the separate mapping. -/

namespace Handoff

/-! ## Legal variables -/

namespace Env.Legal

variable {base top : Env}

theorem overlay (hbase : base.Legal) (htop : top.Legal) : Env.Legal (base.overlay top) := by
  rintro ⟨name, value⟩ hmem
  rcases Table.mem_overlay_iff.1 hmem with ⟨old, hold, hvalue⟩ | ⟨hentry, -⟩
  · cases hget : top.get? name with
    | none =>
        rw [hget] at hvalue
        cases hvalue
        exact hbase _ hold
    | some given =>
        rw [hget] at hvalue
        cases hvalue
        exact htop _ (Table.mem_of_get? hget)
  · exact htop _ hentry

theorem selectManifest (h : base.Legal) : base.selectManifest.Legal := h.set (by decide)

/-- Selecting the manifest in the upper variables adds nothing that is not legal. -/
theorem overlay_selectManifest (h : Env.Legal (base.overlay top)) :
    Env.Legal (base.overlay top.selectManifest) := by
  have hmanifest : variableFault? manifestVariable manifestPath = none := by decide
  rintro ⟨name, value⟩ hmem
  rcases Table.mem_overlay_iff.1 hmem with ⟨old, hold, hvalue⟩ | ⟨hentry, hnone⟩
  · rw [Env.get?_selectManifest] at hvalue
    split_ifs at hvalue with hname
    · subst hname
      cases hvalue
      exact hmanifest
    · exact h _ (Table.mem_overlay_iff.2 (.inl ⟨old, hold, hvalue⟩))
  · rcases Table.mem_of_mem_set hentry with hentry | hentry
    · cases hentry
      exact hmanifest
    · exact h _ (Table.mem_overlay_iff.2 (.inr ⟨hentry, hnone⟩))

end Env.Legal

/-! ## Two callers -/

/-- What a name is bound to in the variables of the process, and in separate ones if there are
    any. -/
def boundIn (process : Env) (separate : Option Env) (name : String) :
    Option String × Option (Option String) :=
  (process.get? name, separate.map (Table.get? · name))

namespace Invocation

variable {first second : Invocation} {host other : Host} {name : String}

theorem get?_delegateEnv_congr
    (h : name = manifestVariable ∨
      boundIn host.env first.separateEnv name = boundIn other.env second.separateEnv name) :
    (first.delegateEnv host).get? name = (second.delegateEnv other).get? name := by
  rw [get?_delegateEnv, get?_delegateEnv]
  by_cases hname : name = manifestVariable
  · rw [if_pos hname, if_pos hname]
  · obtain ⟨hprocess, hseparate⟩ := Prod.mk.inj (h.resolve_left hname)
    have hbound : ∀ separate : Option Env, separate.bind (Table.get? · name) =
        (separate.map (Table.get? · name)).join := by
      intro separate
      cases separate <;> rfl
    rw [if_neg hname, if_neg hname, hprocess, hbound, hseparate, ← hbound]

/-- Selecting the manifest does not tell apart what was bound alike. -/
theorem boundIn_selectManifest
    (h : boundIn host.env first.separateEnv name = boundIn other.env second.separateEnv name) :
    boundIn (host.selectManifest first.separateEnv).env
        (first.separateEnv.map Env.selectManifest) name =
      boundIn (other.selectManifest second.separateEnv).env
        (second.separateEnv.map Env.selectManifest) name := by
  obtain ⟨hprocess, hseparate⟩ := Prod.mk.inj h
  cases hfirst : first.separateEnv with
  | none =>
      cases hsecond : second.separateEnv with
      | none => simp [boundIn, Host.selectManifest, Env.get?_selectManifest, hprocess]
      | some env => simp [hfirst, hsecond] at hseparate
  | some env =>
      cases hsecond : second.separateEnv with
      | none => simp [hfirst, hsecond] at hseparate
      | some env' =>
          have hget : env.get? name = env'.get? name := by simpa [hfirst, hsecond] using hseparate
          simp [boundIn, Host.selectManifest, Env.get?_selectManifest, hprocess, hget]

/-- The variables choose the level at which messages are printed, and nothing else. -/
theorem delegate_settingsOn : (first.settingsOn host).delegate =
    (first.settings.getD {}).delegate := by
  unfold settingsOn
  cases first.settings <;> simp only [Option.getD_none, Option.getD_some, Settings.load]

theorem interpreter_settingsOn : (first.settingsOn host).interpreter =
    (first.settings.getD {}).interpreter := by
  unfold settingsOn
  cases first.settings <;> simp only [Option.getD_none, Option.getD_some, Settings.load]

theorem legal_delegateEnv (hprocess : host.env.Legal)
    (hseparate : ∀ env ∈ first.separateEnv, env.Legal) : (first.delegateEnv host).Legal := by
  unfold delegateEnv Runner.mergedEnv Host.selectManifest
  cases henv : first.separateEnv with
  | none =>
      simp only [Option.map_none, Option.getD_none, Table.overlay_nil]
      exact hprocess.selectManifest
  | some env =>
      simp only [Option.map_some, Option.getD_some]
      exact hprocess.overlay (hseparate env henv).selectManifest

/-- Of the variables that a caller binds only the search path decides anything. Two callers who bind
    it alike, and give separate variables both or neither, see the same end: the same status or the
    same failure, or the same program with the same arguments, in the same directory. The delegate's
    variables, and those that are left to the callers, differ at most at names that the callers did
    not bind alike, and the manifest is selected for both delegates. Nothing else is left to show
    the difference but the error stream. -/
theorem launch_of_agreeing_callers {host : Host} {process process' : Env}
    {separate separate' : Option Env} (arguments : Option (List String)) (file : Option String)
    (hlegal : process.Legal ∧ ∀ env ∈ separate, env.Legal)
    (hlegal' : process'.Legal ∧ ∀ env ∈ separate', env.Legal)
    (hpath : boundIn process separate searchPathName =
      boundIn process' separate' searchPathName) :
    let first := launch { arguments, file, separateEnv := separate }
      { host with env := process } .exec
    let second := launch { arguments, file, separateEnv := separate' }
      { host with env := process' } .exec
    first.ending.Matches (fun env env' => ∀ name,
        name = manifestVariable ∨
          boundIn process separate name = boundIn process' separate' name →
        env.get? name = env'.get? name) second.ending ∧
      second.host = { first.host with env := second.host.env } ∧
      (∀ name, boundIn process separate name = boundIn process' separate' name →
        boundIn first.host.env first.separateEnv name =
          boundIn second.host.env second.separateEnv name) ∧
      Print.transcript .out first.prints = "" ∧ Print.transcript .out second.prints = "" := by
  intro first second
  have hagrees : Agrees { arguments, file, separateEnv := separate } { host with env := process }
      { arguments, file, separateEnv := separate' } { host with env := process' } := by
    refine ⟨rfl, rfl, rfl, rfl, ?_, ?_, ?_⟩
    · rw [delegate_settingsOn, delegate_settingsOn]
    · rw [interpreter_settingsOn, interpreter_settingsOn]
    · -- The preflight searches along the path of the process, never along a separate one.
      intro wrapper place _ name _
      apply isSome_which_congr
      · rfl
      · exact (Prod.mk.inj hpath).1
  refine ⟨hagrees.matches_ending ?_ ?_ ?_, hagrees.host_eq rfl, ?_,
    transcript_out_launch _ _ _, transcript_out_launch _ _ _⟩
  · exact get?_delegateEnv_congr (.inr hpath)
  · rw [(legal_delegateEnv hlegal.1 hlegal.2).fault?_eq_none,
      (legal_delegateEnv hlegal'.1 hlegal'.2).fault?_eq_none]
  · intro name hname
    exact get?_delegateEnv_congr hname
  · intro name hname
    obtain ⟨progress, hcomes⟩ := exists_comes { arguments, file, separateEnv := separate }
      { host with env := process }
    have hcomes' := hagrees.comes hcomes
    simp only [first, second, host_launch_exec]
    simp only [launch, hcomes.preflight_eq, hcomes'.preflight_eq]
    cases progress with
    | lost failure => exact hname
    | _ => exact boundIn_selectManifest hname

/-- A caller who asks for all messages, in variables of its own and of the process. -/
def chattyCall : Invocation where
  file := some "project/.cf/build.py"
  separateEnv := some [("CFBUILD_LOG", " Debug "), (manifestVariable, "mine")]

/-- A caller who asks for none, with other variables in the process as well. -/
def terseCall : Invocation where
  file := some "project/.cf/build.py"
  separateEnv := some [("CFBUILD_DRY_RUN", "1")]

theorem chattyCall_matches_terseCall :
    let other := { linkedHost with env := [("HOME", "/root"), ("PATH", "/bin"), ("USER", "me")] }
    ∃ image image', (chattyCall.launch linkedHost .exec).ending = .replaced image ∧
      (terseCall.launch other .exec).ending = .replaced image' ∧
      image.path = image'.path ∧ image.arguments = image'.arguments ∧
      image.env.get? "HOME" = image'.env.get? "HOME" ∧
      image.env.get? manifestVariable = image'.env.get? manifestVariable ∧
      (chattyCall.launch linkedHost .exec).prints ≠ (terseCall.launch other .exec).prints := by
  intro other
  have hchatty : (chattyCall.launch linkedHost .exec).ending = .replaced ⟨"/bin/bash",
      ["bash", "./build.sh"], [("PATH", "/bin"), (manifestVariable, manifestPath),
        ("HOME", "/root"), ("CFBUILD_LOG", " Debug ")]⟩ := by
    decide +kernel
  have hprints : (chattyCall.launch linkedHost .exec).prints ≠
      (terseCall.launch other .exec).prints := by
    decide +kernel
  obtain ⟨hmatches, -⟩ := @launch_of_agreeing_callers linkedHost linkedHost.env other.env
    chattyCall.separateEnv terseCall.separateEnv none (some "project/.cf/build.py")
    ⟨by decide, by decide⟩ ⟨by decide, by decide⟩ rfl
  change (chattyCall.launch linkedHost .exec).ending.Matches _ (terseCall.launch other .exec).ending
    at hmatches
  rw [hchatty] at hmatches
  obtain ⟨env, hterse, hsame⟩ := hmatches.exists_replaced
  exact ⟨_, _, hchatty, hterse, rfl, rfl, hsame "HOME" (.inr rfl), hsame _ (.inl rfl), hprints⟩

/-! ## The two places -/

/-- A separate mapping has the effect of the same bindings in the process, if the search for the
    interpreter comes to the same answer with the search path of the process and with the one that
    the mapping gives. The launches end alike and leave the same directory behind. -/
theorem launch_separate_eq_process {host : Host} {env : Env} (arguments : Option (List String))
    (file : Option String) (settings : Option Settings)
    (hlegal : Env.Legal (host.env.overlay env))
    (hfound : ∀ wrapper place interpreter, host.Locates file wrapper →
      host.LeadsInto (projectRoot wrapper) place →
      (settings.getD {}).interpreter? = some interpreter →
      ({ host with cwd := some place }.which interpreter).isSome =
        ({ host with cwd := some place, env := host.env.overlay env }.which interpreter).isSome) :
    let separate := launch { arguments, file, separateEnv := some env, settings } host .exec
    let process := launch { arguments, file, settings } { host with env := host.env.overlay env }
      .exec
    separate.ending.Matches Table.SameBindings process.ending ∧
      process.host = { separate.host with env := process.host.env } := by
  intro separate process
  have hagrees : Agrees { arguments, file, separateEnv := some env, settings } host
      { arguments, file, settings } { host with env := host.env.overlay env } := by
    refine ⟨rfl, rfl, rfl, rfl, ?_, ?_, ?_⟩
    · rw [delegate_settingsOn, delegate_settingsOn]
    · rw [interpreter_settingsOn, interpreter_settingsOn]
    · intro wrapper place hentered interpreter hinterpreter
      unfold Settings.interpreter? at hinterpreter
      rw [interpreter_settingsOn] at hinterpreter
      exact hfound wrapper place interpreter hentered.located hentered.enterable hinterpreter
  have hsame : Table.SameBindings
      (delegateEnv { arguments, file, separateEnv := some env, settings } host)
      (delegateEnv { arguments, file, settings } { host with env := host.env.overlay env }) := by
    intro name
    simp only [get?_delegateEnv, Table.get?_overlay, Option.bind_some, Option.bind_none,
      Option.none_or]
  refine ⟨hagrees.matches_ending (hsame _) ?_ hsame, hagrees.host_eq rfl⟩
  have hprocess : (delegateEnv { arguments, file, settings }
      { host with env := host.env.overlay env }).Legal :=
    legal_delegateEnv hlegal (by simp)
  rw [hprocess.fault?_eq_none]
  exact hlegal.overlay_selectManifest.fault?_eq_none

/-- A caller who gives variables that disagree with those of the process. -/
def movedCall : Invocation where
  file := some "project/.cf/build.py"
  separateEnv := some [("HOME", "/home"), ("USER", "me")]

theorem movedCall_matches_process :
    let call : Invocation := { file := some "project/.cf/build.py" }
    let other :=
      { linkedHost with env := linkedHost.env.overlay [("HOME", "/home"), ("USER", "me")] }
    ∃ image image', (movedCall.launch linkedHost .exec).ending = .replaced image ∧
      (call.launch other .exec).ending = .replaced image' ∧
      image.path = image'.path ∧ image.arguments = image'.arguments ∧
      ∀ name, image.env.get? name = image'.env.get? name := by
  intro call other
  have hmoved : (movedCall.launch linkedHost .exec).ending = .replaced ⟨"/bin/bash",
      ["bash", "./build.sh"], [("PATH", "/bin"), (manifestVariable, manifestPath),
        ("HOME", "/home"), ("USER", "me")]⟩ := by
    decide +kernel
  obtain ⟨hmatches, -⟩ := @launch_separate_eq_process linkedHost
    [("HOME", "/home"), ("USER", "me")] none (some "project/.cf/build.py") none (by decide)
    (fun _ place interpreter _ _ _ =>
      @isSome_which_congr linkedHost other rfl (by decide) place interpreter)
  change (movedCall.launch linkedHost .exec).ending.Matches _ (call.launch other .exec).ending
    at hmatches
  rw [hmoved] at hmatches
  obtain ⟨env, hprocess, hsame⟩ := hmatches.exists_replaced
  exact ⟨_, _, hmoved, hprocess, rfl, rfl, hsame⟩

/-- The search path of a separate mapping is not the one that the interpreter is looked for along:
    the launch gives up, although with the same binding in the process the delegate is launched. -/
theorem separatePath_ignored :
    let barren := { linkedHost with env := [("PATH", "/none")] }
    let separate := launch { file := some "project/.cf/build.py"
                             separateEnv := some [("PATH", "/bin")] } barren .exec
    let process := launch { file := some "project/.cf/build.py" }
      { barren with env := barren.env.overlay [("PATH", "/bin")] } .exec
    Env.Legal (barren.env.overlay [("PATH", "/bin")]) ∧
      separate.ending = .returned 127 ∧
      process.ending = .replaced ⟨"/bin/bash", ["bash", "./build.sh"],
        [("PATH", "/bin"), (manifestVariable, manifestPath)]⟩ := by
  decide +kernel

end Invocation

end Handoff
