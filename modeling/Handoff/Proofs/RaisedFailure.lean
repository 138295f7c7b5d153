import Handoff.Proofs.Handover

set_option autoImplicit false

/-! # A runner that fails

What a launch makes of a failure that its runner raises at the hand-over. `launch_of_raises` says it
for every failure. An error of the system, of whatever kind, becomes a refusal to launch the script,
and the user is told the system's reason; a refusal is told in its own words; and every other
failure is passed on as it is. None of them is lost, and what was done before the hand-over stays
done. -/

namespace Handoff

/-! ## Errors of the system -/

namespace SystemError

/-- The words are the reason of the error, or all that is known about it where there is no reason or
    only an empty one. -/
def Explains (error : SystemError) (words : String) : Prop :=
  (error.reason? = some words ∧ words ≠ "") ∨
    (∀ reason, error.reason? = some reason → reason = "") ∧ words = error.text

theorem explains_explanation (error : SystemError) : error.Explains error.explanation := by
  unfold Explains explanation
  cases error.reason? with
  | none => simp
  | some reason => by_cases hempty : reason = "" <;> simp [hempty]

theorem Kind.ofErrno_eq_notFound_iff {errno : Int} : ofErrno errno = .notFound ↔ errno = 2 := by
  unfold ofErrno
  split <;> simp_all

/-- Of the errors of the general class, those with the number 2 turn into a missing file. -/
theorem kind_ofDetail_eq_notFound_iff {detail : Detail} :
    (ofDetail detail).kind = .notFound ↔ ∃ reason file, detail = .coded (some 2) reason file := by
  unfold ofDetail
  split
  · next errno reason file => simp [Kind.ofErrno_eq_notFound_iff]
  · next hcoded =>
      simp only [reduceCtorEq, false_iff, not_exists]
      rintro reason file rfl
      exact hcoded 2 reason file rfl

end SystemError

/-! ## Complaints -/

/-- Messages of the console look different. -/
theorem Console.complain_notMem_say {console : Console} {severity : Severity}
    {text message : String} : complain message ∉ console.say severity text := by
  unfold say
  split_ifs
  · intro h
    have hline := congrArg (fun print => print.line.toList) (List.mem_singleton.1 h)
    simp [complain, String.toList_append] at hline
  · simp

namespace Invocation

variable {invocation : Invocation} {host : Host}

/-- Before the hand-over nothing is complained about. -/
theorem complain_notMem_preflight (message : String) :
    Console.complain message ∉ (invocation.preflight host).prints := by
  obtain ⟨progress, hcomes⟩ := invocation.exists_comes host
  rw [hcomes.preflight_eq]
  cases progress <;>
    simp [preflightAt, enteredPrints, Console.complain_notMem_say]

end Invocation

/-! ## The launch -/

/-- After `before` the launch stops and says why: the user is told `message`, once, and gets
    `status`. A console with a level for it also names the category. -/
structure Report.Stops (report : Report) (console : Console) (before : List Print)
    (category : Refusal.Category) (message : String) (status : Int) : Prop where
  ending : report.ending = .returned status
  prints : report.prints = before ++ Console.complain message ::
    console.say .error (category.label ++ ": exiting with status " ++ toString status)

namespace Invocation

variable {invocation : Invocation} {host : Host} {command : DelegateCommand}

/-- The runner is asked and fails. -/
theorem launch_scripted_raises (h : (invocation.preflight host).verdict = .ok command)
    (failure : Failure) (calls : List Handover) :
    let before := invocation.preflight host
    let conclusion := conclude (invocation.consoleOn host)
      (launchVerdict command.script (.failed failure))
    invocation.launch host (.scripted (.raises failure) calls) =
      { ending := conclusion.1
        host := before.host
        runner := .scripted (.raises failure)
          (calls ++ [⟨command.words, before.separateEnv, some handoverNote⟩])
        separateEnv := before.separateEnv
        prints := before.prints ++ conclusion.2 } := by
  simp only [launch, handOver, h, invokeDelegate, Runner.replace]

/-- What comes of a failure that a runner raises when it is asked for the hand-over. The call is
    written down, and host and separate variables stay as the preflight left them. An error of the
    system stops the launch with the words of the system about the script: with 127 if it is of the
    kind for missing files and with 126 otherwise, whatever number it has; an error of the general
    class is of that kind exactly if it has the number 2. A refusal stops the launch with its own
    message and its own status, or that of its category. Any other failure ends the launch unchanged
    and without a complaint, and before the hand-over there is none either. -/
theorem launch_of_raises (h : (invocation.preflight host).verdict = .ok command)
    (failure : Failure) (calls : List Handover) :
    let before := invocation.preflight host
    let console := invocation.consoleOn host
    let report := invocation.launch host (.scripted (.raises failure) calls)
    report.runner = .scripted (.raises failure)
        (calls ++ [⟨command.words, before.separateEnv, some handoverNote⟩]) ∧
      report.host = before.host ∧ report.separateEnv = before.separateEnv ∧
      (∀ error, failure = .system error → ∃ words, error.Explains words ∧
        report.Stops console before.prints .delegateLaunch
          ("Cannot launch '" ++ command.script ++ "': " ++ words)
          (if error.kind = .notFound then 127 else 126)) ∧
      (∀ detail, failure = .system (.ofDetail detail) →
        (report.ending = .returned 127 ↔
          ∃ reason file, detail = .coded (some 2) reason file)) ∧
      (∀ refusal, failure = .refusal refusal →
        report.Stops console before.prints refusal.category refusal.message refusal.exitStatus) ∧
      (∀ category message status, failure = .refusal (.raised category message status) →
        report.Stops console before.prints category message
          (status.getD (match category with
            | .general => 1
            | .pathResolution => 72
            | .delegateLaunch => 127))) ∧
      ((∀ error, failure ≠ .system error) → (∀ refusal, failure ≠ .refusal refusal) →
        report.ending = .failed failure ∧ report.prints = before.prints) ∧
      ∀ message, Console.complain message ∉ before.prints := by
  intro before console report
  have hreport := launch_scripted_raises h failure calls
  have hsystem : ∀ error, failure = .system error →
      report.Stops console before.prints .delegateLaunch
        ("Cannot launch '" ++ command.script ++ "': " ++ error.explanation)
        (if error.kind = .notFound then 127 else 126) := by
    rintro error rfl
    exact ⟨congrArg Report.ending hreport, congrArg Report.prints hreport⟩
  have hrefusal : ∀ refusal, failure = .refusal refusal →
      report.Stops console before.prints refusal.category refusal.message
        refusal.exitStatus := by
    rintro refusal rfl
    exact ⟨congrArg Report.ending hreport, congrArg Report.prints hreport⟩
  refine ⟨congrArg Report.runner hreport, congrArg Report.host hreport,
    congrArg Report.separateEnv hreport, ?_, ?_, hrefusal, ?_, ?_, complain_notMem_preflight⟩
  · intro error herror
    exact ⟨error.explanation, error.explains_explanation, hsystem error herror⟩
  · intro detail hdetail
    rw [(hsystem _ hdetail).ending, ← SystemError.kind_ofDetail_eq_notFound_iff]
    split_ifs with hkind <;> simp [hkind]
  · intro category message status hraised
    cases category <;> exact hrefusal _ hraised
  · intro hsystem' hrefusal'
    cases failure with
    | system error => exact absurd rfl (hsystem' error)
    | refusal refusal => exact absurd rfl (hrefusal' refusal)
    | _ =>
        exact ⟨congrArg Report.ending hreport,
          (congrArg Report.prints hreport).trans (List.append_nil _)⟩

/-- A reason that says nothing gives way to all that is known, a class that disagrees with the number
    decides the status, a status of its own goes before that of the category, and what means nothing
    to the launcher is passed on. -/
theorem linkedCall_raises :
    let raising := fun failure => linkedCall.launch linkedHost (.scripted (.raises failure) [])
    let refused := fun words => [Console.complain ("Cannot launch './build.sh': " ++ words)]
    let absent := raising (.system (.ofDetail (.coded (some 2) (some "") (some "gone"))))
    let blocked := raising (.system ⟨.permission, .coded (some 2) (some "No entry") none⟩)
    let stopped := raising (.refusal (.raised .pathResolution "no way" (some 3)))
    let other := raising (.foreign { kind := "NotImplementedError", values := [.text "later"] })
    (absent.ending = .returned 127 ∧ absent.prints = refused "[Errno 2] : 'gone'") ∧
      (blocked.ending = .returned 126 ∧ blocked.prints = refused "No entry") ∧
      (stopped.ending = .returned 3 ∧ stopped.prints = [Console.complain "no way"]) ∧
      other.prints = [] ∧ other.host.cwdText = .ok "/srv" ∧
      other.runner.log.length = 1 := by
  intro raising refused absent blocked stopped other
  have hready : (linkedCall.preflight linkedHost).verdict =
      .ok ⟨some "bash", "./build.sh", ["a b", ""]⟩ := by
    decide +kernel
  have hquiet : (linkedCall.preflight linkedHost).prints = [] := by decide +kernel
  have hconsole : linkedCall.consoleOn linkedHost = ⟨"none"⟩ := by decide +kernel
  have hraises := launch_of_raises hready
  have htold : ∀ {failure category message status},
      (raising failure).Stops (linkedCall.consoleOn linkedHost)
        (linkedCall.preflight linkedHost).prints category message status →
      (raising failure).ending = .returned status ∧
        (raising failure).prints = [Console.complain message] := by
    intro failure category message status hstops
    refine ⟨hstops.ending, ?_⟩
    rw [hstops.prints, hquiet, hconsole]
    rfl
  refine ⟨?_, ?_, ?_, ?_⟩
  · obtain ⟨-, -, -, hsystem, -⟩ :=
      hraises (.system (.ofDetail (.coded (some 2) (some "") (some "gone")))) []
    obtain ⟨words, ⟨hreason, hwords⟩ | ⟨-, rfl⟩, hstops⟩ := hsystem _ rfl
    · cases hreason
      exact absurd rfl hwords
    · exact htold hstops
  · obtain ⟨-, -, -, hsystem, -⟩ :=
      hraises (.system ⟨.permission, .coded (some 2) (some "No entry") none⟩) []
    obtain ⟨words, ⟨hreason, -⟩ | ⟨hempty, -⟩, hstops⟩ := hsystem _ rfl
    · cases hreason
      exact htold hstops
    · exact absurd (hempty _ rfl) (by decide)
  · obtain ⟨-, -, -, -, -, -, hraised, -⟩ :=
      hraises (.refusal (.raised .pathResolution "no way" (some 3))) []
    exact htold (hraised _ _ _ rfl)
  · obtain ⟨hrunner, hhost, -, -, -, -, -, hother, -⟩ :=
      hraises (.foreign { kind := "NotImplementedError", values := [.text "later"] }) []
    refine ⟨(hother (by simp) (by simp)).2.trans hquiet, ?_, ?_⟩
    · rw [show other.host = _ from hhost]
      decide +kernel
    · rw [show other.runner = _ from hrunner]
      rfl

end Invocation

end Handoff
