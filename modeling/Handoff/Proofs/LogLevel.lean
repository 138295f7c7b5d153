import Handoff.Proofs.Agreement

set_option autoImplicit false

/-! # What the level changes

The settings choose a level by name. `Invocation.launch_atLevel` says that the choice shows in the
prints and in nothing else: between a lower and a higher level a launch differs only in that the
higher one prints some messages more (`LouderBy`), and the lowest level leaves nothing but the
complaint of a launch that stops. -/

namespace Handoff

/-- Names that are not known choose silence. -/
theorem Level.ofName_eq_silent_iff {name : String} :
    ofName name = .silent ↔ name ∉ ["error", "info", "debug"] := by
  unfold ofName ofName?
  split <;> simp_all

/-! ## More prints at a higher level -/

/-- The prints `louder` are the prints `softer` with messages put in between, namely such that the
    level of `loud` reaches and the level of `soft` does not. -/
inductive LouderBy (soft loud : Level) : List Print → List Print → Prop
  | nil : LouderBy soft loud [] []
  | both {softer louder : List Print} (print : Print) (h : LouderBy soft loud softer louder) :
      LouderBy soft loud (print :: softer) (print :: louder)
  | message {softer louder : List Print} {severity : Severity} (text : String)
      (hsoft : soft.rank < severity.level.rank) (hloud : severity.level.rank ≤ loud.rank)
      (h : LouderBy soft loud softer louder) :
      LouderBy soft loud softer
        (⟨.err, "cfbuild [" ++ severity.tag ++ "] " ++ text⟩ :: louder)

namespace LouderBy

variable {soft loud : Level} {softer louder softer' louder' : List Print}

theorem append (h : LouderBy soft loud softer louder) (h' : LouderBy soft loud softer' louder') :
    LouderBy soft loud (softer ++ softer') (louder ++ louder') := by
  induction h with
  | nil => exact h'
  | both print _ ih => exact .both print ih
  | message text hsoft hloud _ ih => exact .message text hsoft hloud ih

theorem sublist (h : LouderBy soft loud softer louder) : softer.Sublist louder := by
  induction h with
  | nil => exact .slnil
  | both print _ ih => exact ih.cons_cons print
  | message text _ _ _ ih => exact ih.cons _

/-- What is not a message of the console is printed at every level. -/
theorem say {soft loud : Console} (hle : soft.level.rank ≤ loud.level.rank) (severity : Severity)
    (text : String) :
    LouderBy soft.level loud.level (soft.say severity text) (loud.say severity text) := by
  unfold Console.say
  by_cases hsoft : severity.level.rank ≤ soft.level.rank
  · rw [if_pos hsoft, if_pos (Nat.le_trans hsoft hle)]
    exact .both _ .nil
  · rw [if_neg hsoft]
    split_ifs with hloud
    · exact .message text (Nat.lt_of_not_le hsoft) hloud .nil
    · exact .nil

end LouderBy

theorem Console.say_of_silent {console : Console} (h : console.level = .silent)
    (severity : Severity) (text : String) : console.say severity text = [] := by
  unfold say
  rw [h]
  cases severity <;> rfl

/-! ## How a launch ends -/

/-- The refusal with which an operation ended, if that was its end. -/
def Ending.refusal? {α : Type} : Ending α → Option Refusal
  | .failed (.refusal refusal) => some refusal
  | _ => none

/-- The refusal that a launch stops with, be it in the preflight or at the hand-over. -/
def Invocation.refusal? (invocation : Invocation) (host : Host) (runner : Runner) :
    Option Refusal :=
  (handOver (invocation.preflight host) runner).ending.refusal?

/-- The console has no say in how a launch ends. -/
theorem ending_conclude (console other : Console) (ending : Ending Int) :
    (conclude console ending).1 = (conclude other ending).1 := by
  unfold conclude
  split <;> rfl

theorem LouderBy.conclude {soft loud : Console} (hle : soft.level.rank ≤ loud.level.rank)
    (ending : Ending Int) :
    LouderBy soft.level loud.level (conclude soft ending).2 (conclude loud ending).2 := by
  unfold Handoff.conclude
  split
  · exact .both _ (.say hle _ _)
  · exact .say hle _ _
  · exact .nil

theorem prints_conclude_of_silent {console : Console} (h : console.level = .silent)
    (ending : Ending Int) :
    (conclude console ending).2 =
      ending.refusal?.toList.map fun refusal => Console.complain refusal.message := by
  unfold conclude
  split
  · rw [Console.say_of_silent h]
    rfl
  · exact Console.say_of_silent h _ _
  · next hrefusal hreturned =>
      cases ending with
      | returned status => exact absurd rfl (hreturned status)
      | replaced image => rfl
      | failed failure =>
          cases failure with
          | refusal refusal => exact absurd rfl (hrefusal refusal)
          | _ => rfl

/-! ## The same launch at two levels -/

namespace Invocation

/-- The invocation with these settings, except for the level, which is the one with this name. -/
def atLevel (invocation : Invocation) (settings : Settings) (name : String) : Invocation :=
  { invocation with settings := some { settings with logLevel := name } }

variable {invocation : Invocation} {settings : Settings} {host : Host} {name other : String}

theorem agrees_atLevel :
    (invocation.atLevel settings name).Agrees host (invocation.atLevel settings other) host :=
  ⟨rfl, rfl, rfl, rfl, rfl, rfl, fun _ _ _ _ _ => rfl⟩

theorem louderBy_preflight {soft loud : String}
    (hle : (Level.ofName soft).rank ≤ (Level.ofName loud).rank) :
    LouderBy (.ofName soft) (.ofName loud)
      ((invocation.atLevel settings soft).preflight host).prints
      ((invocation.atLevel settings loud).preflight host).prints := by
  obtain ⟨progress, hcomes⟩ := (invocation.atLevel settings soft).exists_comes host
  rw [hcomes.preflight_eq, (agrees_atLevel.comes hcomes).preflight_eq]
  have hsay := @LouderBy.say ⟨soft⟩ ⟨loud⟩ hle
  cases progress with
  | lost failure => exact .nil
  | outside failure => exact hsay _ _
  | stopped wrapper place failure => exact (hsay _ _).append (hsay _ _)
  | ready wrapper place => exact ((hsay _ _).append (hsay _ _)).append (hsay _ _)

theorem prints_preflight_of_silent (h : Level.ofName name = .silent) :
    ((invocation.atLevel settings name).preflight host).prints = [] := by
  obtain ⟨progress, hcomes⟩ := (invocation.atLevel settings name).exists_comes host
  rw [hcomes.preflight_eq]
  have hsay := @Console.say_of_silent ⟨name⟩ h
  cases progress with
  | lost failure => rfl
  | outside failure => exact hsay _ _
  | stopped wrapper place failure => exact List.append_eq_nil_iff.2 ⟨hsay _ _, hsay _ _⟩
  | ready wrapper place =>
      exact List.append_eq_nil_iff.2
        ⟨List.append_eq_nil_iff.2 ⟨hsay _ _, hsay _ _⟩, hsay _ _⟩

variable (invocation settings host name other)

/-- The preflight does the same at both levels, apart from its prints. -/
theorem preflight_atLevel :
    let first := (invocation.atLevel settings name).preflight host
    let second := (invocation.atLevel settings other).preflight host
    second = { first with prints := second.prints } := by
  intro first second
  obtain ⟨progress, hcomes⟩ := (invocation.atLevel settings name).exists_comes host
  simp only [first, second, hcomes.preflight_eq, (agrees_atLevel.comes hcomes).preflight_eq]
  cases progress <;> rfl

/-- The hand-over does not see what was printed before it. -/
theorem handOver_atLevel (runner : Runner) :
    handOver ((invocation.atLevel settings other).preflight host) runner =
      handOver ((invocation.atLevel settings name).preflight host) runner := by
  have hsame := preflight_atLevel invocation settings host name other
  rw [show (invocation.atLevel settings other).preflight host = _ from hsame]
  rfl

/-- The level shows in what a launch prints and in nothing else. At any two levels it ends alike and
    leaves the same host, runner and separate variables behind. The output stream is left alone; on
    the error stream the higher of two levels only adds messages, those that the lower one does not
    reach. A level of silence, be it chosen as such or by a name that is not known, leaves one line
    to a launch that stops with a refusal, which tells the user why, and none to any other. -/
theorem launch_atLevel (invocation : Invocation) (settings : Settings) (host : Host)
    (runner : Runner) :
    let report := fun name => (invocation.atLevel settings name).launch host runner
    (∀ name other, report other = { report name with prints := (report other).prints }) ∧
    (∀ name, Print.transcript .out (report name).prints = "") ∧
    (∀ soft loud, (Level.ofName soft).rank ≤ (Level.ofName loud).rank →
      (report soft).prints.Sublist (report loud).prints ∧
      LouderBy (.ofName soft) (.ofName loud) (report soft).prints (report loud).prints) ∧
    ∀ name, name ∉ ["error", "info", "debug"] →
      (report name).prints =
        ((invocation.atLevel settings name).refusal? host runner).toList.map
          fun refusal => Console.complain refusal.message := by
  intro report
  have hover := fun name other => handOver_atLevel invocation settings host name other runner
  refine ⟨?_, fun name => transcript_out_launch _ _ _, ?_, ?_⟩
  · intro name other
    have hseparate := congrArg Preflight.separateEnv
      (preflight_atLevel invocation settings host name other)
    simp only [report, launch, hover name other, hseparate, ending_conclude _ ⟨other⟩]
  · intro soft loud hle
    have hlouder : LouderBy (.ofName soft) (.ofName loud) (report soft).prints
        (report loud).prints := by
      simp only [report, launch, hover soft loud]
      exact (louderBy_preflight hle).append (@LouderBy.conclude ⟨soft⟩ ⟨loud⟩ hle _)
    exact ⟨hlouder.sublist, hlouder⟩
  · intro name hname
    have hsilent := Level.ofName_eq_silent_iff.2 hname
    simp only [report, launch, prints_preflight_of_silent hsilent, List.nil_append]
    exact @prints_conclude_of_silent ⟨name⟩ hsilent _

end Invocation

end Handoff
