import Handoff.Proofs.History

set_option autoImplicit false

/-! # What a session writes down

The shared runner of a session hears of all requests that use it: calls on it, hand-overs and
launches, with changes of the host in between. If it is the one that writes commands down, its
records are a history of these calls, to which each step adds at the end
(`Session.recording_history`).

Which calls a request makes on the shared runner, and on which host, does not depend on the runner
(`Session.sharedCalls`, `Session.shared_step`). What is particular to writing down is said about one
call (`RunnerCall.apply_recording`), and from there carried through a request and through a
session. -/

namespace Handoff

/-! ## Calls -/

/-- The record of a call that is made on a host. A command that is run is written down with the
    directory that was given for it, a hand-over with the current directory, or not at all if that
    is gone. -/
def RunnerCall.record? (call : RunnerCall) (host : Host) : Option Record :=
  match call with
  | .run command directory env note =>
    some ⟨command, directory.map Path.text, env.getD [], note, false⟩
  | .replace command env note =>
    host.cwd?.map fun place => ⟨command, some (Location.text place), env.getD [], note, true⟩
  | .format _ => none

/-- A call that was made on a runner: the host on which it was made, and how it ended. -/
structure CallMade where
  host : Host
  call : RunnerCall
  ending : Ending CallValue

namespace CallMade

/-- The record of the call. -/
def record? (made : CallMade) : Option Record := made.call.record? made.host

/-- Whether the call was to run a command or to hand over to it, and gave its status. -/
def gaveStatus (made : CallMade) : Bool :=
  match made.ending with
  | .returned (.completed _ _) | .returned (.status _) => true
  | _ => false

/-- The answer to a call that leaves nothing but its record behind. -/
def answer (made : CallMade) : CallAnswer := ⟨made.ending, made.record?.toList.map .record, []⟩

end CallMade

namespace RunnerCall

/-- The calls on one runner, each made where the one before left off. -/
def made : List RunnerCall → Runner → Host → List CallMade
  | [], _, _ => []
  | call :: rest, runner, host =>
    let outcome := call.apply runner host
    ⟨host, call, outcome.ending⟩ :: made rest outcome.runner outcome.host

/-- A call on the runner that writes commands down adds its record and leaves the host as it is. It
    has a record exactly if it gives a status. -/
theorem apply_recording (call : RunnerCall) (records : List Record) (host : Host) :
    ∃ ending, call.apply (.recording records) host =
        ⟨ending, host, .recording (records ++ (call.record? host).toList)⟩ ∧
      (CallMade.gaveStatus ⟨host, call, ending⟩ = true ↔
        ∃ record, call.record? host = some record) := by
  cases call with
  | run command directory env note =>
      exact ⟨.returned (.completed command 0), rfl, fun _ => ⟨_, rfl⟩, fun _ => rfl⟩
  | replace command env note =>
      simp only [apply, Runner.replace, Host.cwdText, record?]
      cases host.cwd? with
      | some place => exact ⟨.returned (.status 0), rfl, fun _ => ⟨_, rfl⟩, fun _ => rfl⟩
      | none =>
          refine ⟨.failed (.system (.ofErrno WalkError.missing.errno none)), ?_, ?_⟩
          · simp [Ending.map]
          · simp [CallMade.gaveStatus]
  | format command =>
      refine ⟨.returned (.line (Shell.commandLine command)), ?_, ?_⟩
      · simp [apply, record?]
      · simp [record?, CallMade.gaveStatus]

/-- Calls on the runner that writes commands down add their records in the order in which they are
    made, and each answer shows the record of its own call. -/
theorem applyAll_recording (calls : List RunnerCall) (records : List Record) (host : Host) :
    let made := made calls (.recording records) host
    applyAll calls (.recording records) host =
        (made.map CallMade.answer, host, .recording (records ++ made.filterMap CallMade.record?)) ∧
      ∀ call ∈ made, (call.gaveStatus = true ↔ ∃ record, call.record? = some record) := by
  induction calls generalizing records with
  | nil => simp [applyAll, made]
  | cons call rest ih =>
      obtain ⟨ending, hcall, hstatus⟩ := call.apply_recording records host
      obtain ⟨hrest, hothers⟩ := ih (records ++ (call.record? host).toList)
      have hadded : (Runner.recording (records ++ (call.record? host).toList)).log.drop
          (Runner.recording records).log.length =
          (call.record? host).toList.map LogEntry.record := by
        simp [Runner.log]
      simp only [made, applyAll, hcall, hrest, hadded, spawnedSince_self]
      refine ⟨?_, List.forall_mem_cons.2 ⟨hstatus, hothers⟩⟩
      cases hrecord : call.record? host <;>
        simp [CallMade.record?, CallMade.answer, hrecord]

end RunnerCall

/-! ## Requests -/

/-- The calls that a preflight leads to. -/
def Preflight.calls (ready : Preflight) : List RunnerCall :=
  match ready.verdict with
  | .error _ => []
  | .ok command => [.replace command.words ready.separateEnv (some handoverNote)]

namespace Session

variable {session : Session} {request : Request} {records : List Record}

/-- The calls that a request makes on the shared runner, with the host on which the first of them is
    made. -/
def sharedCalls (session : Session) : Request → Host × List RunnerCall
  | .callRunner .shared calls => (session.host, calls)
  | .invokeDelegate command .shared env =>
    (session.host, [.replace command.words env (some handoverNote)])
  | .launch invocation .shared =>
    let ready := invocation.preflight session.host
    (ready.host, ready.calls)
  | _ => (session.host, [])

/-- Nothing but these calls happens to the shared runner. -/
theorem shared_step (session : Session) (request : Request) :
    let (host, calls) := session.sharedCalls request
    (session.step request).2.shared = (RunnerCall.applyAll calls session.shared host).2.2 := by
  cases request with
  | enterProjectRoot wrapper =>
      simp only [step]
      split <;> rfl
  | invokeDelegate command choice env => cases choice <;> rfl
  | callRunner choice calls => cases choice <;> rfl
  | launch invocation choice =>
      cases choice with
      | own runner => rfl
      | shared =>
          simp only [sharedCalls, Preflight.calls, step, after, runnerFor, Invocation.launch,
            Invocation.handOver]
          cases (invocation.preflight session.host).verdict <;> rfl
  | chdir text =>
      simp only [step]
      split <;> rfl
  | _ => rfl

/-- The calls that a request makes on the shared runner, as they are made. -/
def callsMade (session : Session) (request : Request) : List CallMade :=
  let (host, calls) := session.sharedCalls request
  RunnerCall.made calls session.shared host

/-- The calls that all requests of a history make on the shared runner. -/
def callsMadeIn (session : Session) : List Request → List CallMade
  | [] => []
  | request :: rest => session.callsMade request ++ callsMadeIn (session.step request).2 rest

/-- A step adds the records of its calls to the log of the shared runner. -/
theorem step_recording (h : session.shared = .recording records) (request : Request) :
    let made := session.callsMade request
    (session.step request).2.shared = .recording (records ++ made.filterMap CallMade.record?) ∧
      ∀ call ∈ made, (call.gaveStatus = true ↔ ∃ record, call.record? = some record) := by
  have hstep := session.shared_step request
  simp only [callsMade, h] at hstep ⊢
  obtain ⟨hcalls, hstatus⟩ :=
    RunnerCall.applyAll_recording (session.sharedCalls request).2 records
      (session.sharedCalls request).1
  exact ⟨by rw [hstep, hcalls], hstatus⟩

/-- After a history the log holds the records of all its calls behind those that were there. -/
theorem run_recording (h : session.shared = .recording records) (history : List Request) :
    let made := session.callsMadeIn history
    (session.run history).2.shared = .recording (records ++ made.filterMap CallMade.record?) ∧
      ∀ call ∈ made, (call.gaveStatus = true ↔ ∃ record, call.record? = some record) := by
  induction history generalizing session records with
  | nil => simp [run, callsMadeIn, h]
  | cons request rest ih =>
      obtain ⟨hfirst, hstatus⟩ := step_recording h request
      obtain ⟨hrest, hothers⟩ := ih hfirst
      simp only [run, callsMadeIn, hrest, List.filterMap_append, List.append_assoc, true_and]
      exact List.forall_mem_append.2 ⟨hstatus, hothers⟩

/-- There are as many records as calls that gave a status. -/
theorem length_records {made : List CallMade}
    (h : ∀ call ∈ made, (call.gaveStatus = true ↔ ∃ record, call.record? = some record)) :
    (made.filterMap CallMade.record?).length = made.countP CallMade.gaveStatus := by
  rw [List.length_filterMap_eq_countP]
  exact List.countP_congr fun call hcall => by
    rw [h call hcall, Option.isSome_iff_exists]

/-- The answer to calls on the shared runner shows for each of them how it ended and its record. -/
theorem answer_callRunner (h : session.shared = .recording records) (calls : List RunnerCall) :
    let made := session.callsMade (.callRunner .shared calls)
    (session.step (.callRunner .shared calls)).1 =
      .called (made.map CallMade.answer)
        (records ++ made.filterMap CallMade.record?).length none := by
  simp only [step, runnerFor, callsMade, sharedCalls, h,
    (RunnerCall.applyAll_recording calls records session.host).1, Runner.log, List.length_map,
    Runner.replaces?]

/-- The record of a launch is that of a hand-over in the directory of its project root. -/
theorem record_of_launch {invocation : Invocation} {record : Record}
    (h : record ∈ (session.callsMade (.launch invocation .shared)).filterMap CallMade.record?) :
    record.replaced = true ∧ ∃ wrapper place,
      locateWrapper session.host invocation.file = .ok wrapper ∧
        session.host.tree.resolve session.host.cwd? (projectRoot wrapper).text = .ok place ∧
        record.directory = some (Location.text place) := by
  simp only [callsMade, sharedCalls, Preflight.calls] at h
  cases hverdict : (invocation.preflight session.host).verdict with
  | error failure => simp [hverdict, RunnerCall.made] at h
  | ok command =>
      obtain ⟨wrapper, place, hready⟩ := Invocation.exists_ready_of_verdict hverdict
      have hcwd : (invocation.preflight session.host).host.cwd? = some place := by
        rw [hready.preflight_eq.2.1]
        exact hready.cwd?_readyHost
      simp only [hverdict, RunnerCall.made, List.filterMap_cons, List.filterMap_nil,
        CallMade.record?, RunnerCall.record?, hcwd, Option.map_some, List.mem_singleton] at h
      subst h
      exact ⟨rfl, wrapper, place, locateWrapper_eq_ok_iff.2 hready.located,
        hready.enterable.2.1, rfl⟩

/-- The log of the runner that writes commands down is a history of the calls on it, whatever else
    happens in the session. It holds what it held at the start and then the record of every call
    that gave a status, in order. A step leaves the log as it is and adds the records of its own
    calls, each call at most one and none if it fails; the answer to calls on the runner shows them
    one by one. What a launch adds is written down as a hand-over, in the place to which its project
    root leads. -/
theorem recording_history (host : Host) (records : List Record) (history : List Request) :
    let start : Session := { host, shared := .recording records }
    let now := (start.run history).2
    let calls := start.callsMadeIn history
    let logged := records ++ calls.filterMap CallMade.record?
    now.shared = .recording logged ∧
      logged.length = records.length + calls.countP CallMade.gaveStatus ∧
      ∀ request,
        let made := now.callsMade request
        let added := made.filterMap CallMade.record?
        (now.step request).2.shared = .recording (logged ++ added) ∧
          (∀ call ∈ made, (call.gaveStatus = true ↔ ∃ record, call.record? = some record)) ∧
          (∀ asked, request = .callRunner .shared asked →
            (now.step request).1 =
              .called (made.map CallMade.answer) (logged ++ added).length none) ∧
          ∀ invocation, request = .launch invocation .shared → ∀ record ∈ added,
            record.replaced = true ∧ ∃ wrapper place,
              locateWrapper now.host invocation.file = .ok wrapper ∧
                now.host.tree.resolve now.host.cwd? (projectRoot wrapper).text = .ok place ∧
                record.directory = some (Location.text place) := by
  intro start now calls logged
  have hstart : start.shared = .recording records := rfl
  obtain ⟨hlogged, hstatus⟩ := run_recording hstart history
  refine ⟨hlogged, by rw [List.length_append, length_records hstatus], ?_⟩
  intro request made added
  obtain ⟨hadded, hmade⟩ := step_recording hlogged request
  refine ⟨hadded, hmade, ?_, ?_⟩
  · rintro asked rfl
    exact answer_callRunner hlogged asked
  · rintro invocation rfl record hrecord
    exact record_of_launch hrecord

-- Once the directory is gone a hand-over fails and is not written down, unlike a command to run.
example :
    let host : Host := { tree := Node.emptyDir.put (.dir .all) ["work"], cwd := some ["work"] }
    let asked : List RunnerCall := [.replace ["first"] none none, .run ["second"] none none none]
    (({ host, shared := .recording [] } : Session).run
        [.callRunner .shared asked, .edit (.remove ["work"]), .callRunner .shared asked]).2.shared =
      .recording [⟨["first"], some "/work", [], none, true⟩, ⟨["second"], none, [], none, false⟩,
        ⟨["second"], none, [], none, false⟩] := by
  decide +kernel

end Session

end Handoff
