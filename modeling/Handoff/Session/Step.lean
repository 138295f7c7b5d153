import Handoff.Session.Request

set_option autoImplicit false

/-! # Sessions

`Session.step` answers one request and gives the session after it; `Session.run` answers several in
turn. What carries over from one request to the next is the host, with its files, directory and
variables, and the shared runner. A request that replaces the process ends nothing: the next one
finds the same host. -/

namespace Handoff

/-- The host and the shared runner of a session. -/
structure Session where
  host : Host := {}
  shared : Runner := .exec

/-- The host after an edit. -/
def Edit.apply (edit : Edit) (host : Host) : Host :=
  match edit with
  | .put place kind => { host with tree := host.tree.put kind place }
  | .remove place => { host with tree := host.tree.remove place }
  | .chmod place mode => { host with tree := host.tree.chmod mode place }
  | .bind name value => { host with env := host.env.set name value }
  | .unbind name => { host with env := host.env.erase name }

/-- Whether a runner that acts on the host replaces the process. -/
def Runner.replaces? : Runner → Option Bool
  | .exec => some true
  | .spawn => some false
  | .recording _ | .unimplemented | .scripted _ _ => none

/-- The end of one call on a runner. -/
def RunnerCall.apply (call : RunnerCall) (runner : Runner) (host : Host) : Outcome CallValue :=
  match call with
  | .run command directory env note =>
    let outcome := runner.run host command directory env note
    { outcome with ending := outcome.ending.map (.completed command) }
  | .replace command env note =>
    let outcome := runner.replace host command env note
    { outcome with ending := outcome.ending.map .status }
  | .format command => ⟨.returned (.line (Shell.commandLine command)), host, runner⟩

/-- The programs that were started between two states of the host. -/
def spawnedSince (before after : Host) : List Spawned :=
  after.spawned.drop before.spawned.length

/-- The answers to calls on one runner, each made where the one before left off, with the host and
    the runner after the last one. -/
def RunnerCall.applyAll : List RunnerCall → Runner → Host → List CallAnswer × Host × Runner
  | [], runner, host => ([], host, runner)
  | call :: rest, runner, host =>
    let outcome := call.apply runner host
    let answer : CallAnswer :=
      { ending := outcome.ending
        logged := outcome.runner.log.drop runner.log.length
        spawned := spawnedSince host outcome.host }
    let others := applyAll rest outcome.runner outcome.host
    (answer :: others.1, others.2)

namespace Session

/-- The runner that a request uses. -/
def runnerFor (session : Session) : RunnerChoice → Runner
  | .own runner => runner
  | .shared => session.shared

/-- The session after a request that left this host and this runner behind. -/
def after (session : Session) (choice : RunnerChoice) (host : Host) (runner : Runner) : Session :=
  match choice with
  | .own _ => { session with host }
  | .shared => { session with host, shared := runner }

/-- How an answer shows the log of the runner after a request. -/
def logView : RunnerChoice → Runner → LogView
  | .shared, .scripted _ _ => .live
  | _, runner => .copied runner.log

/-- The log that an answer shows to a reader who finds the session as given. -/
def readLog (session : Session) : LogView → List LogEntry
  | .copied entries => entries
  | .live => session.shared.log

/-- Answer one request. -/
def step (session : Session) (request : Request) : Answer × Session :=
  let host := session.host
  match request with
  | .loadSettings env => (.settings (.load (env.getD host.env)), session)
  | .say console messages =>
    (.said console (messages.map fun message =>
      Print.transcript .err (console.say message.1 message.2)), session)
  | .refuse refusal => (.refusal refusal, session)
  | .selectManifest separateEnv =>
    let selected := host.selectManifest separateEnv
    (.manifest (separateEnv.map Env.selectManifest) selected.processState,
      { session with host := selected })
  | .projectRoot wrapper => (.path (.returned (Handoff.projectRoot wrapper)), session)
  | .locateWrapper file => (.path (.ofExcept (Handoff.locateWrapper host file)), session)
  | .enterProjectRoot wrapper =>
    match Handoff.enterProjectRoot host wrapper with
    | .ok (root, entered) =>
      (.entered (.returned root) entered.processState, { session with host := entered })
    | .error failure => (.entered (.failed failure) host.processState, session)
  | .resolveDelegate root settings =>
    (.path (.ofExcept (Handoff.resolveDelegate host root settings)), session)
  | .buildCommand script arguments settings =>
    (.command (Handoff.buildCommand script arguments settings), session)
  | .invokeDelegate command choice env =>
    let outcome := Handoff.invokeDelegate host command (session.runnerFor choice) env
    (.invoked outcome.ending (logView choice outcome.runner) (spawnedSince host outcome.host),
      session.after choice outcome.host outcome.runner)
  | .formatCommand command => (.line (Shell.commandLine command), session)
  | .mergeEnv env => (.merged (Runner.mergedEnv host env) host.processState, session)
  | .callRunner choice calls =>
    let (answers, left, runner) := RunnerCall.applyAll calls (session.runnerFor choice) host
    (.called answers runner.log.length runner.replaces?, session.after choice left runner)
  | .launch invocation choice =>
    let report := invocation.launch host (session.runnerFor choice)
    (.launched report.ending (logView choice report.runner) (spawnedSince host report.host)
        report.separateEnv report.host.processState report.prints,
      session.after choice report.host report.runner)
  | .runScript script searchPath =>
    let report := script.run host searchPath
    (.ran report.ending report.searchPath report.host.processState report.prints,
      { session with host := report.host })
  | .chdir text =>
    match host.chdir text with
    | .ok moved => (.moved (.returned ()) (moved.processState.cwd), { session with host := moved })
    | .error error => (.moved (.failed (.system error)) host.processState.cwd, session)
  | .edit edit => (.edited, { session with host := edit.apply host })

/-- Answer requests in turn. -/
def run (session : Session) : List Request → List Answer × Session
  | [] => ([], session)
  | request :: rest =>
    let first := session.step request
    let others := run first.2 rest
    (first.1 :: others.1, others.2)

end Session

end Handoff
