import RssIncubator.Driver.Session

/-!
# The process (`main`)

The loop of `main` over the sessions of one agent, and the life of a device over the processes that are started on it.
A session that asks for the next credential is followed by another one at once, one that lost its transport after a
delay; any other end of a session is the end of the process.

A run is a list of inputs: processes started and killed, the signal, the openings of sessions, and the rounds of the
session that is open with what surrounds each of them.
-/

namespace RssIncubator.Driver

open Agent Lib Prog

/-- Where the loop of `main` stands. -/
inductive Stage where
  | opening
  | retrying
  | session (driver : SessionDriver)

structure Process where
  device : Device
  stage : Stage
  /-- The shutdown token. -/
  cancelled : Bool
  deeds : List Deed

inductive Input where
  | start (config : AgentConfig) (now : ℕ) (faults : Faults)
  | kill
  | signal
  | connect (readable : Bool)
  | turn (poll : Poll) (ambient : Ambient)

/-- `run_session` up to its driver.  The credential files of the current revision may be unreadable. -/
def SessionDriver.create (a : Running) (readable : Bool) : Except SessionError SessionDriver := do
  let identity ← a.currentIdentity.mapError .agent
  let recoveryCommand ← a.pendingCommandScope.mapError .agent
  if readable then
    .ok ⟨MqttSession.new identity a.state.current.credentialRevision recoveryCommand, identity, recoveryCommand, {}⟩
  else .error (.mqtt .credentialUnavailable)

/-- Can the loop come back with this?  The signal is seen once the token is cancelled. -/
def Poll.possible (cancelled : Bool) : Poll → Bool
  | .shutdown => cancelled
  | _ => true

namespace Process

/-- A device on which no process has run. -/
def fresh : Process := ⟨Device.fresh, .opening, false, []⟩

/-- The process ends, and its agent with it. -/
def exit (p : Process) : Process := { p with device := ⟨p.device.tree, none⟩, stage := .opening, cancelled := false }

/-- What the loop of `main` does with the end of a session. -/
def conclude (p : Process) (result : Except SessionError SessionCompletion) : Process :=
  let q : Process := { p with deeds := p.deeds ++ [.ended result] }
  match result with
  | .ok .reconnect => { q with stage := .opening }
  | .ok .shutdown => q.exit
  | .error (.mqtt e) =>
    if e.isRetryable then (if q.cancelled then q.exit else { q with stage := .retrying }) else q.exit
  | .error _ => q.exit

/-- The host of a session that is open. -/
def host (p : Process) (a : Running) (driver : SessionDriver) : Host := ⟨p.device.tree, a, driver, p.deeds⟩

/-- The process with what a round left of its host. -/
def resume (p : Process) (h : Host) : Process :=
  { p with device := ⟨h.tree, some h.agent⟩, stage := .session h.driver, deeds := h.deeds }

/-- The process after a round. -/
def after (p : Process) : Outcome SessionError (Option SessionCompletion) × Host → Process
  | (.ok none, h) => p.resume h
  | (.ok (some completion), h) => (p.resume h).conclude (.ok completion)
  | (.err e, h) => (p.resume h).conclude (.error e)
  | (.crash, h) => (p.resume h).exit

/-- `run_session`, up to its loop.  The first head of the loop finds no connection and does nothing. -/
def connect (p : Process) (a : Running) (readable : Bool) : Process :=
  match SessionDriver.create a readable with
  | .ok driver => { p with stage := .session driver, deeds := p.deeds ++ [.opened driver a.state] }
  | .error e => p.conclude (.error e)

section

variable (pki : Pki) (wire : Wire)

/-- One input.  What cannot happen in the stage the process is in changes nothing. -/
def step (p : Process) : Input → Process
  | .start config now faults =>
    match p.device.agent with
    | some _ => p
    | none => { p with
        device := (p.device.step pki (.openAgent config now faults)).2, stage := .opening, cancelled := false }
  | .kill => p.exit
  | .signal =>
    match p.stage with
    | .retrying => p.exit
    | _ => { p with cancelled := true }
  | .connect readable =>
    match p.device.agent, p.stage with
    | some _, .session _ => p
    | some a, _ => p.connect a readable
    | none, _ => p
  | .turn poll ambient =>
    match p.device.agent, p.stage with
    | some a, .session driver =>
      if poll.possible p.cancelled then p.after (turn pki wire ambient poll (p.host a driver)) else p
    | _, _ => p

/-- The process after a list of inputs. -/
def run (p : Process) : List Input → Process
  | [] => p
  | input :: inputs => run (p.step pki wire input) inputs

theorem run_append (p : Process) (l l' : List Input) : p.run pki wire (l ++ l') = (p.run pki wire l).run pki wire l' := by
  induction l generalizing p with
  | nil => rfl
  | cons input l ih => exact ih _

theorem run_concat (p : Process) (l : List Input) (input : Input) :
    p.run pki wire (l ++ [input]) = (p.run pki wire l).step pki wire input := run_append ..

end

end Process

end RssIncubator.Driver
