import ChatGateway.Backend.Settle

namespace ChatGateway.Backend

structure Client where
  backend : State
  kept : List (String × Nat) := []

namespace Client

inductive Action where
  | submit (name : String) (command : Command)
  | receive (name : String)
  | drop (name : String)
  | shutDown
  | dropHandle
  | kill
  /-- The loop and all tasks are killed after the shutdown is asked for and before it is confirmed. -/
  | shutDownAndKill
deriving DecidableEq, Repr

inductive Outcome where
  | queued
  | received (a : Answer)
  | failed (e : Failure)
  | pending
  | closed
  | unknown
  | dropped
  | confirmed
  | killed
  | gone
deriving DecidableEq, Repr

def withBackend (c : Client) (backend : State) : Client := { c with backend }

def drop (c : Client) (name : String) : Client :=
  match c.kept.lookup name with
  | some i => { backend := c.backend.detach i, kept := c.kept.filter (·.1 != name) }
  | none => c

def submit (c : Client) (name : String) (command : Command) : Outcome × Client :=
  if c.backend.held then
    match c.backend.submit command with
    | .ok backend =>
      let c := (c.withBackend backend).drop name
      (.queued, { c with kept := (name, backend.jobs.length - 1) :: c.kept })
    | .error e => (.failed e, c)
  else (.gone, c)

def receive (c : Client) (name : String) : Outcome × Client :=
  match c.kept.lookup name with
  | some i =>
    match c.backend.receive i with
    | some (a, backend) => (.received a, c.withBackend backend)
    | none => (if c.backend.jobs[i]?.all Job.isDone then .closed else .pending, c)
  | none => (.unknown, c)

def shutDown (c : Client) (during : State → State) : Outcome × Client :=
  if c.backend.held then
    match c.backend.askShutdown with
    | .ok backend =>
      let backend := during backend
      (if backend.shutdown = .confirmed then .confirmed else .failed .disconnected,
        c.withBackend backend)
    | .error e => (.failed e, c.withBackend c.backend.dropHandle)
  else (.gone, c)

def perform (c : Client) (action : Action) : Outcome × Client :=
  let (outcome, c) : Outcome × Client :=
    match action with
    | .submit name command => c.submit name command
    | .receive name => c.receive name
    | .drop name => (.dropped, c.drop name)
    | .shutDown => c.shutDown State.settle
    | .dropHandle => (.dropped, c.withBackend c.backend.dropHandle)
    | .kill => (.killed, c.withBackend c.backend.kill)
    | .shutDownAndKill => c.shutDown State.kill
  (outcome, c.withBackend c.backend.settle)

def run (c : Client) : List Action → List (Outcome × Client)
  | [] => []
  | action :: actions =>
    let r := c.perform action
    r :: r.2.run actions

end Client

end ChatGateway.Backend
