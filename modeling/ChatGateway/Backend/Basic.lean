import ChatGateway.Service

/-!
The backend: a loop that takes commands from four channels and hands each to a task of its own. `State.step` gives
the moves of the loop and of the tasks, each of them possible on its own; any sequence of moves is a run.
-/

namespace ChatGateway.Backend

inductive Channel where
  | completeChat
  | completeText
  | streamChat
  | streamText
deriving DecidableEq, Repr

def Channel.all : List Channel := [.completeChat, .completeText, .streamChat, .streamText]

def Channel.streamed : Channel → Bool
  | .completeChat | .completeText => false
  | .streamChat | .streamText => true

structure Command where
  channel : Channel
  call : Call
deriving DecidableEq, Repr

def Command.completeChat (call : Call) : Command := ⟨.completeChat, call⟩

def Command.completeText (prompt : String) (settings : TextSettings) : Command :=
  ⟨.completeText, .ofPrompt prompt settings⟩

def Command.streamChat (call : Call) : Command := ⟨.streamChat, call⟩

def Command.streamText (prompt : String) (settings : TextSettings) : Command :=
  ⟨.streamText, .ofPrompt prompt settings⟩

inductive Answer where
  | completion (c : Completion)
  | frame (f : Frame)
  | failure (e : Failure)
deriving DecidableEq, Repr

def Answer.ofCompletion : Except Failure Completion → Answer
  | .ok c => .completion c
  | .error e => .failure e

def Answer.ofFrame : Except Failure Frame → Answer
  | .ok f => .frame f
  | .error e => .failure e

inductive Stage where
  | queued
  | taken
  | calling (response : Response)
  | pulling (stream : Nat)
  | sending (answer : Answer) (stream : Option Nat)
  | finished
  | lost

structure Job where
  command : Command
  stage : Stage := .queued
  sent : List Answer := []
  attached : Bool := true

def capacity : Nat := 1

namespace Job

def isQueued (j : Job) : Bool :=
  match j.stage with
  | .queued => true
  | _ => false

def isDone (j : Job) : Bool :=
  match j.stage with
  | .finished | .lost => true
  | _ => false

def hasRoom (j : Job) : Bool := j.attached && j.sent.length < capacity

def reply (j : Job) (a : Answer) : Job :=
  if j.attached then { j with sent := j.sent ++ [a] } else j

def moved (j : Job) (stage : Stage) : Job := { j with stage }

def lose (j : Job) : Job := if j.isDone then j else j.moved .lost

end Job

inductive Shutdown where
  | unasked
  | asked
  | confirmed
deriving DecidableEq, Repr

structure State where
  service : Service
  running : Bool := true
  jobs : List Job := []
  shutdown : Shutdown := .unasked
  /-- The backend's handle has not been used up or dropped. -/
  held : Bool := true

inductive Move where
  | take (channel : Channel)
  /-- The loop takes the shutdown command and ends; what is still queued is lost. -/
  | shutDown
  /-- The loop ends since no command can come any more. -/
  | stop
  | begin (job : Nat)
  | respond (job : Nat)
  | pull (job : Nat)
  | send (job : Nat)
  | giveUp (job : Nat)
deriving DecidableEq, Repr

namespace State

def setJob (s : State) (i : Nat) (j : Job) : State :=
  { s with jobs := s.jobs.set i j }

def withService (s : State) (service : Service) : State := { s with service }

def closeStream (s : State) (stream : Option Nat) : State :=
  match stream with
  | some k => s.withService (s.service.close k)
  | none => s

def begin (s : State) (i : Nat) (j : Job) : Option State :=
  match j.stage with
  | .taken =>
    let streamed := j.command.channel.streamed
    match s.service.send j.command.call streamed with
    | .ok (response, service) => some ((s.withService service).setJob i (j.moved (.calling response)))
    | .error refusal =>
      let a := Answer.failure (.refused refusal)
      some (s.setJob i (if streamed then j.moved (.sending a none) else (j.reply a).moved .finished))
  | _ => none

def respond (s : State) (i : Nat) (j : Job) : Option State :=
  match j.stage with
  | .calling response =>
    if j.command.channel.streamed then
      match s.service.open? j.command.call.settings.numberOfResponses response with
      | .ok (k, service) => some ((s.withService service).setJob i (j.moved (.pulling k)))
      | .error e => some (s.setJob i (j.moved (.sending (.failure e) none)))
    else
      (s.service.conclude response).map fun (r, service) =>
        (s.withService service).setJob i ((j.reply (.ofCompletion r)).moved .finished)
  | _ => none

def pull (s : State) (i : Nat) (j : Job) : Option State :=
  match j.stage with
  | .pulling k =>
    let (turn, service) := s.service.advance k
    let s := s.withService service
    match turn with
    | .answer a => some (s.setJob i (j.moved (.sending (.ofFrame a) (some k))))
    | .skipped => some s
    | .ended => some (s.setJob i (j.moved .finished))
    | .waiting => none
  | _ => none

def send (s : State) (i : Nat) (j : Job) : Option State :=
  match j.stage with
  | .sending a stream =>
    if j.hasRoom then
      some (s.setJob i ((j.reply a).moved (stream.elim .finished .pulling)))
    else none
  | _ => none

def giveUp (s : State) (i : Nat) (j : Job) : Option State :=
  if j.attached then none
  else
    match j.stage with
    | .pulling k => some ((s.closeStream (some k)).setJob i (j.moved .finished))
    | .sending _ stream => some ((s.closeStream stream).setJob i (j.moved .finished))
    | _ => none

def step (s : State) : Move → Option State
  | .take channel =>
    if s.running then
      (s.jobs.findIdx? fun j => j.isQueued && j.command.channel == channel).bind fun i =>
        s.jobs[i]?.map fun j => s.setJob i (j.moved .taken)
    else none
  | .shutDown =>
    if s.running ∧ s.shutdown = .asked then
      some { s with
        running := false
        shutdown := .confirmed
        jobs := s.jobs.map fun j => if j.isQueued then j.moved .lost else j }
    else none
  | .stop =>
    if s.running ∧ ¬s.held ∧ s.shutdown ≠ .asked ∧ ¬s.jobs.any Job.isQueued then
      some { s with running := false }
    else none
  | .begin i => s.jobs[i]?.bind (s.begin i)
  | .respond i => s.jobs[i]?.bind (s.respond i)
  | .pull i => s.jobs[i]?.bind (s.pull i)
  | .send i => s.jobs[i]?.bind (s.send i)
  | .giveUp i => s.jobs[i]?.bind (s.giveUp i)

def run (s : State) (moves : List Move) : Option State := moves.foldlM step s

/-! ### What the owner of the handle and the receivers of answers do -/

def submit (s : State) (command : Command) : Except Failure State :=
  if s.running then .ok { s with jobs := s.jobs ++ [{ command }] } else .error .disconnected

def receive (s : State) (i : Nat) : Option (Answer × State) :=
  match s.jobs[i]? with
  | some j =>
    match j.sent with
    | a :: sent => some (a, s.setJob i { j with sent })
    | [] => none
  | none => none

def detach (s : State) (i : Nat) : State :=
  { s with jobs := s.jobs.modify i fun j => { j with sent := [], attached := false } }

def askShutdown (s : State) : Except Failure State :=
  if s.running then .ok { s with held := false, shutdown := .asked } else .error .alreadyShutDown

def dropHandle (s : State) : State := { s with held := false }

def kill (s : State) : State :=
  { s with
    running := false
    jobs := s.jobs.map Job.lose
    service := { s.service with streams := s.service.streams.map FrameStream.close } }

end State

end ChatGateway.Backend
