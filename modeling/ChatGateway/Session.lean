import ChatGateway.Service

namespace ChatGateway

structure Session where
  service : Service
  kept : List (String × Nat) := []

namespace Session

inductive Step where
  | completeChat (call : Call)
  | completeText (prompt : String) (settings : TextSettings)
  | streamChat (name : String) (call : Call)
  | streamText (name prompt : String) (settings : TextSettings)
  | next (name : String)
  | drain (name : String)
  | drop (name : String)
deriving DecidableEq, Repr

inductive Answer where
  | frame (f : Frame)
  | failure (e : Failure)
  | ended
  | pending
  | unknown
deriving DecidableEq, Repr

inductive Outcome where
  | completed (c : Completion)
  | failed (e : Failure)
  | silent
  | opened
  | asked (a : Answer)
  | drained (as : List Answer)
  | dropped
deriving DecidableEq, Repr

def Answer.ofTurn : FrameStream.Turn → Answer
  | .answer (.ok f) => .frame f
  | .answer (.error e) => .failure e
  | .ended => .ended
  | .skipped | .waiting => .pending

def Outcome.ofAnswer : Option (Except Failure Completion) → Outcome
  | some (.ok completion) => .completed completion
  | some (.error failure) => .failed failure
  | none => .silent

def drop (s : Session) (name : String) : Session :=
  match s.kept.lookup name with
  | some i => { service := s.service.close i, kept := s.kept.filter (·.1 != name) }
  | none => s

def keep (s : Session) (name : String) : Except Failure Nat × Service → Outcome × Session
  | (.error failure, service) => (.failed failure, { s with service })
  | (.ok i, service) =>
    let s := { s with service }.drop name
    (.opened, { s with kept := (name, i) :: s.kept })

def ask (s : Session) (name : String) : Answer × Session :=
  match s.kept.lookup name with
  | some i =>
    let (turn, service) := s.service.next i
    (.ofTurn turn, { s with service })
  | none => (.unknown, s)

def drain (s : Session) (name : String) : Nat → List Answer × Session
  | 0 => ([], s)
  | fuel + 1 =>
    match s.ask name with
    | (.frame f, s) =>
      let (as, s) := s.drain name fuel
      (.frame f :: as, s)
    | (.failure e, s) =>
      let (as, s) := s.drain name fuel
      (.failure e :: as, s)
    | (a, s) => ([a], s)

def drainBound (s : Session) (name : String) : Nat :=
  match (s.kept.lookup name).bind (s.service.streams[·]?) with
  | some stream => stream.items.length + 1
  | none => 1

def step (s : Session) : Step → Outcome × Session
  | .completeChat call =>
    let (answer, service) := s.service.complete call
    (.ofAnswer answer, { s with service })
  | .completeText prompt settings =>
    let (answer, service) := s.service.completeText prompt settings
    (.ofAnswer answer, { s with service })
  | .streamChat name call => s.keep name (s.service.stream call)
  | .streamText name prompt settings => s.keep name (s.service.streamText prompt settings)
  | .next name =>
    let (answer, s) := s.ask name
    (.asked answer, s)
  | .drain name =>
    let (answers, s) := s.drain name (s.drainBound name)
    (.drained answers, s)
  | .drop name => (.dropped, s.drop name)

def run (s : Session) : List Step → List (Outcome × Session)
  | [] => []
  | step :: steps =>
    let r := s.step step
    r :: r.2.run steps

end Session

end ChatGateway
