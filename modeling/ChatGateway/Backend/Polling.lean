import ChatGateway.Backend.Run

/-!
The loop of a backend, poll by poll. In a round the loop looks at its queues, in any order and among whatever else
happens. It takes what it finds in one of them, which is the end of the round. A queue that it finds shut it does not
look at again before the next round, and where it has found all of them shut it ends.
-/

namespace ChatGateway.Backend

inductive Queue where
  | commands (channel : Channel)
  | shutdown
deriving DecidableEq, Repr

namespace Queue

def all : List Queue := Channel.all.map .commands ++ [.shutdown]

def taking : Queue → Move
  | .commands channel => .take channel
  | .shutdown => .shutDown

end Queue

def Job.waitsOn (channel : Channel) (j : Job) : Bool := j.isQueued && j.command.channel == channel

namespace State

def isEmpty (s : State) : Queue → Bool
  | .commands channel => !s.jobs.any (Job.waitsOn channel)
  | .shutdown => s.shutdown != .asked

/-- Nothing can come any more, since the handle held the only sender, and nothing is left of what came before. -/
def isShut (s : State) (q : Queue) : Bool := !s.held && s.isEmpty q

def shutdownReply (s : State) : Option (Except Failure Unit) :=
  if s.shutdown = .confirmed then some (.ok ())
  else if s.running then none
  else some (.error .disconnected)

end State

def Event.isLoop : Event → Bool
  | .move (.take _) | .move .shutDown | .move .stop => true
  | _ => false

inductive Poll where
  | find (queue : Queue)
  | shut (queue : Queue)
  | fall
  | outside (e : Event) (free : e.isLoop = false)
deriving DecidableEq, Repr

def Poll.event? : Poll → Option Event
  | .find q => some (.move q.taking)
  | .shut _ => none
  | .fall => some (.move .stop)
  | .outside e _ => some e

def events (polls : List Poll) : List Event := polls.filterMap Poll.event?

structure Round where
  backend : State
  disabled : List Queue := []

namespace Round

def initial (service : Service) : Round := { backend := .initial service }

def poll (r : Round) : Poll → Option (List Delivery × Round)
  | .find q => if q ∈ r.disabled then none else (r.backend.step q.taking).map fun s => ([], { backend := s })
  | .shut q =>
    if r.backend.running ∧ r.backend.isShut q then some ([], { r with disabled := q :: r.disabled }) else none
  | .fall =>
    if r.backend.running ∧ ∀ q ∈ Queue.all, q ∈ r.disabled then
      some ([], { backend := { r.backend with running := false } })
    else none
  | .outside e _ => (r.backend.happen e).map fun (ds, s) => (ds, { r with backend := s })

def run (r : Round) : List Poll → Option (List Delivery × Round)
  | [] => some ([], r)
  | p :: ps => do
    let (ds, r) ← r.poll p
    let (ds', r) ← r.run ps
    return (ds ++ ds', r)

end Round

end ChatGateway.Backend
