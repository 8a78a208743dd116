import ChatGateway.Backend.Basic

namespace ChatGateway.Backend

inductive Event where
  | move (m : Move)
  | submit (command : Command)
  | receive (job : Nat)
  | detach (job : Nat)
  | askShutdown
  | dropHandle
deriving DecidableEq, Repr

structure Delivery where
  job : Nat
  answer : Answer
deriving DecidableEq, Repr

namespace State

def initial (service : Service) : State := { service }

def happen (s : State) : Event → Option (List Delivery × State)
  | .move m => (s.step m).map ([], ·)
  | .submit command => if s.held then (s.submit command).toOption.map ([], ·) else none
  | .receive i => (s.receive i).map fun (a, s) => ([⟨i, a⟩], s)
  | .detach i => some ([], s.detach i)
  | .askShutdown => if s.held then s.askShutdown.toOption.map ([], ·) else none
  | .dropHandle => some ([], s.dropHandle)

def history (s : State) : List Event → Option (List Delivery × State)
  | [] => some ([], s)
  | e :: es => do
    let (ds, s) ← s.happen e
    let (ds', s) ← s.history es
    return (ds ++ ds', s)

end State

end ChatGateway.Backend
