import ChatGateway.Backend.Basic

namespace ChatGateway.Backend.State

def exhaust (choices : State → List Move) : Nat → State → State
  | 0, s => s
  | fuel + 1, s =>
    match (choices s).findSome? s.step with
    | some s => s.exhaust choices fuel
    | none => s

def loopMoves : List Move := Channel.all.map .take ++ [.shutDown, .stop]

def earlyMoves (s : State) : List Move :=
  loopMoves ++ (List.range s.jobs.length).map .begin

def lateMoves (s : State) : List Move :=
  (List.range s.jobs.length).flatMap fun i => [.giveUp i, .respond i, .send i, .pull i]

def itemsLeft (s : State) (j : Job) : Nat :=
  match j.stage with
  | .calling response =>
    match response.opened with
    | .ok (items, _) => items.length
    | .error _ => 0
  | .pulling k | .sending _ (some k) => ((s.service.streams[k]?).map (·.items.length)).getD 0
  | _ => 0

/-- A task makes two moves for an item, and some at its beginning and its end. -/
def lateBound (s : State) : Nat :=
  s.jobs.foldl (fun n j => n + 2 * s.itemsLeft j + 5) 0

def earlyBound (s : State) : Nat := 2 * s.jobs.length + 1

def settle (s : State) : State :=
  let s := s.exhaust earlyMoves s.earlyBound
  s.exhaust lateMoves s.lateBound

end ChatGateway.Backend.State
