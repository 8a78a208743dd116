import ChatGateway.Provider

namespace ChatGateway

open EventStream (Item)

def Frame.ofFragment (n : UInt64) (f : Fragment) : Except Fault Frame :=
  if n ≤ 1 then .ok (.text f.text)
  else if f.index < n then .ok (.slots ((List.replicate n.toNat "").set f.index.toNat f.text))
  else .error (.obscure (.choiceOutOfRange f.index n))

def Frame.ofItem? (n : UInt64) : Item → Option (Except Failure Frame)
  | .error fault => some (.error (.streamFailed fault))
  | .ok chunk => chunk.fragment?.map fun f => (Frame.ofFragment n f).mapError .streamFailed

namespace FrameStream

inductive Phase where
  | flowing
  | failed
  | closed
deriving DecidableEq, Repr

inductive Turn where
  | answer (a : Except Failure Frame)
  | skipped
  | ended
  | waiting

end FrameStream

structure FrameStream where
  numberOfResponses : UInt64
  items : List Item
  stalls : Bool
  pulled : Nat := 0
  phase : FrameStream.Phase := .flowing

namespace FrameStream

def released (s : FrameStream) : Bool := s.phase = .closed

def close (s : FrameStream) : FrameStream := { s with phase := .closed }

def take (s : FrameStream) (item : Item) (items : List Item) : Turn × FrameStream :=
  let s := { s with items, pulled := s.pulled + 1 }
  match Frame.ofItem? s.numberOfResponses item with
  | none => (.skipped, s)
  | some (.ok frame) => (.answer (.ok frame), s)
  | some (.error failure) => (.answer (.error failure), { s with phase := .failed })

def advance (s : FrameStream) : Turn × FrameStream :=
  match s.phase with
  | .closed => (.ended, s)
  | .failed => (.ended, s.close)
  | .flowing =>
    match s.items with
    | item :: items => s.take item items
    | [] => if s.stalls then (.waiting, s) else (.ended, s.close)

def skip (s : FrameStream) : FrameStream :=
  if s.phase = .flowing then
    let items := s.items.dropWhile fun item => (Frame.ofItem? s.numberOfResponses item).isNone
    { s with items, pulled := s.pulled + (s.items.length - items.length) }
  else s

def next (s : FrameStream) : Turn × FrameStream := s.skip.advance

end FrameStream

end ChatGateway
