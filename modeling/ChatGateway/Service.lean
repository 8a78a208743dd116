import ChatGateway.FrameStream

/-!
The completion service: a binding, a provider, and a record of what has passed between them. A call is refused or
becomes one request; a text call is the chat call with the prompt as its only message.
-/

namespace ChatGateway

structure Call where
  messages : List Message
  settings : ChatSettings
deriving DecidableEq, Repr

def Call.ofPrompt (prompt : String) (settings : TextSettings) : Call :=
  ⟨[⟨.user, prompt⟩], settings.toChat⟩

structure Service where
  binding : Binding
  provider : Provider
  reports : Bool := true
  requests : List ChatRequest := []
  usages : List Usage := []
  streams : List FrameStream := []

namespace Service

def send (s : Service) (call : Call) (streamed : Bool) : Except Refusal (Response × Service) := do
  let request ← ChatRequest.make? s.binding call.messages call.settings streamed
  return (s.provider s.requests.length request, { s with requests := s.requests ++ [request] })

def conclude (s : Service) (response : Response) : Option (Except Failure Completion × Service) :=
  response.reply?.map fun
    | .error fault => (.error (.callFailed fault), s)
    | .ok reply =>
      (.ok reply.completion,
        if s.reports then { s with usages := s.usages ++ reply.usage.toList } else s)

def open? (s : Service) (numberOfResponses : UInt64) (response : Response) :
    Except Failure (Nat × Service) :=
  match response.opened with
  | .error fault => .error (.callFailed fault)
  | .ok (items, stalls) =>
    .ok (s.streams.length, { s with streams := s.streams ++ [{ numberOfResponses, items, stalls }] })

def complete (s : Service) (call : Call) : Option (Except Failure Completion) × Service :=
  match s.send call false with
  | .error refusal => (some (.error (.refused refusal)), s)
  | .ok (response, s) =>
    match s.conclude response with
    | some (answer, s) => (some answer, s)
    | none => (none, s)

def completeText (s : Service) (prompt : String) (settings : TextSettings) :
    Option (Except Failure Completion) × Service :=
  s.complete (.ofPrompt prompt settings)

def stream (s : Service) (call : Call) : Except Failure Nat × Service :=
  match s.send call true with
  | .error refusal => (.error (.refused refusal), s)
  | .ok (response, s) =>
    match s.open? call.settings.numberOfResponses response with
    | .error failure => (.error failure, s)
    | .ok (i, s) => (.ok i, s)

def streamText (s : Service) (prompt : String) (settings : TextSettings) :
    Except Failure Nat × Service :=
  s.stream (.ofPrompt prompt settings)

def withStream (s : Service) (i : Nat) (f : FrameStream → FrameStream.Turn × FrameStream) :
    FrameStream.Turn × Service :=
  match s.streams[i]? with
  | some stream =>
    let (turn, stream) := f stream
    (turn, { s with streams := s.streams.set i stream })
  | none => (.ended, s)

def next (s : Service) (i : Nat) : FrameStream.Turn × Service := s.withStream i FrameStream.next

def advance (s : Service) (i : Nat) : FrameStream.Turn × Service := s.withStream i FrameStream.advance

def close (s : Service) (i : Nat) : Service :=
  { s with streams := s.streams.modify i .close }

end Service

end ChatGateway
