import ChatGateway.Json.Reader

namespace ChatGateway

open Json (Reader)

inductive Completion where
  | single (text : String)
  | multiple (texts : List String)
deriving DecidableEq, Repr

/-- A piece of a streamed completion. With several candidates there is a slot for each, and only the slot of the
candidate that goes on is not empty. -/
inductive Frame where
  | text (text : String)
  | slots (texts : List String)
deriving DecidableEq, Repr

def Completion.reader : Reader Completion := .oneOrMany "CompletionResult" .single .multiple

def Completion.toJson : Completion → Json
  | .single s => .ofText s
  | .multiple ss => .ofList (ss.map .ofText)

def Frame.reader : Reader Frame := .oneOrMany "StreamFrame" .text .slots

def Frame.toJson : Frame → Json
  | .text s => .ofText s
  | .slots ss => .ofList (ss.map .ofText)

end ChatGateway
