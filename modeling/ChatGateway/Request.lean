import ChatGateway.Binding.Basic
import ChatGateway.Failure
import ChatGateway.Settings

namespace ChatGateway

structure Connection where
  apiKey : String
  dialect : Dialect
  base : Option String
  apiVersion : Option String
  organization : Option String
deriving DecidableEq, Repr

structure RequestBody where
  messages : List Message
  temperature : Number.Binary
  topP : Number.Binary
  candidates : UInt64
  streamed : Bool
  stop : Option (List String)
  maxTokens : Int32
  presencePenalty : Number.Binary
  frequencyPenalty : Number.Binary
  tokenBiases : TokenBiases
deriving DecidableEq, Repr

structure ChatRequest where
  route : Route
  connection : Connection
  body : RequestBody
deriving DecidableEq, Repr

def Binding.connection (b : Binding) : Connection where
  apiKey := b.apiKey
  dialect := b.dialect
  base := b.endpoint
  apiVersion := b.apiVersion
  organization := b.organization

def checkCall (messages : List Message) (settings : ChatSettings) : Except Refusal Unit :=
  if settings.maxTokens < 1 then .error (.tooFewTokens settings.maxTokens)
  else if settings.numberOfResponses < 1 then .error (.tooFewResponses settings.numberOfResponses)
  else
    match messages.getLast? with
    | none => .error .noMessages
    | some last => if last.role = .user then .ok () else .error (.lastNotFromUser last.role)

namespace RequestBody

def make (messages : List Message) (settings : ChatSettings) (streamed : Bool)
    (stop : Option (List String)) : RequestBody where
  messages
  temperature := settings.temperature
  topP := settings.topP
  candidates := settings.numberOfResponses
  streamed
  stop
  maxTokens := settings.maxTokens
  presencePenalty := settings.presencePenalty
  frequencyPenalty := settings.frequencyPenalty
  tokenBiases := settings.tokenBiases

def members (b : RequestBody) (biases : List (UInt32 × Number.Binary)) : List (String × Json) :=
  [("messages", .ofList (b.messages.map Message.toJson)),
   ("temperature", .ofSingle b.temperature),
   ("top_p", .ofSingle b.topP),
   ("n", .ofNat b.candidates.toNat),
   ("stream", .bool b.streamed)] ++
  (b.stop.map fun stop => ("stop", .ofList (stop.map .ofText))).toList ++
  [("max_tokens", .ofInt b.maxTokens.toInt),
   ("presence_penalty", .ofSingle b.presencePenalty),
   ("frequency_penalty", .ofSingle b.frequencyPenalty),
   ("logit_bias", TokenBiases.listed biases)]

def toJson (b : RequestBody) : Json := .record (b.members b.tokenBiases.entries)

end RequestBody

namespace ChatRequest

def make? (b : Binding) (messages : List Message) (settings : ChatSettings) (streamed : Bool) :
    Except Refusal ChatRequest := do
  checkCall messages settings
  let stop := if settings.stopSequences.isEmpty then none else some settings.stopSequences
  return ⟨b.route, b.connection, .make messages settings streamed stop⟩

end ChatRequest

end ChatGateway
