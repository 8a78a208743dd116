import ChatGateway.Json.ReadError
import ChatGateway.Message

namespace ChatGateway

inductive Refusal where
  | tooFewTokens (maxTokens : Int32)
  | tooFewResponses (numberOfResponses : UInt64)
  | noMessages
  | lastNotFromUser (role : Role)
deriving DecidableEq, Repr

def Refusal.reason : Refusal → String
  | .tooFewTokens n => s!"the max tokens must be greater than 0, but was {n.toInt}"
  | .tooFewResponses n => s!"the number of responses must be greater than 0, but was {n.toNat}"
  | .noMessages => "to complete a chat you need at least one message"
  | .lastNotFromUser role => s!"the last message must be from the user, but was from {role.name}"

inductive Obscurity where
  | document (e : Json.ReadError)
  | body (e : Json.ReadError)
  | bodyBrokeOff
  | choiceOutOfRange (index numberOfResponses : UInt64)
  | other (text : String)
deriving DecidableEq, Repr

def Obscurity.reason : Obscurity → String
  | .document e => e.message
  | .body e => s!"error decoding response body: {e.message}"
  | .bodyBrokeOff => "body broke off"
  | .choiceOutOfRange index n => s!"choice index {index.toNat} out of range for {n.toNat} responses"
  | .other text => text

inductive Interruption where
  /-- Bytes that begin no character; the first `width` of them could begin one. -/
  | badCharacter (width : Nat)
  | unfinishedCharacter
  | source (text : String)
  | bodyBrokeOff
  | other (text : String)
deriving DecidableEq, Repr

def Interruption.reason : Interruption → String
  | .badCharacter width => s!"UTF8 error: invalid utf-8 sequence of {width} bytes from index 0"
  | .unfinishedCharacter => "UTF8 error: incomplete utf-8 byte sequence from index 0"
  | .source text => s!"Transport error: {text}"
  | .bodyBrokeOff => "body broke off"
  | .other text => text

inductive Fault where
  | notBuilt
  | notSent
  | rejected (status : Nat) (body : String)
  | obscure (reason : Obscurity)
  | interrupted (reason : Interruption)
  | noEndpoint (deployment : String)
deriving DecidableEq, Repr

def Fault.message : Fault → String
  | .notBuilt | .notSent => "HTTP error"
  | .rejected status body => s!"API error ({status}): {body}"
  | .obscure reason => s!"Parse error: {reason.reason}"
  | .interrupted reason => s!"Stream error: {reason.reason}"
  | .noEndpoint deployment => s!"No endpoint for deployment {deployment}"

inductive Failure where
  | refused (reason : Refusal)
  | callFailed (fault : Fault)
  | streamFailed (fault : Fault)
  | disconnected
  | alreadyShutDown
deriving DecidableEq, Repr

def Failure.message : Failure → String
  | .refused reason => s!"Invalid request: {reason.reason}"
  | .callFailed _ => "OpenAI service failed to complete the chat"
  | .streamFailed _ => "OpenAI chat stream failed"
  | .disconnected => "Error: Backend disconnected"
  | .alreadyShutDown => "Error: Backend already shutdown"

end ChatGateway
