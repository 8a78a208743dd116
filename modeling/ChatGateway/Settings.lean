import ChatGateway.Json.Record
import ChatGateway.TokenBiases

namespace ChatGateway

open Number
open Json (Reader Record)

structure ChatSettings where
  temperature : Binary := single.ofInt 0
  topP : Binary := single.ofInt 1
  presencePenalty : Binary := single.ofInt 0
  frequencyPenalty : Binary := single.ofInt 0
  maxTokens : Int32 := 256
  numberOfResponses : UInt64 := 1
  tokenBiases : TokenBiases := .empty
  stopSequences : List String := []
deriving DecidableEq, Repr

structure TextSettings where
  temperature : Binary := single.ofInt 0
  topP : Binary := single.ofInt 1
  presencePenalty : Binary := single.ofInt 0
  frequencyPenalty : Binary := single.ofInt 0
  maxTokens : Int32 := 256
  numberOfResponses : UInt64 := 1
  tokenBiases : TokenBiases := .empty
  stopSequences : List String := []
deriving DecidableEq, Repr

namespace ChatSettings

def default : ChatSettings := {}

def record : Record ChatSettings :=
  ChatSettings.mk
    <$> Record.fieldD "temperature" Reader.single default.temperature
    <*> Record.fieldD "top_p" Reader.single default.topP
    <*> Record.fieldD "presence_penalty" Reader.single default.presencePenalty
    <*> Record.fieldD "frequency_penalty" Reader.single default.frequencyPenalty
    <*> Record.fieldD "max_tokens" Reader.int32 default.maxTokens
    <*> Record.fieldD "number_of_responses" (Reader.uint64 "usize") default.numberOfResponses
    <*> Record.fieldD "token_selection_biases" TokenBiases.reader default.tokenBiases
    <*> Record.fieldD "stop_sequences" (Reader.list Reader.text) default.stopSequences

def reader : Reader ChatSettings := record.read "ChatRequestSettings"

def toJson (s : ChatSettings) : Json :=
  .record
    [("temperature", .ofSingle s.temperature),
     ("top_p", .ofSingle s.topP),
     ("presence_penalty", .ofSingle s.presencePenalty),
     ("frequency_penalty", .ofSingle s.frequencyPenalty),
     ("max_tokens", .ofInt s.maxTokens.toInt),
     ("number_of_responses", .ofNat s.numberOfResponses.toNat),
     ("token_selection_biases", s.tokenBiases.toJson),
     ("stop_sequences", .ofList (s.stopSequences.map .ofText))]

end ChatSettings

namespace TextSettings

def default : TextSettings := {}

def record : Record TextSettings :=
  TextSettings.mk
    <$> Record.fieldD "temperature" Reader.single default.temperature
    <*> Record.fieldD "top_p" Reader.single default.topP
    <*> Record.fieldD "presence_penalty" Reader.single default.presencePenalty
    <*> Record.fieldD "frequency_penalty" Reader.single default.frequencyPenalty
    <*> Record.fieldD "max_tokens" Reader.int32 default.maxTokens
    <*> Record.fieldD "number_of_responses" (Reader.uint64 "usize") default.numberOfResponses
    <*> Record.fieldD "token_selection_biases" TokenBiases.reader default.tokenBiases
    <*> Record.fieldD "stop_sequences" (Reader.list Reader.text) default.stopSequences

def reader : Reader TextSettings := record.read "TextRequestSettings"

def toJson (s : TextSettings) : Json :=
  .record
    [("temperature", .ofSingle s.temperature),
     ("top_p", .ofSingle s.topP),
     ("presence_penalty", .ofSingle s.presencePenalty),
     ("frequency_penalty", .ofSingle s.frequencyPenalty),
     ("max_tokens", .ofInt s.maxTokens.toInt),
     ("number_of_responses", .ofNat s.numberOfResponses.toNat),
     ("token_selection_biases", s.tokenBiases.toJson),
     ("stop_sequences", .ofList (s.stopSequences.map .ofText))]

def toChat (s : TextSettings) : ChatSettings where
  temperature := s.temperature
  topP := s.topP
  presencePenalty := s.presencePenalty
  frequencyPenalty := s.frequencyPenalty
  maxTokens := s.maxTokens
  numberOfResponses := s.numberOfResponses
  tokenBiases := s.tokenBiases
  stopSequences := s.stopSequences

end TextSettings

end ChatGateway
