import ChatGateway.Json.Record

namespace ChatGateway

open Json (Reader Record)

structure Usage where
  promptTokens : UInt64
  completionTokens : UInt64
  totalTokens : UInt64
deriving DecidableEq, Repr

namespace Usage

def reader : Reader Usage :=
  (Usage.mk
    <$> Record.fieldD "prompt_tokens" (Reader.uint64 "u64") 0
    <*> Record.fieldD "completion_tokens" (Reader.uint64 "u64") 0
    <*> Record.fieldD "total_tokens" (Reader.uint64 "u64") 0).read "Usage"

def toJson (u : Usage) : Json :=
  .record
    [("prompt_tokens", .ofNat u.promptTokens.toNat),
     ("completion_tokens", .ofNat u.completionTokens.toNat),
     ("total_tokens", .ofNat u.totalTokens.toNat)]

def logLine (u : Usage) : String :=
  s!"DEBUG Token usage: prompt={u.promptTokens} completion={u.completionTokens} total={u.totalTokens}"

end Usage

end ChatGateway
