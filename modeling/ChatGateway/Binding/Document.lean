import ChatGateway.Binding.Basic
import ChatGateway.Json.Document
import ChatGateway.Json.Record

namespace ChatGateway

open Json (Reader Record ReadError)

def Dialect.reader : Reader Dialect :=
  .variant ([Dialect.openAI, .azure, .azureAD].map fun d => (d.name, d))

def Dialect.toJson (d : Dialect) : Json := .ofText d.name

namespace Binding

inductive LoadError where
  | unreadable (e : ReadError)
  | invalid (e : BindingError)
deriving DecidableEq, Repr

def LoadError.message : LoadError → String
  | .unreadable e => e.message
  | .invalid e => e.message

def written : Reader Binding :=
  (Binding.mk
    <$> Record.field "model_id" Reader.text
    <*> Record.field "api_key" Reader.text
    <*> Record.field "api_type" Dialect.reader
    <*> Record.field? "org_id" Reader.text
    <*> Record.field? "api_version" Reader.text
    <*> Record.field? "endpoint" Reader.text).read "RawProviderConfig"

def trimmed (b : Binding) : Binding where
  modelId := Text.trim b.modelId
  apiKey := Text.trim b.apiKey
  dialect := b.dialect
  organization := b.organization.map Text.trim
  apiVersion := b.apiVersion.map Text.trim
  endpoint := b.endpoint.map Text.trim

def reader (v : Json) : Except LoadError Binding := do
  let b ← (written v).mapError .unreadable
  b.trimmed.check.mapError .invalid

def ofText (s : String) : Except LoadError Binding :=
  (Json.Document.parse s).read .unreadable reader

def toJson (b : Binding) : Json :=
  .record
    [("model_id", .ofText b.modelId),
     ("api_key", .ofText b.apiKey),
     ("api_type", b.dialect.toJson),
     ("org_id", .ofOption .ofText b.organization),
     ("api_version", .ofOption .ofText b.apiVersion),
     ("endpoint", .ofOption .ofText b.endpoint)]

end Binding

end ChatGateway
