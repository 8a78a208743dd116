import ChatGateway.Binding.Basic

namespace ChatGateway.Binding

abbrev SettingsMap := String → Option String

namespace SettingsMap

def require (settings : SettingsMap) (key : String) : Except BindingError String :=
  match settings key with
  | some value => .ok value
  | none => .error (.missingSetting key)

def sameIgnoringCase (s t : String) : Bool :=
  s.toList.map Char.toLower == t.toList.map Char.toLower

def usesDirectory (settings : SettingsMap) : Bool :=
  match settings "api_type" with
  | some kind => kind == Dialect.azureAD.name
  | none => (settings "ad_auth").any (sameIgnoringCase · "true")

end SettingsMap

def ofSettings (settings : SettingsMap) : Except BindingError Binding := do
  let deployment ← settings.require "deployment_name"
  let endpoint ← settings.require "endpoint"
  let apiKey ← settings.require "api_key"
  azure deployment endpoint apiKey (settings "api_version") settings.usesDirectory

end ChatGateway.Binding
