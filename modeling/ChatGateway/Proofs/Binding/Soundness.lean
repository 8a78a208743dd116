import ChatGateway.Binding.Environment
import ChatGateway.Binding.SettingsMap
import ChatGateway.Http.Client
import ChatGateway.Proofs.Binding.Reading

namespace ChatGateway

theorem Service.map_binding {ε : Type} (network : Http.Network) (b : Except ε Binding) :
    (b.map (overNetwork network)).map (·.binding) = b := by
  cases b <;> rfl

namespace Binding

open Text (trim)
open Http (Network)

structure Bare (b : Binding) : Prop where
  modelId : trim b.modelId = b.modelId
  apiKey : trim b.apiKey = b.apiKey
  endpoint : ∀ e ∈ b.endpoint, trim e = e

structure Sound (b : Binding) : Prop extends Bare b where
  modelId_ne : b.modelId ≠ ""
  apiKey_ne : b.apiKey ≠ ""
  endpoint_of_isAzure : b.dialect.isAzure → b.endpoint.isSome
  secure : ∀ e ∈ b.endpoint, secureScheme.toList <+: e.toList

def flaws (b : Binding) : List BindingError :=
  (if b.modelId = "" then [.emptyModelId] else []) ++ (if b.apiKey = "" then [.emptyApiKey] else []) ++
    match b.endpoint with
    | some e => if secureScheme.toList <+: e.toList then [] else [.insecureEndpoint e]
    | none => if b.dialect.isAzure then [.noEndpoint] else []

theorem bare_trimmed (b : Binding) : b.trimmed.Bare where
  modelId := Text.trim_trim b.modelId
  apiKey := Text.trim_trim b.apiKey
  endpoint := by
    intro e he
    obtain ⟨given, -, rfl⟩ := Option.map_eq_some_iff.mp he
    exact Text.trim_trim given

theorem trimmed_trimmed (b : Binding) : b.trimmed.trimmed = b.trimmed := by
  simp [trimmed, Function.comp_def]

theorem flaws_eq_nil_iff {b : Binding} (h : b.Bare) : b.flaws = [] ↔ b.Sound := by
  obtain ⟨modelId, apiKey, dialect, organization, apiVersion, endpoint⟩ := b
  constructor
  · intro hflaws
    obtain ⟨⟨hmodel, hkey⟩, hendpoint⟩ := by simpa only [flaws, List.append_eq_nil_iff] using hflaws
    refine ⟨h, ?_, ?_, ?_, ?_⟩
    · intro heq
      simp [show modelId = "" from heq] at hmodel
    · intro heq
      simp [show apiKey = "" from heq] at hkey
    · intro hazure
      cases endpoint with
      | none => simp [show dialect.isAzure from hazure] at hendpoint
      | some e => rfl
    · rintro e rfl
      simpa using hendpoint
  · intro hsound
    have hmodel : modelId ≠ "" := hsound.modelId_ne
    have hkey : apiKey ≠ "" := hsound.apiKey_ne
    cases endpoint with
    | none =>
      have hpublic : ¬dialect.isAzure := fun hazure => by simpa using hsound.endpoint_of_isAzure hazure
      simp [flaws, hmodel, hkey, hpublic]
    | some e =>
      have hsecure : secureScheme.toList <+: e.toList := hsound.secure e rfl
      simp [flaws, hmodel, hkey, hsecure]

theorem check_eq {b : Binding} (h : b.Bare) :
    b.check = match b.flaws with | [] => .ok b | e :: _ => .error e := by
  obtain ⟨modelId, apiKey, dialect, organization, apiVersion, endpoint⟩ := b
  have hmodelId : trim modelId = modelId := h.modelId
  have hapiKey : trim apiKey = apiKey := h.apiKey
  simp only [check, hmodelId, hapiKey, flaws, String.isEmpty_iff, List.isPrefixOf_iff_prefix]
  by_cases hmodel : modelId = ""
  · simp [hmodel]
  · by_cases hkey : apiKey = ""
    · simp [hmodel, hkey]
    · simp only [hmodel, hkey, if_false, List.nil_append]
      cases endpoint with
      | none => cases dialect <;> rfl
      | some e => by_cases hsecure : secureScheme.toList <+: e.toList <;> simp [hsecure]

theorem trimmed_endpoint {b : Binding} (h : b.Bare) : b.trimmed.endpoint = b.endpoint := by
  cases hendpoint : b.endpoint with
  | none => simp [trimmed, hendpoint]
  | some e => simp [trimmed, hendpoint, h.endpoint e hendpoint]

theorem flaws_trimmed {b : Binding} (h : b.Bare) : b.trimmed.flaws = b.flaws := by
  have hmodel : b.trimmed.modelId = b.modelId := h.modelId
  have hkey : b.trimmed.apiKey = b.apiKey := h.apiKey
  have hdialect : b.trimmed.dialect = b.dialect := rfl
  simp only [flaws, hmodel, hkey, hdialect, trimmed_endpoint h]

inductive Origin where
  | openAI (modelId apiKey : String) (organization : Option String)
  | azure (deployment endpoint apiKey : String) (apiVersion : Option String) (directory : Bool)
  | settings (settings : SettingsMap)
  | openAIEnvironment (env : Environment)
  | azureEnvironment (env : Environment)
  | openAIService (network : Network) (modelId apiKey : String) (organization : Option String)
  | azureService (network : Network) (deployment endpoint apiKey : String) (apiVersion : Option String)
      (directory : Bool)
  | text (s : String)

def Origin.make : Origin → Except LoadError Binding
  | .openAI modelId apiKey organization => (Binding.openAI modelId apiKey organization).mapError .invalid
  | .azure deployment endpoint apiKey apiVersion directory =>
    (Binding.azure deployment endpoint apiKey apiVersion directory).mapError .invalid
  | .settings s => (ofSettings s).mapError .invalid
  | .openAIEnvironment env => (openAIFromEnvironment env).mapError .invalid
  | .azureEnvironment env => (azureFromEnvironment env).mapError .invalid
  | .openAIService network modelId apiKey organization =>
    ((Service.openAI network modelId apiKey organization).map (·.binding)).mapError .invalid
  | .azureService network deployment endpoint apiKey apiVersion directory =>
    ((Service.azure network deployment endpoint apiKey apiVersion directory).map (·.binding)).mapError .invalid
  | .text s => ofText s

def publicService (modelId apiKey : String) (organization : Option String) : Binding :=
  ⟨modelId, apiKey, .openAI, organization, none, none⟩

def deployed (deployment endpoint apiKey : String) (apiVersion : Option String) (directory : Bool) : Binding :=
  ⟨deployment, apiKey, if directory then .azureAD else .azure, none, some (apiVersion.getD defaultApiVersion),
    some endpoint⟩

inductive Origin.Supplies : Origin → Binding → Prop
  | openAI {modelId apiKey organization} :
    Supplies (.openAI modelId apiKey organization) (publicService modelId apiKey organization)
  | azure {deployment endpoint apiKey apiVersion directory} :
    Supplies (.azure deployment endpoint apiKey apiVersion directory)
      (deployed deployment endpoint apiKey apiVersion directory)
  | settings {s : SettingsMap} {deployment endpoint apiKey : String}
      (hdeployment : s "deployment_name" = some deployment) (hendpoint : s "endpoint" = some endpoint)
      (hkey : s "api_key" = some apiKey) :
    Supplies (.settings s) (deployed deployment endpoint apiKey (s "api_version") s.usesDirectory)
  | openAIEnvironment {env : Environment} {modelId apiKey : String}
      (hmodel : env.text? "OPENAI_CHAT_MODEL_ID" = some modelId) (hkey : env.text? "OPENAI_API_KEY" = some apiKey) :
    Supplies (.openAIEnvironment env) (publicService modelId apiKey (env.text? "OPENAI_ORG_ID"))
  | azureEnvironment {env : Environment} {deployment endpoint apiKey : String}
      (hdeployment : env.text? "AZURE_OPENAI_DEPLOYMENT_NAME" = some deployment)
      (hendpoint : env.text? "AZURE_OPENAI_ENDPOINT" = some endpoint)
      (hkey : env.text? "AZURE_OPENAI_API_KEY" = some apiKey) :
    Supplies (.azureEnvironment env)
      (deployed deployment endpoint apiKey (env.text? "AZURE_OPENAI_API_VERSION") false)
  | openAIService {network modelId apiKey organization} :
    Supplies (.openAIService network modelId apiKey organization) (publicService modelId apiKey organization)
  | azureService {network deployment endpoint apiKey apiVersion directory} :
    Supplies (.azureService network deployment endpoint apiKey apiVersion directory)
      (deployed deployment endpoint apiKey apiVersion directory)
  | text {s : String} {b : Binding} (h : Describes s b) : Supplies (.text s) b

inductive Checks (given : Binding) : Except BindingError Binding → Prop
  | check {b : Binding} (bare : b.Bare) (same : b.trimmed = given.trimmed) : Checks given b.check

theorem checks_openAI (modelId apiKey : String) (organization : Option String) :
    Checks (publicService modelId apiKey organization) (openAI modelId apiKey organization) := by
  apply Checks.check
  · constructor
    · exact Text.trim_trim modelId
    · exact Text.trim_trim apiKey
    · intro e he
      cases he
  · simp [trimmed, publicService]

theorem checks_azure (deployment endpoint apiKey : String) (apiVersion : Option String) (directory : Bool) :
    Checks (deployed deployment endpoint apiKey apiVersion directory)
      (azure deployment endpoint apiKey apiVersion directory) := by
  apply Checks.check
  · constructor
    · exact Text.trim_trim deployment
    · exact Text.trim_trim apiKey
    · rintro e ⟨⟩
      exact Text.trim_trim endpoint
  · simp [trimmed, deployed]

theorem checks_text {s : String} {given : Binding} (h : Describes s given) :
    ∃ made, Checks given made ∧ ofText s = made.mapError .invalid :=
  ⟨_, .check (bare_trimmed given) (trimmed_trimmed given), ofText_of_describes h⟩

theorem check_eq_ok {b c : Binding} (h : b.Bare) (hcheck : b.check = .ok c) : c = b ∧ b.Sound := by
  rw [check_eq h] at hcheck
  cases hflaws : b.flaws with
  | nil =>
    rw [hflaws] at hcheck
    cases hcheck
    exact ⟨rfl, (flaws_eq_nil_iff h).mp hflaws⟩
  | cons e es =>
    rw [hflaws] at hcheck
    cases hcheck

namespace Checks

variable {given : Binding} {made : Except BindingError Binding}

theorem sound {b : Binding} (h : Checks given made) (hmade : made = .ok b) : b.Sound := by
  cases h with
  | check bare same =>
    obtain ⟨rfl, hsound⟩ := check_eq_ok bare hmade
    exact hsound

theorem accepted (h : Checks given made) (hsound : given.trimmed.Sound) :
    ∃ b, made = .ok b ∧ b.trimmed = given.trimmed := by
  cases h with
  | @check b bare same =>
    have hflaws : b.flaws = [] := by
      rw [← flaws_trimmed bare, same]
      exact (flaws_eq_nil_iff (bare_trimmed given)).mpr hsound
    refine ⟨b, ?_, same⟩
    rw [check_eq bare, hflaws]

theorem rejected (h : Checks given made) (hsound : ¬given.trimmed.Sound) :
    ∃ e, given.trimmed.flaws.head? = some e ∧ made = .error e := by
  cases h with
  | @check b bare same =>
    have hflaws : b.flaws = given.trimmed.flaws := by rw [← flaws_trimmed bare, same]
    cases hgiven : given.trimmed.flaws with
    | nil => exact absurd ((flaws_eq_nil_iff (bare_trimmed given)).mp hgiven) hsound
    | cons e es =>
      refine ⟨e, rfl, ?_⟩
      rw [check_eq bare, hflaws, hgiven]

end Checks

theorem SettingsMap.require_eq_ok_iff {s : SettingsMap} {key value : String} :
    s.require key = .ok value ↔ s key = some value := by
  rw [require]
  cases s key with
  | none => simp
  | some found => simp

theorem Environment.require_eq_ok_iff {env : Environment} {name value : String} :
    env.require name = .ok value ↔ env.text? name = some value := by
  rw [require]
  cases env.text? name with
  | none => simp
  | some found => simp

namespace Origin

theorem make_of_supplies {origin : Origin} {given : Binding} (h : origin.Supplies given) :
    ∃ made, Checks given made ∧ origin.make = made.mapError .invalid := by
  cases h with
  | openAI => exact ⟨_, checks_openAI _ _ _, rfl⟩
  | azure => exact ⟨_, checks_azure _ _ _ _ _, rfl⟩
  | settings hdeployment hendpoint hkey =>
    refine ⟨_, checks_azure _ _ _ _ _, ?_⟩
    simp only [make, ofSettings, SettingsMap.require_eq_ok_iff.mpr hdeployment,
      SettingsMap.require_eq_ok_iff.mpr hendpoint, SettingsMap.require_eq_ok_iff.mpr hkey, ok_bind]
  | openAIEnvironment hmodel hkey =>
    refine ⟨_, checks_openAI _ _ _, ?_⟩
    simp only [make, openAIFromEnvironment, Environment.require_eq_ok_iff.mpr hmodel,
      Environment.require_eq_ok_iff.mpr hkey, ok_bind]
  | azureEnvironment hdeployment hendpoint hkey =>
    refine ⟨_, checks_azure _ _ _ _ _, ?_⟩
    simp only [make, azureFromEnvironment, Environment.require_eq_ok_iff.mpr hdeployment,
      Environment.require_eq_ok_iff.mpr hendpoint, Environment.require_eq_ok_iff.mpr hkey, ok_bind]
  | @openAIService network modelId apiKey organization =>
    refine ⟨_, checks_openAI modelId apiKey organization, ?_⟩
    rw [make, Service.openAI, Service.map_binding]
  | @azureService network deployment endpoint apiKey apiVersion directory =>
    refine ⟨_, checks_azure deployment endpoint apiKey apiVersion directory, ?_⟩
    rw [make, Service.azure, Service.map_binding]
  | text h => exact checks_text h

theorem exists_supplies {origin : Origin} {b : Binding} (h : origin.make = .ok b) :
    ∃ given, origin.Supplies given := by
  cases origin with
  | openAI => exact ⟨_, .openAI⟩
  | azure => exact ⟨_, .azure⟩
  | settings s =>
    obtain ⟨deployment, hdeployment, h⟩ := bind_eq_ok (mapError_eq_ok h)
    obtain ⟨endpoint, hendpoint, h⟩ := bind_eq_ok h
    obtain ⟨apiKey, hkey, -⟩ := bind_eq_ok h
    exact ⟨_, .settings (SettingsMap.require_eq_ok_iff.mp hdeployment) (SettingsMap.require_eq_ok_iff.mp hendpoint)
      (SettingsMap.require_eq_ok_iff.mp hkey)⟩
  | openAIEnvironment env =>
    obtain ⟨apiKey, hkey, h⟩ := bind_eq_ok (mapError_eq_ok h)
    obtain ⟨modelId, hmodel, -⟩ := bind_eq_ok h
    exact ⟨_, .openAIEnvironment (Environment.require_eq_ok_iff.mp hmodel) (Environment.require_eq_ok_iff.mp hkey)⟩
  | azureEnvironment env =>
    obtain ⟨deployment, hdeployment, h⟩ := bind_eq_ok (mapError_eq_ok h)
    obtain ⟨endpoint, hendpoint, h⟩ := bind_eq_ok h
    obtain ⟨apiKey, hkey, -⟩ := bind_eq_ok h
    exact ⟨_, .azureEnvironment (Environment.require_eq_ok_iff.mp hdeployment)
      (Environment.require_eq_ok_iff.mp hendpoint) (Environment.require_eq_ok_iff.mp hkey)⟩
  | openAIService => exact ⟨_, .openAIService⟩
  | azureService => exact ⟨_, .azureService⟩
  | text s =>
    obtain ⟨given, hgiven⟩ := exists_describes h
    exact ⟨given, .text hgiven⟩

theorem sound_of_make {origin : Origin} {b : Binding} (h : origin.make = .ok b) : b.Sound := by
  obtain ⟨given, hgiven⟩ := exists_supplies h
  obtain ⟨made, hmade, hmake⟩ := make_of_supplies hgiven
  rw [hmake] at h
  exact hmade.sound (mapError_eq_ok h)

/-- Every binding is sound, and where all is given that a way needs, a binding is made exactly if what is given is
sound once it is trimmed; else the first flaw is the error. -/
theorem make_sound_or_flawed (origin : Origin) :
    (∀ b, origin.make = .ok b → b.Sound) ∧
      ∀ given, origin.Supplies given →
        (given.trimmed.Sound → ∃ b, origin.make = .ok b ∧ b.trimmed = given.trimmed) ∧
          (¬given.trimmed.Sound → ∃ e, given.trimmed.flaws.head? = some e ∧ origin.make = .error (.invalid e)) := by
  refine ⟨fun b => sound_of_make, fun given hgiven => ?_⟩
  obtain ⟨made, hmade, hmake⟩ := make_of_supplies hgiven
  constructor
  · intro hsound
    obtain ⟨b, rfl, hb⟩ := hmade.accepted hsound
    exact ⟨b, hmake, hb⟩
  · intro hsound
    obtain ⟨e, he, rfl⟩ := hmade.rejected hsound
    exact ⟨e, he, hmake⟩

theorem padded_text_accepted :
    ∃ b, (text (deployed " dep\n" " https://me.example " "\tkey" none true).toJson.render).make = .ok b ∧
      b.trimmed = deployed "dep" "https://me.example" "key" none true := by
  have htrimmed : (deployed " dep\n" " https://me.example " "\tkey" none true).trimmed =
      deployed "dep" "https://me.example" "key" none true := by decide +kernel
  have hsound : (deployed " dep\n" " https://me.example " "\tkey" none true).trimmed.Sound :=
    (flaws_eq_nil_iff (bare_trimmed _)).mp (by decide +kernel)
  rw [← htrimmed]
  exact ((make_sound_or_flawed (text _)).2 _ (.text (describes_render _))).1 hsound

end Origin

end Binding

end ChatGateway
