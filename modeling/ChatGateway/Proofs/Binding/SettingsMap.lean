import ChatGateway.Proofs.Binding.Soundness
import Mathlib

namespace ChatGateway

namespace Text

theorem toLower_eq_iff {letter : Char} (h : letter.isLower) (c : Char) :
    c.toLower = letter ↔ c = letter ∨ c = letter.toUpper := by
  constructor
  · rintro rfl
    by_cases hc : c.isUpper
    · right
      rw [Char.toUpper_toLower_eq_toUpper, Char.toUpper_eq_of_not_isLower (Char.not_isLower_of_isUpper hc)]
    · left
      exact (Char.toLower_eq_of_not_isUpper hc).symm
  · have hletter : letter.toLower = letter := Char.toLower_eq_of_not_isUpper (Char.not_isUpper_of_isLower h)
    rintro (rfl | rfl)
    · exact hletter
    · rw [Char.toLower_toUpper_eq_toLower, hletter]

theorem map_toLower_eq_iff {letters : List Char} (h : ∀ letter ∈ letters, letter.isLower) (s : List Char) :
    s.map Char.toLower = letters ↔ List.Forall₂ (fun c letter => c = letter ∨ c = letter.toUpper) s letters := by
  induction letters generalizing s with
  | nil => simp
  | cons letter letters ih =>
    cases s with
    | nil => simp
    | cons c s =>
      rw [List.forall_mem_cons] at h
      rw [List.map_cons, List.cons.injEq, List.forall₂_cons, toLower_eq_iff h.1, ih h.2]

end Text

namespace Binding

theorem Checks.trimmed_eq {given b : Binding} {made : Except BindingError Binding} (h : Checks given made)
    (hmade : made = .ok b) : b.trimmed = given.trimmed := by
  cases h with
  | check bare same =>
    obtain ⟨rfl, -⟩ := check_eq_ok bare hmade
    exact same

namespace SettingsMap

variable {s : SettingsMap}

def keys : List String := ["deployment_name", "endpoint", "api_key", "api_version", "ad_auth", "api_type"]

def required : List String := ["deployment_name", "endpoint", "api_key"]

def Affirms (value : String) : Prop :=
  List.Forall₂ (fun c letter => c = letter ∨ c = letter.toUpper) value.toList "true".toList

def translated (s : SettingsMap) (kind : String) : SettingsMap :=
  Function.update (Function.update s "api_type" none) "ad_auth" (some (if kind = "azure_ad" then "true" else "false"))

inductive Yields (s : SettingsMap) : Except BindingError Binding → Prop
  | missing {key : String} (first : required.find? (fun key => (s key).isNone) = some key) :
    Yields s (.error (.missingSetting key))
  | complete {deployment endpoint apiKey : String} {directory : Bool}
      (deployment_eq : s "deployment_name" = some deployment) (endpoint_eq : s "endpoint" = some endpoint)
      (apiKey_eq : s "api_key" = some apiKey)
      (directory_iff : directory = true ↔ ∃ value, s "ad_auth" = some value ∧ Affirms value) :
    Yields s (azure deployment endpoint apiKey (s "api_version") directory)

theorem sameIgnoringCase_true_iff (value : String) : sameIgnoringCase value "true" = true ↔ Affirms value := by
  have hletters : "true".toList.map Char.toLower = "true".toList := by decide
  rw [sameIgnoringCase, beq_iff_eq, hletters]
  exact Text.map_toLower_eq_iff (by simp) value.toList

theorem usesDirectory_of_kind {kind : String} (h : s "api_type" = some kind) :
    s.usesDirectory = decide (kind = "azure_ad") := by
  rw [usesDirectory, h]
  rfl

theorem usesDirectory_iff (h : s "api_type" = none) :
    s.usesDirectory = true ↔ ∃ value, s "ad_auth" = some value ∧ Affirms value := by
  rw [usesDirectory, h]
  simp only [Option.any_eq_true_iff_get, ← sameIgnoringCase_true_iff]
  cases s "ad_auth" <;> simp

theorem require_of_none {key : String} (h : s key = none) : s.require key = .error (.missingSetting key) := by
  rw [require, h]

theorem ofSettings_congr {s' : SettingsMap} (hrequired : ∀ key ∈ required, s' key = s key)
    (hversion : s' "api_version" = s "api_version") (hdirectory : s'.usesDirectory = s.usesDirectory) :
    ofSettings s' = ofSettings s := by
  have hrequire : ∀ key ∈ required, s'.require key = s.require key := by
    intro key hkey
    rw [require, require, hrequired key hkey]
  rw [ofSettings, ofSettings, hrequire "deployment_name" (by simp [required]), hrequire "endpoint" (by simp [required]),
    hrequire "api_key" (by simp [required]), hversion, hdirectory]

theorem ofSettings_of_keys {s' : SettingsMap} (h : ∀ key ∈ keys, s' key = s key) : ofSettings s' = ofSettings s := by
  have hrequired : required ⊆ keys := by decide
  apply ofSettings_congr
  · intro key hkey
    exact h key (hrequired hkey)
  · exact h "api_version" (by simp [keys])
  · rw [usesDirectory, usesDirectory, h "api_type" (by simp [keys]), h "ad_auth" (by simp [keys])]

theorem ofSettings_translated {kind : String} (h : s "api_type" = some kind) :
    ofSettings (s.translated kind) = ofSettings s := by
  apply ofSettings_congr
  · simp [required, translated]
  · simp [translated]
  · have hkind : s.translated kind "api_type" = none := by simp [translated]
    have hdirectory : s.translated kind "ad_auth" = some (if kind = "azure_ad" then "true" else "false") := by
      simp [translated]
    rw [usesDirectory_of_kind h, usesDirectory, hkind, hdirectory]
    by_cases hname : kind = "azure_ad"
    · simp only [hname, if_true]
      decide
    · simp only [hname, if_false]
      decide

theorem yields_ofSettings (h : s "api_type" = none) : s.Yields (ofSettings s) := by
  cases hdeployment : s "deployment_name" with
  | none =>
    rw [ofSettings, require_of_none hdeployment]
    exact .missing (by simp [required, hdeployment])
  | some deployment =>
    rw [ofSettings, require_eq_ok_iff.mpr hdeployment, ok_bind]
    cases hendpoint : s "endpoint" with
    | none =>
      rw [require_of_none hendpoint]
      exact .missing (by simp [required, hdeployment, hendpoint])
    | some endpoint =>
      rw [require_eq_ok_iff.mpr hendpoint, ok_bind]
      cases hkey : s "api_key" with
      | none =>
        rw [require_of_none hkey]
        exact .missing (by simp [required, hdeployment, hendpoint, hkey])
      | some apiKey =>
        rw [require_eq_ok_iff.mpr hkey, ok_bind]
        exact .complete hdeployment hendpoint hkey (usesDirectory_iff h)

theorem Yields.unique {x y : Except BindingError Binding} (hx : s.Yields x) (hy : s.Yields y) : x = y := by
  have hpresent {deployment endpoint apiKey key : String} (hdeployment : s "deployment_name" = some deployment)
      (hendpoint : s "endpoint" = some endpoint) (hkey : s "api_key" = some apiKey) :
      required.find? (fun key => (s key).isNone) ≠ some key := by
    simp [required, hdeployment, hendpoint, hkey]
  cases hx with
  | missing hfirst =>
    cases hy with
    | missing hfirst' =>
      rw [hfirst] at hfirst'
      cases hfirst'
      rfl
    | complete hdeployment hendpoint hkey _ => exact absurd hfirst (hpresent hdeployment hendpoint hkey)
  | complete hdeployment hendpoint hkey hdirectory =>
    cases hy with
    | missing hfirst => exact absurd hfirst (hpresent hdeployment hendpoint hkey)
    | complete hdeployment' hendpoint' hkey' hdirectory' =>
      obtain rfl := Option.some.inj (hdeployment.symm.trans hdeployment')
      obtain rfl := Option.some.inj (hendpoint.symm.trans hendpoint')
      obtain rfl := Option.some.inj (hkey.symm.trans hkey')
      rw [Bool.eq_iff_iff.mpr (hdirectory.trans hdirectory'.symm)]

theorem ofSettings_isAzure {b : Binding} (h : ofSettings s = .ok b) : b.dialect ≠ .openAI ∧ b.apiVersion ≠ none := by
  obtain ⟨deployment, -, h⟩ := bind_eq_ok h
  obtain ⟨endpoint, -, h⟩ := bind_eq_ok h
  obtain ⟨apiKey, -, h⟩ := bind_eq_ok h
  have htrimmed := (checks_azure deployment endpoint apiKey (s "api_version") s.usesDirectory).trimmed_eq h
  constructor
  · have hdialect : b.dialect = if s.usesDirectory then .azureAD else .azure := congrArg dialect htrimmed
    rw [hdialect]
    cases s.usesDirectory <;> decide
  · intro hnone
    have hversion := congrArg apiVersion htrimmed
    simp [trimmed, deployed, hnone] at hversion

/-- Six keys decide what a map yields. The kind of service stands for another setting, whatever that was before. Without
it the first key that is missing is the error, whatever the values are; where none is missing a binding is made of the
values. It is never one for the public service, and never one without a version. -/
theorem ofSettings_follows_keys (s : SettingsMap) :
    (∀ s' : SettingsMap, (∀ key ∈ keys, s' key = s key) → ofSettings s' = ofSettings s) ∧
      (∀ kind, s "api_type" = some kind → ofSettings s = ofSettings (s.translated kind)) ∧
      (s "api_type" = none → ∀ made, ofSettings s = made ↔ s.Yields made) ∧
      ∀ b, ofSettings s = .ok b → b.dialect ≠ .openAI ∧ b.apiVersion ≠ none := by
  refine ⟨fun s' => ofSettings_of_keys, fun kind hkind => (ofSettings_translated hkind).symm, ?_,
    fun b => ofSettings_isAzure⟩
  intro hkind made
  constructor
  · rintro rfl
    exact yields_ofSettings hkind
  · intro hmade
    exact (yields_ofSettings hkind).unique hmade

example :
    ofSettings (fun key => List.lookup key
      [("deployment_name", "dep"), ("endpoint", "https://me.example"), ("api_key", "key"), ("ad_auth", "TRUE"),
       ("api_type", "azure")]) = .ok (deployed "dep" "https://me.example" "key" none false) := by
  decide +kernel

end SettingsMap

end Binding

end ChatGateway
