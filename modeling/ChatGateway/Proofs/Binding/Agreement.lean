import ChatGateway.Proofs.Binding.Soundness

namespace ChatGateway.Binding

open Text (trim)

def Agree {ε ε' : Type} (x : Except ε Binding) (y : Except ε' Binding) : Prop :=
  x.toOption = y.toOption

structure Tidy (b : Binding) : Prop where
  organization : ∀ s ∈ b.organization, trim s = s
  apiVersion : ∀ s ∈ b.apiVersion, trim s = s

def halfTrimmed (b : Binding) : Binding :=
  { b.trimmed with organization := b.organization, apiVersion := b.apiVersion }

theorem map_trim_eq_self_iff (s : Option String) : s.map trim = s ↔ ∀ t ∈ s, trim t = t := by
  cases s <;> simp

theorem tidy_iff (b : Binding) :
    b.Tidy ↔ b.organization.map trim = b.organization ∧ b.apiVersion.map trim = b.apiVersion := by
  rw [map_trim_eq_self_iff, map_trim_eq_self_iff]
  exact ⟨fun h => ⟨h.organization, h.apiVersion⟩, fun h => ⟨h.1, h.2⟩⟩

theorem halfTrimmed_eq_trimmed_iff (b : Binding) : b.halfTrimmed = b.trimmed ↔ b.Tidy := by
  rw [tidy_iff]
  constructor
  · intro h
    have horganization := congrArg Binding.organization h
    have hversion := congrArg Binding.apiVersion h
    exact ⟨horganization.symm, hversion.symm⟩
  · rintro ⟨horganization, hversion⟩
    simp only [halfTrimmed, trimmed, horganization, hversion]

theorem agree_halfTrimmed_iff (b : Binding) :
    Agree b.halfTrimmed.check (b.trimmed.check.mapError LoadError.invalid) ↔ (b.trimmed.Sound → b.Tidy) := by
  have hbare := bare_trimmed b
  have hhalf : b.halfTrimmed.Bare := ⟨hbare.modelId, hbare.apiKey, hbare.endpoint⟩
  have hflaws : b.halfTrimmed.flaws = b.trimmed.flaws := rfl
  rw [check_eq hhalf, check_eq hbare, hflaws]
  by_cases hsound : b.trimmed.Sound
  · rw [(flaws_eq_nil_iff hbare).mpr hsound, ← halfTrimmed_eq_trimmed_iff]
    simp [Agree, Except.mapError, Except.toOption, hsound]
  · cases hgiven : b.trimmed.flaws with
    | nil => exact absurd ((flaws_eq_nil_iff hbare).mp hgiven) hsound
    | cons e es => simp [Agree, Except.mapError, Except.toOption, hsound]

theorem openAI_eq (modelId apiKey : String) (organization : Option String) :
    openAI modelId apiKey organization = (publicService modelId apiKey organization).halfTrimmed.check := rfl

theorem azure_eq (deployment endpoint apiKey : String) (apiVersion : Option String) (directory : Bool) :
    azure deployment endpoint apiKey apiVersion directory =
      (deployed deployment endpoint apiKey apiVersion directory).halfTrimmed.check := rfl

theorem halfTrimmed_eq_self {b : Binding} (h : b.Bare) : b.halfTrimmed = b := by
  have hmodel : b.trimmed.modelId = b.modelId := h.modelId
  have hkey : b.trimmed.apiKey = b.apiKey := h.apiKey
  have hdialect : b.trimmed.dialect = b.dialect := rfl
  simp only [halfTrimmed, hmodel, hkey, hdialect, trimmed_endpoint h]

theorem ofText_render_iff {b : Binding} (h : b.Sound) : ofText b.toJson.render = .ok b ↔ b.Tidy := by
  have hbare : b.Bare := h.toBare
  have hread : ofText b.toJson.render = .ok b.trimmed := by
    rw [ofText_of_describes (describes_render b), check_eq (bare_trimmed b), flaws_trimmed hbare,
      (flaws_eq_nil_iff hbare).mpr h]
    rfl
  rw [hread, ← halfTrimmed_eq_trimmed_iff, halfTrimmed_eq_self hbare, Except.ok.injEq, eq_comm]

/-- What is made from its parts agrees with what is read unless it is made with white space around the organization
or the version; and so it is with what is made in any way and written and read back. -/
theorem agree_iff_tidy (model endpoint apiKey organization apiVersion : String) (directory : Bool) (text : String) :
    (Describes text (publicService model apiKey (some organization)) →
        (Agree (openAI model apiKey (some organization)) (ofText text) ↔
          ((publicService model apiKey (some organization)).trimmed.Sound → trim organization = organization))) ∧
      (Describes text (deployed model endpoint apiKey (some apiVersion) directory) →
        (Agree (azure model endpoint apiKey (some apiVersion) directory) (ofText text) ↔
          ((deployed model endpoint apiKey (some apiVersion) directory).trimmed.Sound →
            trim apiVersion = apiVersion))) ∧
      ∀ (origin : Origin) b, origin.make = .ok b → (ofText b.toJson.render = .ok b ↔ b.Tidy) := by
  refine ⟨?_, ?_, ?_⟩
  · intro htext
    rw [ofText_of_describes htext, openAI_eq, agree_halfTrimmed_iff, tidy_iff]
    simp [publicService]
  · intro htext
    rw [ofText_of_describes htext, azure_eq, agree_halfTrimmed_iff, tidy_iff]
    simp [deployed]
  · intro origin b hmake
    exact ofText_render_iff (Origin.sound_of_make hmake)

def paddedText : String :=
  "\x7b\"model_id\":\"gpt-4\",\"api_key\":\"key\",\"api_type\":\"open_ai\",\"org_id\":\" org \"\x7d"

theorem padded_organization_disagrees :
    openAI "gpt-4" "key" (some " org ") = .ok (publicService "gpt-4" "key" (some " org ")) ∧
      ofText paddedText = .ok (publicService "gpt-4" "key" (some "org")) ∧
      ¬Agree (openAI "gpt-4" "key" (some " org ")) (ofText paddedText) := by
  have hmade : openAI "gpt-4" "key" (some " org ") = .ok (publicService "gpt-4" "key" (some " org ")) := by
    decide +kernel
  have hread : ofText paddedText = .ok (publicService "gpt-4" "key" (some "org")) := by decide +kernel
  refine ⟨hmade, hread, ?_⟩
  rw [Agree, hmade, hread]
  decide +kernel

end ChatGateway.Binding
