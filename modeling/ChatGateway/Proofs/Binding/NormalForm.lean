import ChatGateway.Proofs.Binding.Agreement

namespace ChatGateway.Binding

open Text (trim)

theorem tidy_trimmed (b : Binding) : b.trimmed.Tidy := by
  rw [tidy_iff]
  simp [trimmed, Function.comp_def]

theorem sound_and_tidy_of_ofText {text : String} {b : Binding} (h : ofText text = .ok b) : b.Sound ∧ b.Tidy := by
  obtain ⟨given, hgiven⟩ := exists_describes h
  rw [ofText_of_describes hgiven] at h
  obtain ⟨rfl, hsound⟩ := check_eq_ok (bare_trimmed given) (mapError_eq_ok h)
  exact ⟨hsound, tidy_trimmed given⟩

theorem ofText_render {text : String} {b : Binding} (h : ofText text = .ok b) : ofText b.toJson.render = .ok b := by
  obtain ⟨hsound, htidy⟩ := sound_and_tidy_of_ofText h
  exact (ofText_render_iff hsound).mpr htidy

/-- A binding that is read from a text is read again from what is written for it, and that is written again as it
stands. The bindings of two texts are written alike just if they are the same. -/
theorem written_in_normal_form {text : String} {b : Binding} (h : ofText text = .ok b) :
    ofText b.toJson.render = .ok b ∧
      (ofText b.toJson.render).map (·.toJson.render) = .ok b.toJson.render ∧
      ∀ other c, ofText other = .ok c → (c.toJson.render = b.toJson.render ↔ c = b) := by
  have hread := ofText_render h
  refine ⟨hread, by rw [hread]; rfl, ?_⟩
  intro other c hother
  constructor
  · intro hsame
    have hreread := ofText_render hother
    rw [hsame, hread] at hreread
    exact (Except.ok.inj hreread).symm
  · rintro rfl
    rfl

def paddedArray : String :=
  " [ \"\\u00a0de\\\"p\\n\", \"\\tk \\\\\\u0001\", \x7b\"azure\":null\x7d, null, " ++
    "\"\\u2028v \u0085\",\n\" https://e.example\" ] "

theorem paddedArray_in_normal_form :
    let b : Binding := ⟨"de\"p", "k \\\x01", .azure, none, some "v", some "https://e.example"⟩
    ofText paddedArray = .ok b ∧ ofText b.toJson.render = .ok b ∧
      b.toJson.render = "\x7b\"model_id\":\"de\\\"p\",\"api_key\":\"k \\\\\\u0001\",\"api_type\":\"azure\"," ++
        "\"org_id\":null,\"api_version\":\"v\",\"endpoint\":\"https://e.example\"\x7d" := by
  intro b
  have hread : ofText paddedArray = .ok b := by decide +kernel
  exact ⟨hread, (written_in_normal_form hread).1, by decide +kernel⟩

end ChatGateway.Binding
