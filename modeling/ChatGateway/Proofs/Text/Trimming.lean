import ChatGateway.Text.Blank
import Mathlib.Data.List.TakeWhile

namespace ChatGateway.Text

structure TrimsTo (text core : List Char) : Prop where
  within : ∃ before after, text = before ++ core ++ after ∧ (∀ c ∈ before, isBlank c) ∧ ∀ c ∈ after, isBlank c
  first : ∀ c, core.head? = some c → ¬isBlank c
  last : ∀ c, core.getLast? = some c → ¬isBlank c

theorem dropWhile_eq_self {s : List Char} (h : ∀ c, s.head? = some c → ¬isBlank c) : s.dropWhile isBlank = s := by
  cases s with
  | nil => rfl
  | cons c s =>
    have hc : isBlank c = false := by simpa using h c rfl
    simp [hc]

theorem not_isBlank_of_head?_dropWhile {s : List Char} {c : Char} (h : (s.dropWhile isBlank).head? = some c) :
    ¬isBlank c := by
  have hnot := List.head?_dropWhile_not isBlank s
  rw [h] at hnot
  simpa using hnot

theorem trimsTo_trimmed (s : List Char) : TrimsTo s (trimmed s) := by
  let rest := s.dropWhile isBlank
  let after := (rest.reverse.takeWhile isBlank).reverse
  have hrest : rest = trimmed s ++ after := by
    rw [trimmed, ← List.reverse_append, List.takeWhile_append_dropWhile, List.reverse_reverse]
  refine ⟨⟨s.takeWhile isBlank, after, ?_, ?_, ?_⟩, ?_, ?_⟩
  · rw [List.append_assoc, ← hrest, List.takeWhile_append_dropWhile]
  · intro c hc
    exact List.mem_takeWhile_imp hc
  · intro c hc
    exact List.mem_takeWhile_imp (List.mem_reverse.mp hc)
  · intro c hc
    apply not_isBlank_of_head?_dropWhile (s := s)
    change rest.head? = some c
    rw [hrest, List.head?_append, hc, Option.some_or]
  · intro c hc
    rw [trimmed, List.getLast?_reverse] at hc
    exact not_isBlank_of_head?_dropWhile hc

theorem TrimsTo.eq {s core : List Char} (h : TrimsTo s core) : trimmed s = core := by
  obtain ⟨⟨before, after, rfl, hbefore, hafter⟩, hfirst, hlast⟩ := h
  have hcore : core.reverse.dropWhile isBlank = core.reverse := by
    apply dropWhile_eq_self
    intro c hc
    exact hlast c (by rwa [List.head?_reverse] at hc)
  cases core with
  | nil =>
    have hblank : ∀ c ∈ before ++ [] ++ after, isBlank c := by
      intro c hc
      rcases List.mem_append.mp hc with hc | hc
      · exact hbefore c (by simpa using hc)
      · exact hafter c hc
    rw [trimmed, List.dropWhile_eq_nil_iff.mpr hblank]
    rfl
  | cons c core =>
    have hrest : (c :: core ++ after).dropWhile isBlank = c :: core ++ after := by
      apply dropWhile_eq_self
      exact hfirst
    rw [trimmed, List.append_assoc, List.dropWhile_append_of_pos hbefore, hrest, List.reverse_append,
      List.dropWhile_append_of_pos (by simpa using hafter), hcore, List.reverse_reverse]

theorem TrimsTo.self {s core : List Char} (h : TrimsTo s core) : TrimsTo core core :=
  ⟨⟨[], [], by simp, by simp, by simp⟩, h.first, h.last⟩

theorem trimmed_trimmed (s : List Char) : trimmed (trimmed s) = trimmed s :=
  (trimsTo_trimmed s).self.eq

@[simp] theorem trim_trim (s : String) : trim (trim s) = trim s := by
  simp [trim, trimmed_trimmed]

end ChatGateway.Text
