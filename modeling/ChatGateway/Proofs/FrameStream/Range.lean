import ChatGateway.Proofs.FrameStream.Reassembly

namespace ChatGateway

open EventStream (Item)

namespace Frame

def strictFault? (n : UInt64) : Item → Option Fault
  | .error fault => some fault
  | .ok ⟨[]⟩ => none
  | .ok ⟨f :: _⟩ => if n ≤ f.index then some (.obscure (.choiceOutOfRange f.index n)) else none

def fragmentsBefore (fault : Item → Option Fault) (items : List Item) : List Fragment :=
  (items.takeWhile fun item => (fault item).isNone).filterMap fragment?

theorem fragments_eq_before (n : UInt64) (items : List Item) : fragments n items = fragmentsBefore (fault? n) items :=
  rfl

section Before

variable {fault : Item → Option Fault} {before : List Item}

theorem fragmentsBefore_append (h : ∀ item ∈ before, fault item = none) (after : List Item) :
    fragmentsBefore fault (before ++ after) = before.filterMap fragment? ++ fragmentsBefore fault after := by
  have hpass : ∀ item ∈ before, (fault item).isNone := by
    intro item hitem
    simp [h item hitem]
  rw [fragmentsBefore, List.takeWhile_append_of_pos hpass, List.filterMap_append, fragmentsBefore]

theorem fragmentsBefore_cons {item : Item} (h : fault item = none) (items : List Item) :
    fragmentsBefore fault (item :: items) = (fragment? item).toList ++ fragmentsBefore fault items := by
  have hone : ∀ i ∈ [item], fault i = none := by simpa using h
  have happend := fragmentsBefore_append hone items
  cases hitem : fragment? item <;> simpa [hitem] using happend

theorem fragmentsBefore_of_fault {item : Item} {e : Fault} (h : fault item = some e) (items : List Item) :
    fragmentsBefore fault (item :: items) = [] := by
  simp [fragmentsBefore, h]

end Before

theorem fault?_of_strictFault? {n : UInt64} {item : Item} (h : strictFault? n item = none) : fault? n item = none := by
  rcases item with fault | ⟨_ | ⟨f, fs⟩⟩
  · cases h
  · rfl
  · have hin : ¬n ≤ f.index := by simpa [strictFault?] using h
    simp [fault?, hin]

theorem index_lt_of_strictFault? {n : UInt64} {item : Item} {f : Fragment} (h : strictFault? n item = none)
    (hf : fragment? item = some f) : f.index < n := by
  rcases item with fault | ⟨_ | ⟨g, gs⟩⟩
  · cases h
  · cases hf
  · obtain rfl : g = f := by simpa [fragment?] using hf
    simpa [strictFault?] using h

theorem strict_of_index_lt {n : UInt64} {items : List Item} (h : ∀ f ∈ fragments n items, f.index < n) :
    fragmentsBefore (strictFault? n) items = fragments n items ∧
      items.findSome? (strictFault? n) = firstFault? n items := by
  simp only [fragments_eq_before] at h ⊢
  induction items with
  | nil => exact ⟨rfl, rfl⟩
  | cons item items ih =>
    rcases hfault : fault? n item with _ | e
    · rw [fragmentsBefore_cons hfault] at h ⊢
      obtain ⟨hfragments, hfirst⟩ := ih fun f hf => h f (List.mem_append_right _ hf)
      have hstrict : strictFault? n item = none := by
        rcases item with fault | ⟨_ | ⟨f, fs⟩⟩
        · cases hfault
        · rfl
        · have hin : f.index < n := h f (List.mem_append_left _ (by simp [fragment?]))
          simp [strictFault?, hin]
      rw [fragmentsBefore_cons hstrict, hfragments]
      simp [firstFault?, hfault, hstrict, hfirst]
    · have hstrict : strictFault? n item = some e := by
        rcases item with fault | ⟨_ | ⟨f, fs⟩⟩
        · exact hfault
        · cases hfault
        · have hout : (1 < n ∧ n ≤ f.index) ∧ Fault.obscure (.choiceOutOfRange f.index n) = e := by
            simpa [fault?] using hfault
          simpa [strictFault?, hout.1.2] using hout.2
      rw [fragmentsBefore_of_fault hfault, fragmentsBefore_of_fault hstrict]
      simp [firstFault?, hfault, hstrict]

theorem exists_first_foreign {n : UInt64} {items : List Item} (h : ∃ f ∈ fragments n items, n ≤ f.index) :
    ∃ before f fs after, items = before ++ .ok ⟨f :: fs⟩ :: after ∧
      (∀ item ∈ before, strictFault? n item = none) ∧ fault? n (.ok ⟨f :: fs⟩) = none ∧ n ≤ f.index := by
  simp only [fragments_eq_before] at h
  induction items with
  | nil =>
    obtain ⟨f, hf, -⟩ := h
    cases hf
  | cons item items ih =>
    obtain ⟨f, hf, hout⟩ := h
    rcases hfault : fault? n item with _ | e
    · rcases hstrict : strictFault? n item with _ | e
      · rw [fragmentsBefore_cons hfault] at hf
        rcases List.mem_append.mp hf with hf | hf
        · have hin := index_lt_of_strictFault? hstrict (Option.mem_toList.mp hf)
          exact absurd hout (UInt64.not_le.mpr hin)
        · obtain ⟨before, g, gs, after, rfl, hbefore, hg⟩ := ih ⟨f, hf, hout⟩
          exact ⟨item :: before, g, gs, after, rfl, List.forall_mem_cons.mpr ⟨hstrict, hbefore⟩, hg⟩
      · -- An item that only the stricter notion takes for a fault holds a fragment of a foreign candidate.
        rcases item with fault | ⟨_ | ⟨g, gs⟩⟩
        · cases hfault
        · cases hstrict
        · have hforeign : n ≤ g.index ∧ Fault.obscure (.choiceOutOfRange g.index n) = e := by
            simpa [strictFault?] using hstrict
          exact ⟨[], g, gs, items, rfl, by simp, hfault, hforeign.1⟩
    · rw [fragmentsBefore_of_fault hfault] at hf
      cases hf

end Frame

namespace FrameStream

/-- A new stream gives a frame for each fragment of a candidate that was asked for. The first fragment of another one
makes it fail, as an item does that is itself a fault. -/
def KeepsRange (n : UInt64) (items : List Item) (stalls : Bool) : Prop :=
  ∃ frames : List Frame,
    List.Forall₂ (Frame.Carries n) (Frame.fragmentsBefore (Frame.strictFault? n) items) frames ∧
    ∀ k, ({ numberOfResponses := n, items, stalls } : FrameStream).asked k =
      (frames.map (fun frame => Turn.answer (.ok frame)) ++
        afterFrames stalls (items.findSome? (Frame.strictFault? n)) k).take k

theorem asked_new (n : UInt64) (items : List Item) (stalls : Bool) (k : Nat) :
    ({ numberOfResponses := n, items, stalls } : FrameStream).asked k =
      (((Frame.fragments n items).map (Frame.holding n)).map (fun frame => Turn.answer (.ok frame)) ++
        afterFrames stalls (Frame.firstFault? n items) k).take k := by
  rw [asked_eq]
  simp only [answers, rest, ends, Frame.answers_eq, Frame.breaks_eq]
  cases hfault : Frame.firstFault? n items with
  | none => cases stalls <;> simp [afterFrames, Function.comp_def]
  | some fault => simp [afterFrames, Function.comp_def]

theorem keepsRange_of_lt {n : UInt64} {items : List Item} (h : ∀ f ∈ Frame.fragments n items, f.index < n)
    (stalls : Bool) : KeepsRange n items stalls := by
  obtain ⟨hfragments, hfault⟩ := Frame.strict_of_index_lt h
  refine ⟨(Frame.fragments n items).map (Frame.holding n), ?_, fun k => ?_⟩
  · rw [hfragments]
    exact Frame.carries_fragments n items
  · rw [hfault]
    exact asked_new n items stalls k

theorem not_keepsRange {n : UInt64} {items : List Item} (h : ∃ f ∈ Frame.fragments n items, n ≤ f.index)
    (stalls : Bool) : ¬KeepsRange n items stalls := by
  obtain ⟨before, f, fs, after, rfl, hbefore, hpass, hout⟩ := Frame.exists_first_foreign h
  rintro ⟨frames, hframes, hasked⟩
  have hstrict : Frame.strictFault? n (.ok ⟨f :: fs⟩) = some (.obscure (.choiceOutOfRange f.index n)) := by
    simp only [Frame.strictFault?, hout, if_true]
  have hfault : (before ++ .ok ⟨f :: fs⟩ :: after).findSome? (Frame.strictFault? n) =
      some (.obscure (.choiceOutOfRange f.index n)) := by
    rw [List.findSome?_append, List.findSome?_eq_none_iff.mpr hbefore, Option.none_or]
    simp [hstrict]
  have hfragments : Frame.fragments n (before ++ .ok ⟨f :: fs⟩ :: after) =
      before.filterMap Frame.fragment? ++ f :: Frame.fragments n after := by
    simp only [Frame.fragments_eq_before]
    rw [Frame.fragmentsBefore_append fun item hitem => Frame.fault?_of_strictFault? (hbefore item hitem),
      Frame.fragmentsBefore_cons hpass]
    rfl
  have hlength : frames.length = (before.filterMap Frame.fragment?).length := by
    rw [← hframes.length_eq, Frame.fragmentsBefore_append hbefore, Frame.fragmentsBefore_of_fault hstrict,
      List.append_nil]
  -- The answer at the place of the fragment would be a frame and a failure.
  have hturn := congrArg (·[frames.length]?) (hasked (frames.length + 1))
  rw [asked_new, hfault, hfragments] at hturn
  simp [hlength, afterFrames] at hturn

/-- A stream keeps to the candidates that were asked for just if there are several of them, or no fragment that it
answers is from beyond them. -/
theorem keepsRange_iff (n : UInt64) (items : List Item) (stalls : Bool) :
    KeepsRange n items stalls ↔ 1 < n ∨ ∀ f ∈ Frame.fragments n items, f.index < n := by
  constructor
  · intro h
    refine .inr fun f hf => ?_
    by_contra hin
    exact not_keepsRange ⟨f, hf, UInt64.not_lt.mp hin⟩ stalls h
  · rintro (several | h)
    · refine keepsRange_of_lt (fun f hf => ?_) stalls
      have hindex := Frame.index_of_mem_fragments hf
      by_contra hin
      exact hindex ⟨several, UInt64.not_lt.mp hin⟩
    · exact keepsRange_of_lt h stalls

theorem foreign_fragment_answered :
    ({ numberOfResponses := 1, items := [.ok ⟨[⟨5, none, some "x"⟩]⟩], stalls := false } : FrameStream).asked 2 =
        [.answer (.ok (.text "x")), .ended] ∧
      ¬KeepsRange 1 [.ok ⟨[⟨5, none, some "x"⟩]⟩] false := by
  refine ⟨rfl, not_keepsRange ⟨⟨5, none, some "x"⟩, ?_, ?_⟩ false⟩
  · decide
  · decide

end FrameStream

end ChatGateway
