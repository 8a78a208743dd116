import ChatGateway.Proofs.FrameStream.Answers
import Mathlib.Data.List.Forall2
import Mathlib.Data.List.TakeWhile

namespace ChatGateway

open EventStream (Item)

def Fragment.words (f : Fragment) : String :=
  match f.role, f.content with
  | none, none => ""
  | none, some content => content
  | some role, none => role ++ ": "
  | some role, some content => role ++ ": " ++ content

theorem Fragment.text_eq_words (f : Fragment) : f.text = f.words := by
  rcases f with ⟨index, _ | role, _ | content⟩ <;> simp [text, words]

namespace Frame

def fault? (n : UInt64) : Item → Option Fault
  | .error fault => some fault
  | .ok ⟨[]⟩ => none
  | .ok ⟨f :: _⟩ => if 1 < n ∧ n ≤ f.index then some (.obscure (.choiceOutOfRange f.index n)) else none

def firstFault? (n : UInt64) (items : List Item) : Option Fault := items.findSome? (fault? n)

def fragment? : Item → Option Fragment
  | .error _ => none
  | .ok chunk => chunk.fragments.head?

def fragments (n : UInt64) (items : List Item) : List Fragment :=
  (items.takeWhile fun item => (fault? n item).isNone).filterMap fragment?

def texts : Frame → List String
  | .text t => [t]
  | .slots ts => ts

def slot (i : Nat) (frame : Frame) : String := frame.texts.getD i ""

inductive Carries (n : UInt64) (f : Fragment) : Frame → Prop
  | text (one : n ≤ 1) : Carries n f (.text f.words)
  | slots {texts : List String} (several : 1 < n) (length : texts.length = n.toNat)
      (own : texts[f.index.toNat]? = some f.words)
      (others : ∀ i < n.toNat, i ≠ f.index.toNat → texts[i]? = some "") : Carries n f (.slots texts)

def holding (n : UInt64) (f : Fragment) : Frame :=
  if n ≤ 1 then .text f.text else .slots ((List.replicate n.toNat "").set f.index.toNat f.text)

theorem carries_holding {n : UInt64} {f : Fragment} (h : ¬(1 < n ∧ n ≤ f.index)) : Carries n f (holding n f) := by
  unfold holding
  split
  next one =>
    rw [f.text_eq_words]
    exact .text one
  next several =>
    have hn : 1 < n := UInt64.not_le.mp several
    have hindex : f.index.toNat < n.toNat := by
      simpa [hn, UInt64.le_iff_toNat_le] using h
    refine .slots hn (by simp) ?_ fun i hi hne => ?_
    · simp [hindex, f.text_eq_words]
    · simp [Ne.symm hne, hi]

theorem ofItem?_eq (n : UInt64) (item : Item) :
    ofItem? n item =
      match fault? n item with
      | some fault => some (.error (.streamFailed fault))
      | none => (fragment? item).map fun f => .ok (holding n f) := by
  rcases item with fault | ⟨_ | ⟨f, fs⟩⟩
  · rfl
  · rfl
  by_cases one : n ≤ 1
  · have hn : ¬1 < n := UInt64.not_lt.mpr one
    simp [ofItem?, Chunk.fragment?, ofFragment, fault?, fragment?, holding, one, hn, Except.mapError]
  · have hn : 1 < n := UInt64.not_le.mp one
    by_cases hindex : f.index < n
    · have hle : ¬n ≤ f.index := UInt64.not_le.mpr hindex
      simp [ofItem?, Chunk.fragment?, ofFragment, fault?, fragment?, holding, one, hindex, hle, Except.mapError]
    · have hle : n ≤ f.index := UInt64.not_lt.mp hindex
      simp [ofItem?, Chunk.fragment?, ofFragment, fault?, one, hn, hindex, hle, Except.mapError]

theorem answers_eq (n : UInt64) (items : List Item) :
    answers n items =
      ((fragments n items).map fun f => .ok (holding n f)) ++
        ((firstFault? n items).map fun fault => .error (.streamFailed fault)).toList := by
  induction items with
  | nil => rfl
  | cons item items ih =>
    rw [answers, ofItem?_eq]
    cases hfault : fault? n item with
    | some fault => simp [fragments, firstFault?, hfault]
    | none =>
      cases hfragment : fragment? item with
      | none => simpa [fragments, firstFault?, hfault, hfragment] using ih
      | some f => simpa [fragments, firstFault?, hfault, hfragment] using ih

theorem breaks_eq (n : UInt64) (items : List Item) : breaks n items = (firstFault? n items).isSome := by
  induction items with
  | nil => rfl
  | cons item items ih =>
    rw [breaks, ofItem?_eq]
    cases hfault : fault? n item with
    | some fault => simp [firstFault?, hfault]
    | none => cases hfragment : fragment? item <;> simpa [firstFault?, hfault] using ih

theorem index_of_mem_fragments {n : UInt64} {items : List Item} {f : Fragment} (h : f ∈ fragments n items) :
    ¬(1 < n ∧ n ≤ f.index) := by
  obtain ⟨item, hitem, hf⟩ := List.mem_filterMap.mp h
  have hfault := List.mem_takeWhile_imp hitem
  rcases item with fault | ⟨_ | ⟨g, gs⟩⟩
  · simp [fragment?] at hf
  · simp [fragment?] at hf
  · obtain rfl : g = f := by simpa [fragment?] using hf
    intro hout
    simp [fault?, hout] at hfault

theorem carries_fragments (n : UInt64) (items : List Item) :
    List.Forall₂ (Carries n) (fragments n items) ((fragments n items).map (holding n)) := by
  rw [List.forall₂_map_right_iff, List.forall₂_same]
  intro f hf
  exact carries_holding (index_of_mem_fragments hf)

theorem Carries.slot_eq {n : UInt64} {f : Fragment} {frame : Frame} (h : Carries n f frame) (several : 1 < n)
    {i : Nat} (hi : i < n.toNat) : frame.slot i = if f.index.toNat = i then f.words else "" := by
  cases h with
  | text one => exact absurd several (UInt64.not_lt.mpr one)
  | slots _ _ own others =>
    split
    next heq =>
      subst heq
      simp [slot, texts, own]
    next hne => simp [slot, texts, others i hi (Ne.symm hne)]

theorem Carries.text_eq {n : UInt64} {f : Fragment} {frame : Frame} (h : Carries n f frame) (one : n ≤ 1) :
    frame.slot 0 = f.words := by
  cases h with
  | text _ => rfl
  | slots several => exact absurd one (UInt64.not_le.mpr several)

theorem join_slot {n : UInt64} {fs : List Fragment} {frames : List Frame} (h : List.Forall₂ (Carries n) fs frames)
    (several : 1 < n) {i : Nat} (hi : i < n.toNat) :
    String.join (frames.map (slot i)) = String.join ((fs.filter fun f => f.index.toNat = i).map Fragment.words) := by
  induction h with
  | nil => rfl
  | @cons f frame fs frames hf _ ih =>
    rw [List.map_cons, String.join_cons, ih, hf.slot_eq several hi]
    by_cases heq : f.index.toNat = i <;> simp [heq]

theorem join_text {n : UInt64} {fs : List Fragment} {frames : List Frame} (h : List.Forall₂ (Carries n) fs frames)
    (one : n ≤ 1) : String.join (frames.map (slot 0)) = String.join (fs.map Fragment.words) := by
  induction h with
  | nil => rfl
  | cons hf _ ih => rw [List.map_cons, List.map_cons, String.join_cons, String.join_cons, ih, hf.text_eq one]

end Frame

namespace FrameStream

def afterFrames (stalls : Bool) : Option Fault → Nat → List Turn
  | some fault, k => .answer (.error (.streamFailed fault)) :: List.replicate k .ended
  | none, k => List.replicate k (if stalls then .waiting else .ended)

/-- Asked again and again, a new stream gives a frame for each fragment, in their order, up to the first item that
fails. Put together, the frames give the words of the fragments. -/
theorem asked_reassembles (n : UInt64) (items : List Item) (stalls : Bool) :
    ∃ frames : List Frame,
      List.Forall₂ (Frame.Carries n) (Frame.fragments n items) frames ∧
      (∀ k, ({ numberOfResponses := n, items, stalls } : FrameStream).asked k =
        (frames.map (fun frame => Turn.answer (.ok frame)) ++ afterFrames stalls (Frame.firstFault? n items) k).take k) ∧
      (n ≤ 1 → String.join (frames.map (Frame.slot 0)) =
        String.join ((Frame.fragments n items).map Fragment.words)) ∧
      (1 < n → ∀ i < n.toNat, String.join (frames.map (Frame.slot i)) =
        String.join (((Frame.fragments n items).filter fun f => f.index.toNat = i).map Fragment.words)) := by
  have hcarries := Frame.carries_fragments n items
  refine ⟨_, hcarries, fun k => ?_, Frame.join_text hcarries, fun several i hi => Frame.join_slot hcarries several hi⟩
  rw [asked_eq]
  simp only [answers, rest, ends, Frame.answers_eq, Frame.breaks_eq]
  cases hfault : Frame.firstFault? n items with
  | none => cases stalls <;> simp [afterFrames, Function.comp_def]
  | some fault => simp [afterFrames, Function.comp_def]

end FrameStream

end ChatGateway
