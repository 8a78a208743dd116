import ChatGateway.FrameStream

namespace ChatGateway

open EventStream (Item)

def Frame.answers (n : UInt64) : List Item → List (Except Failure Frame)
  | [] => []
  | item :: items =>
    match Frame.ofItem? n item with
    | none => answers n items
    | some (.ok frame) => .ok frame :: answers n items
    | some (.error failure) => [.error failure]

def Frame.breaks (n : UInt64) : List Item → Bool
  | [] => false
  | item :: items =>
    match Frame.ofItem? n item with
    | none | some (.ok _) => breaks n items
    | some (.error _) => true

namespace FrameStream

def answers (s : FrameStream) : List (Except Failure Frame) :=
  match s.phase with
  | .flowing => Frame.answers s.numberOfResponses s.items
  | .failed | .closed => []

def ends (s : FrameStream) : Bool :=
  match s.phase with
  | .flowing => !s.stalls || Frame.breaks s.numberOfResponses s.items
  | .failed | .closed => true

def rest (s : FrameStream) : Turn := if s.ends then .ended else .waiting

def asked (s : FrameStream) : Nat → List Turn
  | 0 => []
  | k + 1 => s.next.1 :: s.next.2.asked k

@[simp] theorem answers_close (s : FrameStream) : s.close.answers = [] := rfl

@[simp] theorem ends_close (s : FrameStream) : s.close.ends = true := rfl

inductive Advances (s t : FrameStream) : Turn → Prop
  | answer {a : Except Failure Frame} (first : s.answers = a :: t.answers) (ends : t.ends = s.ends) :
    Advances s t (.answer a)
  | skipped (same : t.answers = s.answers) (ends : t.ends = s.ends) : Advances s t .skipped
  | ended (none : s.answers = []) (ends : s.ends = true) (same : t = s.close) : Advances s t .ended
  | waiting (none : s.answers = []) (ends : s.ends = false) (same : t = s) : Advances s t .waiting

theorem advances (s : FrameStream) : Advances s s.advance.2 s.advance.1 := by
  rcases s with ⟨n, items, stalls, pulled, phase⟩
  cases phase with
  | closed => exact .ended rfl rfl rfl
  | failed => exact .ended rfl rfl rfl
  | flowing =>
    cases items with
    | nil =>
      cases stalls with
      | true => exact .waiting rfl rfl rfl
      | false => exact .ended rfl rfl rfl
    | cons item items =>
      rcases h : Frame.ofItem? n item with _ | _ | frame
      · simp only [advance, take, h]
        exact .skipped (by simp [answers, Frame.answers, h]) (by simp [ends, Frame.breaks, h])
      · simp only [advance, take, h]
        exact .answer (by simp [answers, Frame.answers, h]) (by simp [ends, Frame.breaks, h])
      · simp only [advance, take, h]
        exact .answer (by simp [answers, Frame.answers, h]) (by simp [ends, Frame.breaks, h])

theorem answers_dropWhile (n : UInt64) (items : List Item) :
    Frame.answers n (items.dropWhile fun item => (Frame.ofItem? n item).isNone) = Frame.answers n items := by
  induction items with
  | nil => rfl
  | cons item items ih =>
    cases h : Frame.ofItem? n item with
    | none => simpa [List.dropWhile_cons, h, Frame.answers] using ih
    | some answer => simp [h]

theorem breaks_dropWhile (n : UInt64) (items : List Item) :
    Frame.breaks n (items.dropWhile fun item => (Frame.ofItem? n item).isNone) = Frame.breaks n items := by
  induction items with
  | nil => rfl
  | cons item items ih =>
    cases h : Frame.ofItem? n item with
    | none => simpa [List.dropWhile_cons, h, Frame.breaks] using ih
    | some answer => simp [h]

theorem answers_skip (s : FrameStream) : s.skip.answers = s.answers := by
  rcases s with ⟨n, items, stalls, pulled, _ | _ | _⟩
  · exact answers_dropWhile n items
  · rfl
  · rfl

theorem ends_skip (s : FrameStream) : s.skip.ends = s.ends := by
  rcases s with ⟨n, items, stalls, pulled, _ | _ | _⟩
  · exact congrArg (!stalls || ·) (breaks_dropWhile n items)
  · rfl
  · rfl

theorem next_ne_skipped (s : FrameStream) : s.next.1 ≠ .skipped := by
  rcases s with ⟨n, items, stalls, pulled, _ | _ | _⟩
  · rcases hitems : items.dropWhile fun item => (Frame.ofItem? n item).isNone with _ | ⟨item, later⟩
    · cases stalls <;> simp [next, skip, advance, hitems]
    · have hitem := List.head?_dropWhile_not (fun item => (Frame.ofItem? n item).isNone) items
      rw [hitems] at hitem
      rcases h : Frame.ofItem? n item with _ | _ | _
      · simp [h] at hitem
      · simp [next, skip, advance, hitems, take, h]
      · simp [next, skip, advance, hitems, take, h]
  · simp [next, skip, advance]
  · simp [next, skip, advance]

theorem next_eq (s : FrameStream) :
    s.next.1 = (s.answers.head?.map Turn.answer).getD s.rest ∧
      s.next.2.answers = s.answers.tail ∧ s.next.2.ends = s.ends := by
  have hskip := s.next_ne_skipped
  have h := s.skip.advances
  change Advances s.skip s.next.2 s.next.1 at h
  rw [← s.answers_skip, rest, ← s.ends_skip]
  cases hturn : s.next.1 <;> rw [hturn] at h
  case answer a =>
    cases h with
    | answer first ends => simp [first, ends]
  case skipped => exact absurd hturn hskip
  case ended =>
    cases h with
    | ended none ends same => simp [none, ends, same]
  case waiting =>
    cases h with
    | waiting none ends same => simp [none, ends, same]

theorem asked_eq (s : FrameStream) (k : Nat) :
    s.asked k = (s.answers.map Turn.answer ++ List.replicate k s.rest).take k := by
  induction k generalizing s with
  | zero => simp [asked]
  | succ k ih =>
    obtain ⟨hturn, hanswers, hends⟩ := s.next_eq
    have hrest : s.next.2.rest = s.rest := by rw [rest, hends, ← rest]
    rw [asked, ih, hturn, hanswers, hrest]
    cases s.answers with
    | nil => simp [List.replicate_succ]
    | cons a answers =>
      have hmin : min (k - answers.length) (k + 1) = k - answers.length := by omega
      simp [List.take_append, List.take_replicate, hmin]

end FrameStream

end ChatGateway
