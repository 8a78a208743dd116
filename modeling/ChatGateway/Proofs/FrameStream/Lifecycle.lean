import ChatGateway.Proofs.FrameStream.Reassembly

namespace ChatGateway

open EventStream (Item)

namespace Frame

def isAnswered : Item → Bool
  | .error _ => true
  | .ok chunk => !chunk.fragments.isEmpty

def reach : List Item → Nat
  | [] => 0
  | item :: items => if isAnswered item then 1 else reach items + 1

theorem isSome_ofItem? (n : UInt64) (item : Item) : (ofItem? n item).isSome = isAnswered item := by
  rcases item with fault | ⟨_ | ⟨f, fs⟩⟩ <;> rfl

end Frame

namespace FrameStream

def draw (s : FrameStream) (k : Nat) : FrameStream :=
  { s with items := s.items.drop k, pulled := s.pulled + k }

inductive Says (s : FrameStream) : Option Item → Turn → FrameStream → Prop
  | frame {item : Item} {f : Frame} (answered : Frame.ofItem? s.numberOfResponses item = some (.ok f)) :
    Says s (some item) (.answer (.ok f)) s
  | failure {item : Item} {e : Failure} (answered : Frame.ofItem? s.numberOfResponses item = some (.error e)) :
    Says s (some item) (.answer (.error e)) { s with phase := .failed }
  | waiting (stalls : s.stalls = true) : Says s none .waiting s
  | ended (stalls : s.stalls = false) : Says s none .ended s.close

section Flowing

variable {n : UInt64} {item : Item} {items : List Item} {stalls : Bool} {pulled : Nat}

theorem next_of_skipped (h : Frame.ofItem? n item = none) :
    (⟨n, item :: items, stalls, pulled, .flowing⟩ : FrameStream).next =
      (⟨n, items, stalls, pulled + 1, .flowing⟩ : FrameStream).next := by
  have hle := (List.dropWhile_sublist (l := items) fun item => (Frame.ofItem? n item).isNone).length_le
  simp only [next, skip, List.dropWhile_cons, h, Option.isNone_none, if_true, List.length_cons]
  congr 2
  omega

theorem next_of_answered {a : Except Failure Frame} (h : Frame.ofItem? n item = some a) :
    (⟨n, item :: items, stalls, pulled, .flowing⟩ : FrameStream).next =
      (⟨n, item :: items, stalls, pulled, .flowing⟩ : FrameStream).take item items := by
  simp [next, skip, h, advance]

end Flowing

theorem says_next {s : FrameStream} (h : s.phase = .flowing) :
    Says (s.draw (Frame.reach s.items)) (s.items.find? Frame.isAnswered) s.next.1 s.next.2 := by
  rcases s with ⟨n, items, stalls, pulled, phase⟩
  obtain rfl : phase = .flowing := h
  -- An item that is not answered is as if it had already been taken.
  induction items generalizing pulled with
  | nil =>
    cases stalls with
    | true => exact .waiting rfl
    | false => exact .ended rfl
  | cons item items ih =>
    have hsome := Frame.isSome_ofItem? n item
    rcases hitem : Frame.ofItem? n item with _ | f | f
    · have hnot : Frame.isAnswered item = false := by
        rw [← hsome, hitem]
        rfl
      have hdraw : (⟨n, item :: items, stalls, pulled, .flowing⟩ : FrameStream).draw (Frame.reach (item :: items)) =
          (⟨n, items, stalls, pulled + 1, .flowing⟩ : FrameStream).draw (Frame.reach items) := by
        simp only [draw, Frame.reach, hnot, Bool.false_eq_true, if_false, List.drop_succ_cons, mk.injEq, true_and,
          and_true]
        omega
      rw [next_of_skipped hitem, List.find?_cons_of_neg (by simp [hnot])]
      exact hdraw ▸ ih (pulled + 1)
    all_goals
      have hanswered : Frame.isAnswered item = true := by
        rw [← hsome, hitem]
        rfl
      rw [List.find?_cons_of_pos hanswered]
      simp only [next_of_answered hitem, take, hitem, Frame.reach, hanswered, if_true]
    · exact .failure hitem
    · exact .frame hitem

theorem pulled_next {s : FrameStream} (h : s.phase = .flowing) : s.next.2.pulled = s.pulled + Frame.reach s.items := by
  have hsays := says_next h
  generalize s.items.find? Frame.isAnswered = item?, s.next = r at hsays
  obtain ⟨turn, later⟩ := r
  cases hsays <;> rfl

theorem answer_next {s : FrameStream} (h : s.phase = .flowing) {item : Item}
    (hitem : s.items.find? Frame.isAnswered = some item) :
    ∃ a, Frame.ofItem? s.numberOfResponses item = some a ∧ s.next.1 = .answer a := by
  have hsays := says_next h
  rw [hitem] at hsays
  generalize s.next = r at hsays ⊢
  obtain ⟨turn, later⟩ := r
  cases hsays with
  | frame answered => exact ⟨_, answered, rfl⟩
  | failure answered => exact ⟨_, answered, rfl⟩

theorem rest_next {s : FrameStream} (h : s.phase = .flowing) (hnone : s.items.find? Frame.isAnswered = none) :
    s.next.1 = if s.stalls then .waiting else .ended := by
  have hsays := says_next h
  rw [hnone] at hsays
  generalize s.next = r at hsays ⊢
  obtain ⟨turn, later⟩ := r
  cases hsays with
  | waiting stalls => exact (if_pos stalls).symm
  | ended stalls => exact (if_neg (by simpa [draw] using stalls)).symm

theorem close_of_closed {s : FrameStream} (h : s.phase = .closed) : s.close = s := by
  rcases s with ⟨n, items, stalls, pulled, phase⟩
  obtain rfl : phase = .closed := h
  rfl

theorem next_over {s : FrameStream} (h : s.phase ≠ .flowing) : s.next = (.ended, s.close) := by
  rcases s with ⟨n, items, stalls, pulled, _ | _ | _⟩
  · exact absurd rfl h
  · rfl
  · rfl

inductive Use where
  | asked (turn : Turn)
  | dropped

namespace Use

def Ends : Use → Prop
  | .asked .ended | .dropped => True
  | _ => False

def Fails : Use → Prop
  | .asked (.answer (.error _)) => True
  | _ => False

end Use

structure Tracks (first : FrameStream) (uses : List Use) (now : FrameStream) : Prop where
  untouched : uses = [] → now = first
  candidates : now.numberOfResponses = first.numberOfResponses
  stalls : now.stalls = first.stalls
  items : now.items = first.items.drop now.pulled
  flowing : now.phase = .flowing ↔ ∀ u ∈ uses, ¬u.Fails ∧ ¬u.Ends
  closed : now.phase = .closed ↔ ∃ u ∈ uses, u.Ends
  quiet : uses.Pairwise fun u v => u.Fails ∨ u.Ends → v.Ends

namespace Tracks

variable {first now : FrameStream} {uses : List Use}

theorem refl (h : first.pulled = 0) (hflowing : first.phase = .flowing) : Tracks first [] first where
  untouched _ := rfl
  candidates := rfl
  stalls := rfl
  items := by rw [h, List.drop_zero]
  flowing := by simp [hflowing]
  closed := by simp [hflowing]
  quiet := .nil

theorem concat (h : Tracks first uses now) (u : Use) {later : FrameStream}
    (candidates : later.numberOfResponses = now.numberOfResponses) (stalls : later.stalls = now.stalls)
    (items : later.items = first.items.drop later.pulled) (quiet : now.phase ≠ .flowing → u.Ends)
    (flowing : later.phase = .flowing ↔ now.phase = .flowing ∧ ¬u.Fails ∧ ¬u.Ends)
    (closed : later.phase = .closed ↔ now.phase = .closed ∨ u.Ends) : Tracks first (uses ++ [u]) later where
  untouched := by simp
  candidates := candidates.trans h.candidates
  stalls := stalls.trans h.stalls
  items := items
  flowing := by
    rw [flowing, h.flowing, List.forall_mem_append, List.forall_mem_singleton]
  closed := by
    rw [closed, h.closed]
    simp only [List.mem_append, List.mem_singleton]
    constructor
    · rintro (⟨v, hv, hends⟩ | hends)
      · exact ⟨v, .inl hv, hends⟩
      · exact ⟨u, .inr rfl, hends⟩
    · rintro ⟨v, hv | rfl, hends⟩
      · exact .inl ⟨v, hv, hends⟩
      · exact .inr hends
  quiet := by
    rw [List.pairwise_append]
    refine ⟨h.quiet, List.pairwise_singleton _ _, ?_⟩
    intro v hv w hw hdone
    obtain rfl := List.mem_singleton.mp hw
    -- After a failure or an end the stream does not flow any more.
    apply quiet
    rw [ne_eq, h.flowing]
    intro hall
    rcases hdone with hfails | hends
    · exact (hall v hv).1 hfails
    · exact (hall v hv).2 hends

theorem asked (h : Tracks first uses now) : Tracks first (uses ++ [.asked now.next.1]) now.next.2 := by
  by_cases hflowing : now.phase = .flowing
  · have hsays := says_next hflowing
    have hitems : ∀ k, (now.draw k).items = first.items.drop (now.draw k).pulled := by
      intro k
      simp only [draw, h.items, List.drop_drop]
    generalize now.items.find? Frame.isAnswered = item?, now.next = r at hsays
    obtain ⟨turn, later⟩ := r
    cases hsays with
    | @frame _ f =>
      refine h.concat (.asked (.answer (.ok f))) rfl rfl (hitems _) (absurd hflowing) ?_ ?_
      · simp [Use.Fails, Use.Ends, hflowing]
      · simp [Use.Ends]
    | @failure _ e =>
      refine h.concat (.asked (.answer (.error e))) rfl rfl (hitems (Frame.reach now.items)) (absurd hflowing) ?_ ?_
      · simp [Use.Fails]
      · simp [Use.Ends, hflowing]
    | waiting =>
      refine h.concat (.asked .waiting) rfl rfl (hitems _) (absurd hflowing) ?_ ?_
      · simp [Use.Fails, Use.Ends, hflowing]
      · simp [Use.Ends]
    | ended =>
      refine h.concat (.asked .ended) rfl rfl (hitems (Frame.reach now.items)) (absurd hflowing) ?_ ?_
      · simp [Use.Ends]
      · simp [Use.Ends]
  · rw [next_over hflowing]
    refine h.concat (.asked .ended) rfl rfl h.items (fun _ => trivial) ?_ ?_
    · simp [close, Use.Ends]
    · simp [close, Use.Ends]

theorem dropped (h : Tracks first uses now) : Tracks first (uses ++ [.dropped]) now.close := by
  refine h.concat .dropped rfl rfl h.items (fun _ => trivial) ?_ ?_
  · simp [close, Use.Ends]
  · simp [close, Use.Ends]

end Tracks

end FrameStream

end ChatGateway
