import ChatGateway.Proofs.FrameStream.Lifecycle
import ChatGateway.Proofs.Service.Requests

namespace ChatGateway.Service

open FrameStream (Use Tracks)

inductive Action where
  | opens (call : Call)
  | asks (k : Nat)
  | drops (k : Nat)

def Action.stream? : Action → Option Nat
  | .opens _ => none
  | .asks k | .drops k => some k

def perform (s : Service) : Action → Service
  | .opens call => (s.stream call).2
  | .asks k => (s.next k).2
  | .drops k => s.close k

def performAll (s : Service) (actions : List Action) : Service := actions.foldl perform s

def use? (s : Service) (k : Nat) : Action → Option Use
  | .opens _ => none
  | .asks i => if i = k then some (.asked (s.next k).1) else none
  | .drops i => if i = k then some .dropped else none

def uses (s : Service) (k : Nat) : List Action → List Use
  | [] => []
  | a :: as => (s.use? k a).toList ++ (s.perform a).uses k as

structure Lives (s : Service) (k : Nat) (first : FrameStream) (actions : List Action) (now : FrameStream) : Prop where
  held : (s.performAll actions).streams[k]? = some now
  untouched : s.uses k actions = [] → now = first
  items : now.items = first.items.drop now.pulled
  pulls : (∀ u ∈ s.uses k actions, ¬u.Fails ∧ ¬u.Ends) →
    (((s.performAll actions).next k).2.streams[k]?).map (·.pulled) = some (now.pulled + Frame.reach now.items)
  answers : (∀ u ∈ s.uses k actions, ¬u.Fails ∧ ¬u.Ends) → ∀ item, now.items.find? Frame.isAnswered = some item →
    ∃ a, Frame.ofItem? first.numberOfResponses item = some a ∧ ((s.performAll actions).next k).1 = .answer a
  runsOut : (∀ u ∈ s.uses k actions, ¬u.Fails ∧ ¬u.Ends) → now.items.find? Frame.isAnswered = none →
    ((s.performAll actions).next k).1 = if first.stalls then .waiting else .ended
  rests : (∃ u ∈ s.uses k actions, u.Fails ∨ u.Ends) →
    (((s.performAll actions).next k).2.streams[k]?).map (·.pulled) = some now.pulled
  quiet : (s.uses k actions).Pairwise fun u v => u.Fails ∨ u.Ends → v.Ends
  released : now.released = true ↔ ∃ u ∈ s.uses k actions, u.Ends
  final : now.released = true → ∀ more, (s.performAll (actions ++ more)).streams[k]? = some now

structure Spares (s : Service) (a : Action) : Prop where
  usages : (s.perform a).usages = s.usages
  requests : ∀ k, a.stream? = some k → (s.perform a).requests = s.requests
  streams : ∀ i stream, a.stream? ≠ some i → s.streams[i]? = some stream → (s.perform a).streams[i]? = some stream

variable {s t : Service} {k : Nat} {first now : FrameStream} {used : List Use}

theorem next_eq_of_held (h : s.streams[k]? = some now) :
    s.next k = (now.next.1, { s with streams := s.streams.set k now.next.2 }) := by
  rw [next, withStream, h]

theorem held_next (h : s.streams[k]? = some now) : (s.next k).2.streams[k]? = some now.next.2 := by
  have hk := (List.getElem?_eq_some_iff.mp h).1
  rw [next_eq_of_held h]
  exact List.getElem?_set_self hk

inductive Streamed (s : Service) (call : Call) : Except Failure Nat × Service → Prop
  | refused {failure : Failure} : Streamed s call (.error failure, s)
  | failed {r : ChatRequest} {failure : Failure} :
    Streamed s call (.error failure, { s with requests := s.requests ++ [r] })
  | opened {r : ChatRequest} {items : List EventStream.Item} {stalls : Bool}
      (response : (s.provider s.requests.length r).opened = .ok (items, stalls)) :
    Streamed s call (.ok s.streams.length,
      { s with
        requests := s.requests ++ [r]
        streams := s.streams ++ [{ numberOfResponses := call.settings.numberOfResponses, items, stalls }] })

theorem streamed (s : Service) (call : Call) : Streamed s call (s.stream call) := by
  unfold stream
  rw [send_eq]
  cases ChatRequest.make? s.binding call.messages call.settings true with
  | error refusal => exact .refused
  | ok r =>
    rcases hopened : (s.provider s.requests.length r).opened with fault | ⟨items, stalls⟩
    · simp only [Except.map, open?, hopened]
      exact .failed
    · simp only [Except.map, open?, hopened]
      exact .opened hopened

theorem spares (s : Service) (a : Action) : s.Spares a := by
  cases a with
  | opens call =>
    have hstreamed := s.streamed call
    have hperform : s.perform (.opens call) = (s.stream call).2 := rfl
    generalize s.stream call = r at hstreamed hperform
    constructor <;> rw [hperform]
    · cases hstreamed <;> rfl
    · intro k h
      cases h
    · intro i stream _ hi
      cases hstreamed with
      | refused => exact hi
      | failed => exact hi
      | opened =>
        have hlt := (List.getElem?_eq_some_iff.mp hi).1
        exact (List.getElem?_append_left hlt).trans hi
  | asks k =>
    cases hk : s.streams[k]? with
    | none =>
      have hperform : s.perform (.asks k) = s := by simp only [perform, next, withStream, hk]
      constructor <;> simp only [hperform]
      · simp
      · intro i stream _ hi
        exact hi
    | some now =>
      have hperform : s.perform (.asks k) = { s with streams := s.streams.set k now.next.2 } := by
        rw [perform, next_eq_of_held hk]
      constructor <;> simp only [hperform]
      · simp
      · intro i stream hne hi
        have hki : k ≠ i := fun h => hne (congrArg some h)
        exact (List.getElem?_set_ne hki).trans hi
  | drops k =>
    refine ⟨rfl, fun _ _ => rfl, ?_⟩
    intro i stream hne hi
    have hki : k ≠ i := fun h => hne (congrArg some h)
    exact (List.getElem?_modify_ne _ _ hki).trans hi

theorem tracks_perform (h : s.streams[k]? = some now) (ht : Tracks first used now) (a : Action) :
    ∃ later, (s.perform a).streams[k]? = some later ∧ Tracks first (used ++ (s.use? k a).toList) later ∧
      (now.phase = .closed → later = now) := by
  by_cases hk : a.stream? = some k
  · cases a with
    | opens call => cases hk
    | asks i =>
      obtain rfl : i = k := Option.some.inj hk
      refine ⟨now.next.2, held_next h, ?_, ?_⟩
      · simpa [use?, next_eq_of_held h] using ht.asked
      · intro hclosed
        rw [FrameStream.next_over (by simp [hclosed])]
        exact FrameStream.close_of_closed hclosed
    | drops i =>
      obtain rfl : i = k := Option.some.inj hk
      refine ⟨now.close, ?_, ?_, ?_⟩
      · simp [perform, close, h]
      · simpa [use?] using ht.dropped
      · exact FrameStream.close_of_closed
  · refine ⟨now, (s.spares a).streams k now hk h, ?_, fun _ => rfl⟩
    have hnone : s.use? k a = none := by
      cases a with
      | opens call => rfl
      | asks i => exact if_neg fun hik => hk (congrArg some hik)
      | drops i => exact if_neg fun hik => hk (congrArg some hik)
    rw [hnone, Option.toList_none, List.append_nil]
    exact ht

theorem tracks_performAll (h : s.streams[k]? = some now) (ht : Tracks first used now) (actions : List Action) :
    ∃ later, (s.performAll actions).streams[k]? = some later ∧ Tracks first (used ++ s.uses k actions) later ∧
      (now.phase = .closed → later = now) := by
  induction actions generalizing s now used with
  | nil =>
    rw [uses, List.append_nil]
    exact ⟨now, h, ht, fun _ => rfl⟩
  | cons a actions ih =>
    obtain ⟨next, hnext, htnext, hclosed⟩ := tracks_perform h ht a
    obtain ⟨later, hlater, htlater, hclosed'⟩ := ih hnext htnext
    rw [List.append_assoc] at htlater
    refine ⟨later, hlater, htlater, ?_⟩
    intro hphase
    have heq := hclosed hphase
    exact (hclosed' (heq ▸ hphase)).trans heq

theorem lives (h : s.streams[k]? = some first) (hpulled : first.pulled = 0) (hflowing : first.phase = .flowing)
    (actions : List Action) : ∃ now, s.Lives k first actions now := by
  obtain ⟨now, hnow, ht, -⟩ := tracks_performAll h (.refl hpulled hflowing) actions
  rw [List.nil_append] at ht
  refine ⟨now, hnow, ht.untouched, ht.items, ?_, ?_, ?_, ?_, ht.quiet, ?_, ?_⟩
  · intro huses
    rw [held_next hnow, Option.map_some, FrameStream.pulled_next (ht.flowing.mpr huses)]
  · intro huses item hitem
    rw [next_eq_of_held hnow, ← ht.candidates]
    exact FrameStream.answer_next (ht.flowing.mpr huses) hitem
  · intro huses hnone
    rw [next_eq_of_held hnow, ← ht.stalls]
    exact FrameStream.rest_next (ht.flowing.mpr huses) hnone
  · intro huses
    have hover : now.phase ≠ .flowing := by
      rw [ne_eq, ht.flowing]
      obtain ⟨u, hu, hfails | hends⟩ := huses
      · exact fun hall => (hall u hu).1 hfails
      · exact fun hall => (hall u hu).2 hends
    rw [held_next hnow, FrameStream.next_over hover]
    rfl
  · rw [FrameStream.released, decide_eq_true_iff, ht.closed]
  · intro hreleased more
    obtain ⟨later, hlater, -, hclosed⟩ := tracks_performAll hnow ht more
    obtain rfl := hclosed (of_decide_eq_true hreleased)
    rw [performAll, List.foldl_append]
    exact hlater

/-- A stream that has just been opened has taken nothing. Whatever is then done with the streams of the service: each
time it is asked it takes the items up to the first that is answered, and answers that one; when it has failed it says
nothing more than that it has ended; it is given up when it has ended or been dropped and not before, and then stays as
it is; and what is done with one stream changes no other, and neither the requests nor the usages. -/
theorem opened_stream_lives {call : Call} (h : s.stream call = (.ok k, t)) :
    s.Spares (.opens call) ∧ k = s.streams.length ∧
      ∃ r items stalls, (s.provider s.requests.length r).opened = .ok (items, stalls) ∧
        t.requests = s.requests ++ [r] ∧
        ∀ actions,
          (∃ now, t.Lives k { numberOfResponses := call.settings.numberOfResponses, items, stalls } actions now) ∧
            ∀ a, (t.performAll actions).Spares a := by
  have hstreamed := s.streamed call
  rw [h] at hstreamed
  refine ⟨s.spares _, ?_⟩
  cases hstreamed with
  | @opened r items stalls response =>
    refine ⟨rfl, r, items, stalls, response, rfl, ?_⟩
    intro actions
    exact ⟨lives List.getElem?_concat_length rfl rfl actions, fun a => spares _ a⟩

def breakingOff : Service where
  binding := ⟨"model", "key", .openAI, none, none, none⟩
  provider
    | 0, _ => .stream [.ok ⟨[]⟩, .ok ⟨[⟨0, none, some "a"⟩]⟩, .error (.interrupted .bodyBrokeOff), .ok ⟨[]⟩] false
    | _, _ => .silence

theorem breakingOff_lives :
    ∃ t first now, breakingOff.stream (.ofPrompt "x" {}) = (.ok 0, t) ∧ t.streams = [first] ∧
      t.Lives 0 first [.asks 0, .opens (.ofPrompt "y" {}), .asks 1, .asks 0] now ∧
      now.pulled = 3 ∧ now.released = false ∧
      ((t.performAll [.asks 0, .opens (.ofPrompt "y" {}), .asks 1, .asks 0]).next 0).1 = .ended := by
  have h : breakingOff.stream (.ofPrompt "x" {}) = (.ok 0, _) := rfl
  obtain ⟨-, -, r, items, stalls, response, -, hall⟩ := opened_stream_lives h
  obtain ⟨⟨now, hnow⟩, -⟩ := hall [.asks 0, .opens (.ofPrompt "y" {}), .asks 1, .asks 0]
  cases response
  refine ⟨_, _, now, h, rfl, hnow, ?_, ?_, rfl⟩
  · cases hnow.held
    rfl
  · cases hnow.held
    rfl

end ChatGateway.Service
