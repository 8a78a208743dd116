import ChatGateway.Proofs.Service.Requests
import ChatGateway.Session
import Mathlib.Data.List.Forall2

namespace ChatGateway.Session

def Step.call? : Step → Option (Call × Bool)
  | .completeChat call => some (call, false)
  | .completeText prompt settings => some (.ofPrompt prompt settings, false)
  | .streamChat _ call => some (call, true)
  | .streamText _ prompt settings => some (.ofPrompt prompt settings, true)
  | .next _ | .drain _ | .drop _ => none

def soundCalls (steps : List Step) : List (Call × Bool) :=
  (steps.filterMap Step.call?).filter fun p => p.1.Sound

def after (s : Session) : List Step → Session
  | [] => s
  | step :: steps => (s.step step).2.after steps

def Outcome.ofResponse (streamed : Bool) (response : Response) : Outcome :=
  if streamed then
    match response.opened with
    | .error fault => .failed (.callFailed fault)
    | .ok _ => .opened
  else .ofAnswer response.answer?

variable {s : Session} {step : Step} {c : Call} {streamed : Bool}

theorem getElem?_run (s : Session) (steps : List Step) (k : Nat) :
    (s.run steps)[k]? = steps[k]?.map fun step => (s.after (steps.take k)).step step := by
  induction steps generalizing s k with
  | nil => rfl
  | cons step steps ih =>
    cases k with
    | zero => rfl
    | succ k =>
      simp only [run, List.getElem?_cons_succ, List.take_succ_cons, after]
      exact ih (s.step step).2 k

theorem exists_after_of_mem_run {steps : List Step} {x : Outcome × Session} (h : x ∈ s.run steps) :
    ∃ before, x.2 = s.after before := by
  induction steps generalizing s with
  | nil => cases h
  | cons step steps ih =>
    rcases List.mem_cons.mp h with rfl | h
    · exact ⟨[step], rfl⟩
    · obtain ⟨before, hbefore⟩ := ih h
      exact ⟨step :: before, hbefore⟩

theorem after_append (s : Session) (steps later : List Step) : s.after (steps ++ later) = (s.after steps).after later := by
  induction steps generalizing s with
  | nil => rfl
  | cons step steps ih => exact ih (s.step step).2

structure Quiet (s t : Session) : Prop where
  binding : t.service.binding = s.service.binding
  requests : t.service.requests = s.service.requests

theorem Quiet.trans {t u : Session} (h : s.Quiet t) (h' : t.Quiet u) : s.Quiet u :=
  ⟨h'.binding.trans h.binding, h'.requests.trans h.requests⟩

theorem quiet_drop (s : Session) (name : String) : s.Quiet (s.drop name) := by
  unfold drop
  split <;> exact ⟨rfl, rfl⟩

theorem quiet_ask (s : Session) (name : String) : s.Quiet (s.ask name).2 := by
  unfold ask
  split
  · simp only [Service.next, Service.withStream]
    split <;> exact ⟨rfl, rfl⟩
  · exact ⟨rfl, rfl⟩

theorem drain_of_ask {R : Session → Session → Prop} {name : String} (refl : ∀ s, R s s)
    (trans : ∀ {s t u}, R s t → R t u → R s u) (hask : ∀ s, R s (s.ask name).2) (s : Session) (fuel : Nat) :
    R s (s.drain name fuel).2 := by
  induction fuel generalizing s with
  | zero => exact refl s
  | succ fuel ih =>
    have hfirst := hask s
    unfold drain
    split
    · next t heq =>
      rw [heq] at hfirst
      exact trans hfirst (ih t)
    · next t heq =>
      rw [heq] at hfirst
      exact trans hfirst (ih t)
    · next a t _ _ heq =>
      rw [heq] at hfirst
      exact hfirst

theorem quiet_drain (s : Session) (name : String) (fuel : Nat) : s.Quiet (s.drain name fuel).2 :=
  drain_of_ask (fun _ => ⟨rfl, rfl⟩) .trans (fun s => s.quiet_ask name) s fuel

theorem quiet_keep (s : Session) (name : String) (opened : Except Failure Nat × Service) :
    Quiet { s with service := opened.2 } (s.keep name opened).2 := by
  obtain ⟨failure | k, service⟩ := opened
  · exact ⟨rfl, rfl⟩
  · have hdrop := quiet_drop { s with service } name
    exact ⟨hdrop.binding, hdrop.requests⟩

theorem keep_fst (s : Session) (name : String) (opened : Except Failure Nat × Service) :
    (s.keep name opened).1 = match opened.1 with
      | .error failure => .failed failure
      | .ok _ => .opened := by
  rcases opened with ⟨failure | k, service⟩ <;> rfl

theorem step_quiet (h : step.call? = none) : s.Quiet (s.step step).2 := by
  cases step with
  | next name => exact s.quiet_ask name
  | drain name => exact s.quiet_drain name (s.drainBound name)
  | drop name => exact s.quiet_drop name
  | _ => cases h

theorem step_of_objection (h : step.call? = some (c, streamed)) {refusal : Refusal}
    (hc : c.objections.head? = some refusal) : s.step step = (.failed (.refused refusal), s) := by
  cases step <;> cases h
  · simp only [Session.step, Service.complete_of_objection hc]
    rfl
  · simp only [Session.step, Service.completeText, Service.complete_of_objection hc]
    rfl
  · simp only [Session.step, Service.stream_of_objection hc]
    rfl
  · simp only [Session.step, Service.streamText, Service.stream_of_objection hc]
    rfl

theorem step_of_sound (s : Session) (h : step.call? = some (c, streamed)) (hc : c.Sound) :
    ∃ r, s.service.Asked c streamed r (s.step step).2.service ∧
      (s.step step).1 = .ofResponse streamed (s.service.provider s.service.requests.length r) := by
  have hcomplete : ∃ r, s.service.Asked c false r (s.service.complete c).2 ∧
      .ofAnswer (s.service.complete c).1 =
        Outcome.ofResponse false (s.service.provider s.service.requests.length r) := by
    obtain ⟨r, hasked, hanswer⟩ := s.service.complete_of_sound hc
    exact ⟨r, hasked, congrArg Outcome.ofAnswer hanswer⟩
  have hkeep : ∀ name, ∃ r, s.service.Asked c true r (s.keep name (s.service.stream c)).2.service ∧
      (s.keep name (s.service.stream c)).1 =
        .ofResponse true (s.service.provider s.service.requests.length r) := by
    intro name
    obtain ⟨r, hasked, hopened⟩ := s.service.stream_of_sound hc
    have hquiet := s.quiet_keep name (s.service.stream c)
    refine ⟨r, ⟨hquiet.binding.trans hasked.binding, hasked.asks, hquiet.requests.trans hasked.requests⟩, ?_⟩
    rw [s.keep_fst, hopened, Outcome.ofResponse, if_pos rfl]
    cases (s.service.provider s.service.requests.length r).opened <;> rfl
  cases step <;> cases h
  · exact hcomplete
  · exact hcomplete
  · exact hkeep _
  · exact hkeep _

theorem after_requests (s : Session) (steps : List Step) :
    ∃ sent, (s.after steps).service.requests = s.service.requests ++ sent ∧
      List.Forall₂ (fun p r => ChatRequest.Asks s.service.binding p.1 p.2 r) (soundCalls steps) sent := by
  induction steps generalizing s with
  | nil => exact ⟨[], (List.append_nil _).symm, .nil⟩
  | cons step steps ih =>
    obtain ⟨sent, hsent, hall⟩ := ih (s.step step).2
    rw [after, hsent]
    cases hcall : step.call? with
    | none =>
      have hquiet := step_quiet (s := s) hcall
      refine ⟨sent, by rw [hquiet.requests], ?_⟩
      rw [hquiet.binding] at hall
      simpa [soundCalls, hcall] using hall
    | some p =>
      obtain ⟨c, streamed⟩ := p
      by_cases hc : c.Sound
      · obtain ⟨r, hasked, -⟩ := s.step_of_sound hcall hc
        refine ⟨r :: sent, by rw [hasked.requests, List.append_assoc]; rfl, ?_⟩
        rw [hasked.binding] at hall
        simpa [soundCalls, hcall, hc] using ⟨hasked.asks, hall⟩
      · obtain ⟨refusal, hrefusal⟩ := Call.exists_objection hc
        rw [step_of_objection hcall hrefusal] at hall ⊢
        exact ⟨sent, rfl, by simpa [soundCalls, hcall, hc] using hall⟩

theorem ask_terms (s : Session) (name : String) : s.service.SameTerms (s.ask name).2.service := by
  unfold ask
  split
  · next k _ => exact s.service.next_terms k
  · exact ⟨rfl, rfl, rfl⟩

theorem drain_terms (s : Session) (name : String) (fuel : Nat) : s.service.SameTerms (s.drain name fuel).2.service :=
  drain_of_ask (R := fun s t => s.service.SameTerms t.service) (fun _ => ⟨rfl, rfl, rfl⟩) .trans
    (fun s => s.ask_terms name) s fuel

theorem drop_terms (s : Session) (name : String) : s.service.SameTerms (s.drop name).service := by
  unfold drop
  split <;> exact ⟨rfl, rfl, rfl⟩

theorem keep_terms (s : Session) (name : String) (opened : Except Failure Nat × Service) :
    opened.2.SameTerms (s.keep name opened).2.service := by
  obtain ⟨failure | k, service⟩ := opened
  · exact ⟨rfl, rfl, rfl⟩
  · exact drop_terms { s with service } name

theorem step_terms (s : Session) (step : Step) : s.service.SameTerms (s.step step).2.service := by
  cases step with
  | completeChat call => exact s.service.complete_terms call
  | completeText prompt settings => exact s.service.complete_terms (.ofPrompt prompt settings)
  | streamChat name call => exact (s.service.stream_terms call).trans (s.keep_terms name _)
  | streamText name prompt settings =>
    exact (s.service.stream_terms (.ofPrompt prompt settings)).trans (s.keep_terms name _)
  | next name => exact s.ask_terms name
  | drain name => exact s.drain_terms name (s.drainBound name)
  | drop name => exact s.drop_terms name

theorem after_terms (s : Session) (steps : List Step) : s.service.SameTerms (s.after steps).service := by
  induction steps generalizing s with
  | nil => exact ⟨rfl, rfl, rfl⟩
  | cons step steps ih => exact (s.step_terms step).trans (ih (s.step step).2)

theorem answered_of_sound {steps : List Step} {sent : List ChatRequest}
    (hsent : (s.after steps).service.requests = s.service.requests ++ sent) {k : Nat} (hstep : steps[k]? = some step)
    (hcall : step.call? = some (c, streamed)) (hc : c.Sound) :
    ∃ r t, r.Asks s.service.binding c streamed ∧ sent[(soundCalls (steps.take k)).length]? = some r ∧
      (s.run steps)[k]? = some (.ofResponse streamed
        (s.service.provider (s.service.requests.length + (soundCalls (steps.take k)).length) r), t) := by
  obtain ⟨earlier, hearlier, hall⟩ := s.after_requests (steps.take k)
  have hterms := s.after_terms (steps.take k)
  obtain ⟨r, hasked, houtcome⟩ := (s.after (steps.take k)).step_of_sound hcall hc
  have hplace : (s.after (steps.take k)).service.requests.length =
      s.service.requests.length + (soundCalls (steps.take k)).length := by
    rw [hearlier, List.length_append, hall.length_eq]
  rw [hterms.provider, hplace] at houtcome
  have hasks := hasked.asks
  rw [hterms.binding] at hasks
  refine ⟨r, ((s.after (steps.take k)).step step).2, hasks, ?_, ?_⟩
  · -- the record before the step, the request of the step, and what the later steps add
    have hsteps : steps = steps.take k ++ step :: steps.drop (k + 1) := by
      obtain ⟨hlt, rfl⟩ := List.getElem?_eq_some_iff.mp hstep
      rw [← List.drop_eq_getElem_cons hlt, List.take_append_drop]
    obtain ⟨later, hlater, -⟩ := ((s.after (steps.take k)).step step).2.after_requests (steps.drop (k + 1))
    have hsplit : s.service.requests ++ sent = s.service.requests ++ (earlier ++ r :: later) := by
      rw [← hsent, hsteps, after_append, after, hlater, hasked.requests, hearlier]
      simp
    rw [List.append_cancel_left hsplit, hall.length_eq]
    simp
  · rw [getElem?_run, hstep, Option.map_some, ← houtcome]

/-- Of the calls of a run those with which nothing is wrong become requests, each of them one and in their order, and are
answered as the provider answers these; the others are refused for the first thing that is wrong, and leave everything
as it is. -/
theorem run_sends_sound_calls (s : Session) (steps : List Step) :
    ∃ sent, (s.after steps).service.requests = s.service.requests ++ sent ∧
      List.Forall₂ (fun p r => ChatRequest.Asks s.service.binding p.1 p.2 r) (soundCalls steps) sent ∧
      (∀ r ∈ sent, r.Sound s.service.binding) ∧
      (∀ c streamed streamed' r r', ((c, streamed), r) ∈ (soundCalls steps).zip sent →
        ((c, streamed'), r') ∈ (soundCalls steps).zip sent → r' = r.marked streamed') ∧
      (∀ k step c streamed, steps[k]? = some step → step.call? = some (c, streamed) → c.Sound →
        ∃ r t, r.Asks s.service.binding c streamed ∧ sent[(soundCalls (steps.take k)).length]? = some r ∧
          (s.run steps)[k]? = some (.ofResponse streamed
            (s.service.provider (s.service.requests.length + (soundCalls (steps.take k)).length) r), t)) ∧
      ∀ k step c streamed refusal, steps[k]? = some step → step.call? = some (c, streamed) →
        c.objections.head? = some refusal →
        (s.run steps)[k]? = some (.failed (.refused refusal), s.after (steps.take k)) := by
  obtain ⟨sent, hsent, hall⟩ := s.after_requests steps
  refine ⟨sent, hsent, hall, ?_, ?_, ?_, ?_⟩
  · have hsound : ∀ p ∈ soundCalls steps, p.1.Sound := by
      intro p hp
      simpa using (List.mem_filter.mp hp).2
    have hboth := ((List.forall₂_and_left _ _).mpr ⟨hsound, hall⟩).flip
    have hright : List.Forall₂ (fun r p => r.Sound s.service.binding ∧ p.1.Sound) sent (soundCalls steps) :=
      hboth.imp fun r p h => ⟨h.2.sound h.1, h.1⟩
    exact ((List.forall₂_and_left _ _).mp hright).1
  · intro c streamed streamed' r r' h h'
    have hasks := List.forall₂_zip hall h
    have hasks' := List.forall₂_zip hall h'
    exact hasks.eq_marked hasks'
  · intro k step c streamed hstep hcall hc
    exact answered_of_sound hsent hstep hcall hc
  · intro k step c streamed refusal hstep hcall hrefusal
    rw [getElem?_run, hstep, Option.map_some, step_of_objection hcall hrefusal]

end ChatGateway.Session
