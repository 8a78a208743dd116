import ChatGateway.Proofs.Backend.Refinement

namespace ChatGateway

theorem FrameStream.released_of_advance {s t : FrameStream} (h : s.advance = (.ended, t)) : t.released = true := by
  have hadvances := s.advances
  rw [h] at hadvances
  cases hadvances with
  | ended _ _ same =>
    rw [show t = s.close from same]
    rfl

namespace Backend

section TaskStep

variable {service now : Service} {j j' : Job} {act : Nat → Move} {k : Nat} {stream : FrameStream}

theorem TaskStep.held (h : TaskStep service j act now j') (hk : now.streams[k]? = some stream)
    (hopen : stream.released = false) :
    j'.stream? = some k ∨ j.stream? ≠ some k ∧ service.streams[k]? = some stream := by
  cases h with
  | openStream calling =>
    rw [List.getElem?_append] at hk
    split at hk
    · exact .inr ⟨by simp [Job.stream?, calling], hk⟩
    · have hle := (List.getElem?_eq_some_iff.mp hk).1
      have heq : service.streams.length = k := by
        rw [List.length_singleton] at hle
        omega
      exact .inl (by rw [← heq]; rfl)
  | conclude calling _ concluded =>
    rw [(Service.conclude_frame concluded).2.2.2] at hk
    exact .inr ⟨by simp [Job.stream?, calling], hk⟩
  | @pull m _ _ _ pulling =>
    by_cases hm : m = k
    · exact .inl (congrArg some hm)
    · rw [List.getElem?_set_ne hm] at hk
      exact .inr ⟨by simpa [Job.stream?, pulling] using hm, hk⟩
  | @skip m _ _ pulling =>
    by_cases hm : m = k
    · exact .inl (by simp [Job.stream?, pulling, hm])
    · rw [List.getElem?_set_ne hm] at hk
      exact .inr ⟨by simpa [Job.stream?, pulling] using hm, hk⟩
  | @finish m _ _ pulling held turn =>
    by_cases hm : m = k
    · subst hm
      obtain rfl := Option.some.inj ((List.getElem?_set_self (List.getElem?_eq_some_iff.mp held).1).symm.trans hk)
      rw [FrameStream.released_of_advance turn] at hopen
      cases hopen
    · rw [List.getElem?_set_ne hm] at hk
      exact .inr ⟨by simpa [Job.stream?, pulling] using hm, hk⟩
  | @astray m pulling held =>
    refine .inr ⟨?_, hk⟩
    intro hm
    obtain rfl : m = k := by simpa [Job.stream?, pulling] using hm
    rw [held] at hk
    cases hk
  | @send a m sending =>
    by_cases hm : m = some k
    · exact .inl (by simp [Job.stream?, Job.moved, hm])
    · exact .inr ⟨by simpa [Job.stream?, sending] using hm, hk⟩
  | @giveUp m _ held =>
    by_cases hm : m = k
    · subst hm
      obtain ⟨old, -, rfl⟩ : ∃ old, service.streams[m]? = some old ∧ old.close = stream := by
        simpa [Service.close] using hk
      cases hopen
    · exact .inr ⟨by simpa [held] using hm, by simpa [Service.close, List.getElem?_modify, hm] using hk⟩
  | request taken | refuseStream taken | refuse taken => exact .inr ⟨by simp [Job.stream?, taken], hk⟩
  | failToOpen calling => exact .inr ⟨by simp [Job.stream?, calling], hk⟩
  | giveUpUnopened _ sending => exact .inr ⟨by simp [Job.stream?, sending], hk⟩

end TaskStep

def Holding (first : Nat) (s : State) : Prop :=
  ∀ (k : Nat) (stream : FrameStream), first ≤ k → s.service.streams[k]? = some stream → stream.released = false →
    ∃ (i : Nat) (j : Job), s.jobs[i]? = some j ∧ j.stream? = some k

namespace Holding

variable {first : Nat} {s t : State} {i : Nat} {j j' : Job}

theorem relabel (h : Holding first s) (hservice : t.service = s.service)
    (hjobs : ∀ (i : Nat) (j : Job), s.jobs[i]? = some j → ∃ j', t.jobs[i]? = some j' ∧ j'.stream? = j.stream?) :
    Holding first t := by
  intro k stream hfirst hk hopen
  rw [hservice] at hk
  obtain ⟨i, j, hj, hheld⟩ := h k stream hfirst hk hopen
  obtain ⟨j', hj', hsame⟩ := hjobs i j hj
  exact ⟨i, j', hj', hsame.trans hheld⟩

theorem setJob (h : Holding first s) (hj : s.jobs[i]? = some j) (hsame : j'.stream? = j.stream?) :
    Holding first (s.setJob i j') := by
  refine h.relabel rfl fun i' j₁ hj₁ => ?_
  by_cases hi : i' = i
  · subst hi
    obtain rfl := Option.some.inj (hj.symm.trans hj₁)
    exact ⟨j', State.getElem?_setJob_self hj j', hsame⟩
  · exact ⟨j₁, (State.getElem?_setJob_ne s j' hi).trans hj₁, rfl⟩

theorem task (h : Holding first s) (hj : s.jobs[i]? = some j) {act : Nat → Move} {now : Service}
    (step : TaskStep s.service j act now j') : Holding first ((s.withService now).setJob i j') := by
  intro k stream hfirst hk hopen
  -- Either the task holds the stream now, or another one held it before and still does.
  rcases step.held hk hopen with hheld | ⟨hnot, hold⟩
  · exact ⟨i, j', State.getElem?_setJob_self hj j', hheld⟩
  · obtain ⟨i', j₁, hj₁, hheld⟩ := h k stream hfirst hold hopen
    refine ⟨i', j₁, ?_, hheld⟩
    have hne : i' ≠ i := by
      rintro rfl
      obtain rfl := Option.some.inj (hj.symm.trans hj₁)
      exact hnot hheld
    exact (State.getElem?_setJob_ne _ j' hne).trans hj₁

theorem happen (h : Holding first s) {e : Event} {ds : List Delivery} (he : s.happen e = some (ds, t)) :
    Holding first t := by
  cases s.happens he with
  | take _ _ hj queued => exact h.setJob hj (by simp [Job.stream?, Job.moved, queued])
  | task hj step => exact h.task hj step
  | receive hj => exact h.setJob hj (by rfl)
  | shutDown =>
    refine h.relabel rfl fun i j hj => ⟨if j.isQueued then j.moved .lost else j, by simp [hj], ?_⟩
    split
    · next queued => simp [Job.stream?, Job.moved, Job.isQueued_iff.mp queued]
    · rfl
  | submit =>
    refine h.relabel rfl fun i j hj => ⟨j, ?_, rfl⟩
    exact (List.getElem?_append_left (List.getElem?_eq_some_iff.mp hj).1).trans hj
  | @detach i =>
    refine h.relabel rfl fun i' j hj => ⟨if i = i' then { j with sent := [], attached := false } else j, ?_, ?_⟩
    · simp [State.detach, List.getElem?_modify, hj]
    · split <;> rfl
  | stop => exact h.relabel rfl fun i j hj => ⟨j, hj, rfl⟩
  | askShutdown => exact h.relabel rfl fun i j hj => ⟨j, hj, rfl⟩
  | dropHandle => exact h.relabel rfl fun i j hj => ⟨j, hj, rfl⟩

theorem history {service : Service} {events : List Event} {ds : List Delivery}
    (h : (State.initial service).history events = some (ds, s)) : Holding service.streams.length s := by
  refine State.history_induction (P := fun _ _ t => Holding service.streams.length t) ?_ ?_ h
  · intro k stream hfirst hk
    exact absurd (List.getElem?_eq_some_iff.mp hk).1 (Nat.not_lt.mpr hfirst)
  · intro es ds t e ds' u _ he ht
    exact ht.happen he

end Holding

namespace State

variable {s t : State} {i : Nat} {j : Job}

theorem step_giveUp (hj : s.jobs[i]? = some j) (detached : j.attached = false) {k : Nat} (hk : j.stream? = some k) :
    s.step (.giveUp i) = some ((s.withService (s.service.close k)).setJob i (j.moved .finished)) := by
  simp only [step, hj, Option.bind_some, giveUp, detached, Bool.false_eq_true, if_false]
  cases hstage : j.stage <;> simp only [Job.stream?, hstage, reduceCtorEq, Option.some.injEq] at hk
  case pulling m =>
    subst hk
    rfl
  case sending a m =>
    subst hk
    rfl

theorem detached_goes_on (hj : s.jobs[i]? = some j) (detached : j.attached = false) (given : j.stage ≠ .queued)
    (undone : j.isDone = false) (responded : ∀ response, j.stage ≠ .calling response) :
    ∃ m ∈ [Move.begin i, .giveUp i], ∃ t, s.step m = some t := by
  cases hstage : j.stage with
  | queued => exact absurd hstage given
  | taken =>
    refine ⟨.begin i, by simp, ?_⟩
    simp only [step, hj, Option.bind_some, begin, hstage]
    cases s.service.send j.command.call j.command.channel.streamed with
    | error refusal => exact ⟨_, rfl⟩
    | ok sent => exact ⟨_, rfl⟩
  | calling response => exact absurd hstage (responded response)
  | pulling k =>
    have hheld : j.stream? = some k := by simp [Job.stream?, hstage]
    exact ⟨.giveUp i, by simp, _, step_giveUp hj detached hheld⟩
  | sending a stream =>
    refine ⟨.giveUp i, by simp, (s.closeStream stream).setJob i (j.moved .finished), ?_⟩
    simp [step, hj, giveUp, detached, hstage]
  | finished => simp [Job.isDone, hstage] at undone
  | lost => simp [Job.isDone, hstage] at undone

/-- Whatever happens: a stream that has been opened and not given up is held by one task, and as soon as nobody is there
to receive its frames this task can end and give the stream up, whether the provider goes on or not. -/
theorem open_stream_held {service : Service} {events : List Event} {ds : List Delivery}
    (h : (initial service).history events = some (ds, s)) {k : Nat} {stream : FrameStream}
    (new : service.streams.length ≤ k) (hk : s.service.streams[k]? = some stream) (hopen : stream.released = false) :
    ∃ i j, s.jobs[i]? = some j ∧ j.stream? = some k ∧
      (∀ (i' : Nat) (j' : Job), s.jobs[i']? = some j' → j'.stream? = some k → i' = i) ∧
      (j.attached = false → ∃ t, s.step (.giveUp i) = some t ∧ t.service.streams[k]? = some stream.close ∧
        t.jobs[i]? = some (j.moved .finished)) := by
  obtain ⟨i, j, hj, hheld⟩ := Holding.history h k stream new hk hopen
  refine ⟨i, j, hj, hheld, ?_, ?_⟩
  · intro i' j' hj' hheld'
    exact (Consistent.history h).apart i' i j' j k hj' hj hheld' hheld
  · intro detached
    refine ⟨_, step_giveUp hj detached hheld, ?_, ?_⟩
    · simp [setJob, withService, Service.close, hk]
    · exact getElem?_setJob_self hj _

theorem step_calling {response : Response} (hj : s.jobs[i]? = some j) (calling : j.stage = .calling response) {m : Move}
    (hm : m ≠ .respond i) (h : s.step m = some t) : t.jobs[i]? = some j := by
  cases step_happens h with
  | @take _ i' j₁ _ _ hj₁ queued =>
    have hne : i ≠ i' := by
      rintro rfl
      obtain rfl := Option.some.inj (hj.symm.trans hj₁)
      simp [queued] at calling
    exact (getElem?_setJob_ne _ _ hne).trans hj
  | shutDown => simp [List.getElem?_map, hj, Job.isQueued, calling]
  | stop => exact hj
  | @task _ i' j₁ _ _ hj₁ taskStep =>
    have hne : i ≠ i' := by
      rintro rfl
      obtain rfl := Option.some.inj (hj.symm.trans hj₁)
      cases taskStep <;> simp_all [Job.stream?]
    exact (getElem?_setJob_ne _ _ hne).trans hj

theorem calling_until_response {response : Response} (hj : s.jobs[i]? = some j) (calling : j.stage = .calling response)
    {moves : List Move} (hmoves : .respond i ∉ moves) (h : s.run moves = some t) : t.jobs[i]? = some j := by
  induction moves generalizing s with
  | nil =>
    obtain rfl := Option.some.inj h
    exact hj
  | cons m moves ih =>
    obtain ⟨u, hu, h⟩ := Option.bind_eq_some_iff.mp h
    rw [List.mem_cons, not_or] at hmoves
    exact ih (step_calling hj calling (Ne.symm hmoves.1) hu) hmoves.2 h

def abandonedEarly : List Event :=
  [.submit (.streamText "x" {}), .move (.take .streamText), .move (.begin 0), .detach 0]

theorem abandonedEarly_waits :
    ∃ ds s, (initial twoFrames).history abandonedEarly = some (ds, s) ∧ s.jobs.map Job.attached = [false] ∧
      ∀ moves t, .respond 0 ∉ moves → s.run moves = some t → t.jobs[0]?.map Job.isDone = some false := by
  refine ⟨_, _, rfl, rfl, ?_⟩
  intro moves t hmoves h
  rw [calling_until_response rfl rfl hmoves h]
  rfl

end State

end Backend

end ChatGateway
