import ChatGateway.Backend.Polling
import ChatGateway.Proofs.Backend.Shutdown

/-!
The loop looked at poll by poll goes the ways that its moves say, and all of them. What has been found shut in a round
stays shut, so that all queues are shut at once where each has been found so.
-/

namespace ChatGateway.Backend

theorem Job.waitsOn_iff {channel : Channel} {j : Job} :
    j.waitsOn channel = true ↔ j.stage = .queued ∧ j.command.channel = channel := by
  simp [waitsOn, Job.isQueued_iff]

theorem Queue.mem_all (q : Queue) : q ∈ all := by
  rcases q with channel | _
  · cases channel <;> decide
  · decide

namespace State

variable {s t : State} {e : Event} {ds : List Delivery} {q : Queue}

theorem isShut_iff : s.isShut q = true ↔ s.held = false ∧ s.isEmpty q = true := by
  simp [isShut]

theorem isEmpty_commands_iff {channel : Channel} :
    s.isEmpty (.commands channel) = true ↔ ∀ j ∈ s.jobs, j.waitsOn channel = false := by
  simp [isEmpty]

theorem isEmpty_shutdown_iff : s.isEmpty .shutdown = true ↔ s.shutdown ≠ .asked := by
  simp [isEmpty]

theorem exists_waitsOn_of_happen {channel : Channel} (dropped : s.held = false) (h : s.happen e = some (ds, t))
    {j' : Job} (hj' : j' ∈ t.jobs) (waits : j'.waitsOn channel = true) : ∃ j ∈ s.jobs, j.waitsOn channel = true := by
  obtain ⟨queued, hchannel⟩ := Job.waitsOn_iff.mp waits
  cases s.happens h with
  | take =>
    rcases List.mem_or_eq_of_mem_set hj' with hold | rfl
    · exact ⟨j', hold, waits⟩
    · cases queued
  | shutDown =>
    obtain ⟨j, hj, rfl⟩ := List.mem_map.mp hj'
    split at queued
    · cases queued
    next hnot => exact absurd (Job.isQueued_iff.mpr queued) hnot
  | @task act i j j₁ now hj step =>
    rcases List.mem_or_eq_of_mem_set hj' with hold | rfl
    · exact ⟨j', hold, waits⟩
    · refine ⟨j, List.mem_of_getElem? hj, ?_⟩
      rw [Job.waitsOn_iff, ← hchannel, step.command_eq]
      exact ⟨step.alike.queued.mp queued, rfl⟩
  | receive hj =>
    rcases List.mem_or_eq_of_mem_set hj' with hold | rfl
    · exact ⟨j', hold, waits⟩
    · exact ⟨_, List.mem_of_getElem? hj, waits⟩
  | @detach i =>
    obtain ⟨k, hk⟩ := List.mem_iff_getElem?.mp hj'
    rw [detach, List.getElem?_modify] at hk
    obtain ⟨j, hj, rfl⟩ := Option.map_eq_some_iff.mp hk
    refine ⟨j, List.mem_of_getElem? hj, ?_⟩
    split at waits
    · exact waits
    · exact waits
  | stop | dropHandle => exact ⟨j', hj', waits⟩
  | submit held | askShutdown held =>
    rw [dropped] at held
    cases held

theorem dropped_of_happen (dropped : s.held = false) (h : s.happen e = some (ds, t)) :
    t.held = false ∧ (s.shutdown ≠ .asked → t.shutdown ≠ .asked) := by
  cases s.happens h with
  | shutDown => exact ⟨dropped, fun _ hasked => by cases hasked⟩
  | submit held | askShutdown held =>
    rw [dropped] at held
    cases held
  | dropHandle => exact ⟨rfl, id⟩
  | _ => exact ⟨dropped, id⟩

theorem isShut_of_happen (h : s.happen e = some (ds, t)) (hshut : s.isShut q = true) : t.isShut q = true := by
  obtain ⟨dropped, hempty⟩ := isShut_iff.mp hshut
  obtain ⟨dropped', hunasked⟩ := dropped_of_happen dropped h
  refine isShut_iff.mpr ⟨dropped', ?_⟩
  rcases q with channel | _
  · rw [isEmpty_commands_iff] at hempty ⊢
    intro j' hj'
    by_contra waits
    rw [Bool.not_eq_false] at waits
    obtain ⟨j, hj, waits'⟩ := exists_waitsOn_of_happen dropped h hj' waits
    rw [hempty j hj] at waits'
    cases waits'
  · rw [isEmpty_shutdown_iff] at hempty ⊢
    exact hunasked hempty

theorem isEmpty_false_of_taking (h : s.step q.taking = some t) : s.isEmpty q = false := by
  rcases q with channel | _
  · rw [Bool.eq_false_iff, ne_eq, isEmpty_commands_iff]
    intro hempty
    obtain ⟨-, h⟩ := Option.ite_none_right_eq_some.mp h
    obtain ⟨i, hfirst, -⟩ := Option.bind_eq_some_iff.mp h
    obtain ⟨hi, hwaits, -⟩ := List.findIdx?_eq_some_iff_getElem.mp hfirst
    have hnot := hempty s.jobs[i] (List.getElem_mem hi)
    rw [Job.waitsOn, hwaits] at hnot
    cases hnot
  · obtain ⟨⟨-, asked⟩, -⟩ := Option.ite_none_right_eq_some.mp h
    simp [isEmpty, asked]

theorem step_stop_of_isShut (running : s.running = true) (h : ∀ q, s.isShut q = true) :
    s.step .stop = some { s with running := false } := by
  obtain ⟨dropped, hunasked⟩ := isShut_iff.mp (h .shutdown)
  have hnone : ¬s.jobs.any Job.isQueued = true := by
    intro hany
    obtain ⟨j, hj, queued⟩ := List.any_eq_true.mp hany
    have hempty := isEmpty_commands_iff.mp (isShut_iff.mp (h (.commands j.command.channel))).2 j hj
    simp [Job.waitsOn, queued] at hempty
  rw [step, if_pos ⟨running, by simp [dropped], isEmpty_shutdown_iff.mp hunasked, hnone⟩]

theorem isShut_of_step_stop (h : s.step .stop = some t) (q : Queue) : s.isShut q = true := by
  obtain ⟨⟨-, dropped, hunasked, hnone⟩, -⟩ := Option.ite_none_right_eq_some.mp h
  refine isShut_iff.mpr ⟨by simpa using dropped, ?_⟩
  rcases q with channel | _
  · rw [isEmpty_commands_iff]
    intro j hj
    by_contra waits
    rw [Bool.not_eq_false, Job.waitsOn, Bool.and_eq_true] at waits
    exact hnone (List.any_eq_true.mpr ⟨j, hj, waits.1⟩)
  · exact isEmpty_shutdown_iff.mpr hunasked

end State

namespace Round

variable {r r' r'' : Round} {ds ds' : List Delivery} {ps ps' : List Poll}

def Sound (r : Round) : Prop := ∀ q ∈ r.disabled, r.backend.isShut q = true

theorem sound_of_nil (h : r.disabled = []) : r.Sound := by
  intro q hq
  rw [h] at hq
  cases hq

def Matches (s : State) (e? : Option Event) (ds : List Delivery) (t : State) : Prop :=
  match e? with
  | some e => s.happen e = some (ds, t)
  | none => ds = [] ∧ t = s

theorem poll_sound {p : Poll} (h : r.poll p = some (ds, r')) (hr : r.Sound) :
    r'.Sound ∧ Matches r.backend p.event? ds r'.backend := by
  cases p with
  | find q =>
    obtain ⟨-, h⟩ := Option.ite_none_left_eq_some.mp h
    obtain ⟨t, hstep, heq⟩ := Option.map_eq_some_iff.mp h
    cases heq
    refine ⟨sound_of_nil rfl, ?_⟩
    simp [Matches, Poll.event?, State.happen, hstep]
  | shut q =>
    obtain ⟨⟨-, hshut⟩, heq⟩ := Option.ite_none_right_eq_some.mp h
    cases heq
    refine ⟨?_, rfl, rfl⟩
    intro q' hq'
    rcases List.mem_cons.mp hq' with rfl | hq'
    · exact hshut
    · exact hr q' hq'
  | fall =>
    obtain ⟨⟨running, hall⟩, heq⟩ := Option.ite_none_right_eq_some.mp h
    cases heq
    refine ⟨sound_of_nil rfl, ?_⟩
    have hstop := State.step_stop_of_isShut running fun q => hr q (hall q q.mem_all)
    simp [Matches, Poll.event?, State.happen, hstop]
  | outside e free =>
    obtain ⟨⟨ds₁, t⟩, he, heq⟩ := Option.map_eq_some_iff.mp h
    cases heq
    exact ⟨fun q hq => State.isShut_of_happen he (hr q hq), he⟩

theorem run_cons {p : Poll} :
    r.run (p :: ps) = some (ds, r'') ↔
      ∃ ds₁ r' ds₂, r.poll p = some (ds₁, r') ∧ r'.run ps = some (ds₂, r'') ∧ ds = ds₁ ++ ds₂ := by
  simp only [run, Option.bind_eq_bind, Option.bind_eq_some_iff, Prod.exists, Option.pure_def, Option.some.injEq,
    Prod.mk.injEq]
  constructor
  · rintro ⟨ds₁, r', hp, ds₂, _, hps, rfl, rfl⟩
    exact ⟨ds₁, r', ds₂, hp, hps, rfl⟩
  · rintro ⟨ds₁, r', ds₂, hp, hps, rfl⟩
    exact ⟨ds₁, r', hp, ds₂, r'', hps, rfl, rfl⟩

theorem run_append (h : r.run ps = some (ds, r')) (h' : r'.run ps' = some (ds', r'')) :
    r.run (ps ++ ps') = some (ds ++ ds', r'') := by
  induction ps generalizing r ds with
  | nil =>
    cases h
    exact h'
  | cons p ps ih =>
    obtain ⟨ds₁, r₁, ds₂, hp, hps, rfl⟩ := run_cons.mp h
    rw [List.cons_append, List.append_assoc]
    exact run_cons.mpr ⟨ds₁, r₁, ds₂ ++ ds', hp, ih hps, rfl⟩

theorem run_sound (h : r.run ps = some (ds, r')) (hr : r.Sound) :
    r'.Sound ∧ r.backend.history (events ps) = some (ds, r'.backend) := by
  induction ps generalizing r ds with
  | nil =>
    cases h
    exact ⟨hr, rfl⟩
  | cons p ps ih =>
    obtain ⟨ds₁, r₁, ds₂, hp, hps, rfl⟩ := run_cons.mp h
    obtain ⟨hr₁, hmatches⟩ := poll_sound hp hr
    obtain ⟨hr', hhistory⟩ := ih hps hr₁
    refine ⟨hr', ?_⟩
    cases he : p.event? with
    | none =>
      rw [he] at hmatches
      obtain ⟨rfl, hsame⟩ := hmatches
      rw [events, List.filterMap_cons_none he, ← hsame]
      exact hhistory
    | some e =>
      rw [he] at hmatches
      rw [events, List.filterMap_cons_some he]
      exact State.history_cons.mpr ⟨ds₁, r₁.backend, ds₂, hmatches, hhistory, rfl⟩

theorem run_shut (running : r.backend.running = true) {qs : List Queue} (h : ∀ q ∈ qs, r.backend.isShut q = true) :
    r.run (qs.map .shut) = some ([], { r with disabled := qs.reverse ++ r.disabled }) := by
  induction qs generalizing r with
  | nil => rfl
  | cons q qs ih =>
    obtain ⟨hq, hqs⟩ := List.forall_mem_cons.mp h
    have hshut : r.poll (.shut q) = some ([], { r with disabled := q :: r.disabled }) := if_pos ⟨running, hq⟩
    have hrest := ih (r := { r with disabled := q :: r.disabled }) running hqs
    rw [List.reverse_cons, List.append_assoc]
    exact run_cons.mpr ⟨[], _, [], hshut, hrest, rfl⟩

theorem poll_find (hr : r.Sound) {q : Queue} {t : State} (h : r.backend.step q.taking = some t) :
    r.poll (.find q) = some ([], { backend := t }) := by
  have hnot : q ∉ r.disabled := by
    intro hq
    have hempty := (State.isShut_iff.mp (hr q hq)).2
    rw [State.isEmpty_false_of_taking h] at hempty
    cases hempty
  rw [poll, if_neg hnot, h]
  rfl

theorem exists_run_of_happen (hr : r.Sound) {e : Event} {t : State} (h : r.backend.happen e = some (ds, t)) :
    ∃ ps r', events ps = [e] ∧ r.run ps = some (ds, r') ∧ r'.backend = t := by
  have hsingle (p : Poll) (hevent : p.event? = some e) (hpoll : ∃ r', r.poll p = some (ds, r') ∧ r'.backend = t) :
      ∃ ps r', events ps = [e] ∧ r.run ps = some (ds, r') ∧ r'.backend = t := by
    obtain ⟨r', hpoll, hbackend⟩ := hpoll
    refine ⟨[p], r', ?_, ?_, hbackend⟩
    · rw [events, List.filterMap_cons_some hevent, List.filterMap_nil]
    · exact run_cons.mpr ⟨ds, r', [], hpoll, rfl, (List.append_nil ds).symm⟩
  have hfind (q : Queue) (heq : e = .move q.taking) :
      ∃ ps r', events ps = [e] ∧ r.run ps = some (ds, r') ∧ r'.backend = t := by
    subst heq
    obtain ⟨t', hstep, heq⟩ := Option.map_eq_some_iff.mp h
    cases heq
    exact hsingle (.find q) rfl ⟨_, poll_find hr hstep, rfl⟩
  -- the loop's own moves are what it finds, but for the last
  cases hloop : e.isLoop with
  | false =>
    refine hsingle (.outside e hloop) rfl ⟨{ r with backend := t }, ?_, rfl⟩
    rw [poll, h]
    rfl
  | true =>
    unfold Event.isLoop at hloop
    split at hloop
    next channel => exact hfind (.commands channel) rfl
    next => exact hfind .shutdown rfl
    next =>
      obtain ⟨t', hstep, heq⟩ := Option.map_eq_some_iff.mp h
      cases heq
      have hshut := State.isShut_of_step_stop hstep
      obtain ⟨⟨running, -⟩, hended⟩ := Option.ite_none_right_eq_some.mp hstep
      have hrun : r.run (Queue.all.map .shut) = some ([], { r with disabled := Queue.all.reverse ++ r.disabled }) :=
        run_shut running fun q _ => hshut q
      have hfall : run { r with disabled := Queue.all.reverse ++ r.disabled } [.fall] =
          some ([], { backend := { r.backend with running := false } }) := by
        refine run_cons.mpr ⟨[], _, [], if_pos ⟨running, ?_⟩, rfl, rfl⟩
        intro q _
        exact List.mem_append_left _ (List.mem_reverse.mpr q.mem_all)
      refine ⟨Queue.all.map .shut ++ [.fall], _, ?_, run_append hrun hfall, Option.some.inj hended⟩
      decide
    next => cases hloop

theorem history_iff_exists_run (hr : r.Sound) {es : List Event} {t : State} :
    r.backend.history es = some (ds, t) ↔
      ∃ ps r', events ps = es ∧ r.run ps = some (ds, r') ∧ r'.backend = t := by
  constructor
  · intro h
    induction es generalizing r ds with
    | nil =>
      cases h
      exact ⟨[], r, rfl, rfl, rfl⟩
    | cons e es ih =>
      obtain ⟨ds₁, t₁, ds₂, he, hes, rfl⟩ := State.history_cons.mp h
      obtain ⟨ps, r₁, hevents, hrun, rfl⟩ := exists_run_of_happen hr he
      obtain ⟨ps', r', hevents', hrun', hbackend⟩ := ih (run_sound hrun hr).1 hes
      refine ⟨ps ++ ps', r', ?_, run_append hrun hrun', hbackend⟩
      rw [events, List.filterMap_append, ← events, ← events, hevents, hevents']
      rfl
  · rintro ⟨ps, r', rfl, hrun, rfl⟩
    exact (run_sound hrun hr).2

end Round

end ChatGateway.Backend
