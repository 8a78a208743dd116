import ChatGateway.Proofs.Backend.Polling

namespace ChatGateway.Backend

namespace State

variable {s t : State} {es : List Event} {e : Event} {ds : List Delivery}

structure Shows (es : List Event) (s : State) : Prop where
  held : s.held = true ↔ .askShutdown ∉ es ∧ .dropHandle ∉ es
  unasked : s.shutdown = .unasked ↔ .askShutdown ∉ es
  confirmed : s.shutdown = .confirmed → .move .shutDown ∈ es ∧ s.running = false
  ended : s.running = false → s.shutdown = .confirmed ∨ s.shutdown = .unasked ∧ s.held = false

namespace Shows

theorem initial (service : Service) : Shows [] (.initial service) := by
  constructor <;> simp [State.initial]

theorem still (h : Shows es s) (hasked : e ≠ .askShutdown) (hdropped : e ≠ .dropHandle) (hheld : t.held = s.held)
    (hshutdown : t.shutdown = s.shutdown) (hrunning : t.running = s.running) : Shows (es ++ [e]) t where
  held := by
    rw [hheld, h.held]
    simp [Ne.symm hasked, Ne.symm hdropped]
  unasked := by
    rw [hshutdown, h.unasked]
    simp [Ne.symm hasked]
  confirmed hconfirmed := by
    rw [hshutdown] at hconfirmed
    obtain ⟨hmem, hended⟩ := h.confirmed hconfirmed
    exact ⟨List.mem_append_left _ hmem, hrunning.trans hended⟩
  ended hended := by
    rw [hshutdown, hheld]
    exact h.ended (hrunning ▸ hended)

theorem happen (h : Shows es s) (he : s.happen e = some (ds, t)) : Shows (es ++ [e]) t := by
  cases s.happens he with
  | take | submit | receive | detach => exact h.still (by simp) (by simp) rfl rfl rfl
  | task _ step => cases step <;> exact h.still (by simp) (by simp) rfl rfl rfl
  | shutDown running asked =>
    have hasked : .askShutdown ∈ es := by
      by_contra hnot
      rw [h.unasked.mpr hnot] at asked
      cases asked
    constructor
    · simpa using h.held
    · simp [hasked]
    · exact fun _ => ⟨by simp, rfl⟩
    · exact fun _ => .inl rfl
  | stop running dropped hunasked =>
    have hunasked : s.shutdown = .unasked := by
      cases hshutdown : s.shutdown with
      | unasked => rfl
      | asked => exact absurd hshutdown hunasked
      -- the loop would have ended with the confirmation
      | confirmed =>
        have hended := (h.confirmed hshutdown).2
        rw [running] at hended
        cases hended
    constructor
    · simpa using h.held
    · simpa using h.unasked
    · intro hconfirmed
      rw [hunasked] at hconfirmed
      cases hconfirmed
    · exact fun _ => .inr ⟨hunasked, dropped⟩
  | askShutdown held running =>
    -- the handle is used up, so that there is no second time to ask
    constructor
    · simp
    · simp
    · exact fun hconfirmed => by cases hconfirmed
    · intro hended
      rw [running] at hended
      cases hended
  | dropHandle =>
    constructor
    · simp [dropHandle]
    · simpa [dropHandle] using h.unasked
    · intro hconfirmed
      obtain ⟨hmem, hended⟩ := h.confirmed hconfirmed
      exact ⟨List.mem_append_left _ hmem, hended⟩
    · intro hended
      exact (h.ended hended).imp_right fun hunasked => ⟨hunasked.1, rfl⟩

theorem history {service : Service} (h : (State.initial service).history es = some (ds, s)) : Shows es s := by
  refine State.history_induction (P := fun es _ t => Shows es t) (initial service) ?_ h
  intro es ds t e ds' u _ he ht
  exact ht.happen he

theorem running (h : Shows es s) (held : s.held = true) : s.running = true := by
  by_contra hended
  rw [Bool.not_eq_true] at hended
  obtain ⟨hunasked, -⟩ := h.held.mp held
  rcases h.ended hended with hconfirmed | ⟨-, dropped⟩
  · rw [h.unasked.mpr hunasked] at hconfirmed
    cases hconfirmed
  · rw [held] at dropped
    cases dropped

theorem shutdownReply_cases (h : Shows es s) (hasked : .askShutdown ∈ es) :
    s.shutdownReply = some (.ok ()) ∨ s.shutdownReply = none ∧ s.running = true ∧ s.shutdown = .asked := by
  cases hshutdown : s.shutdown with
  | unasked => exact absurd hasked (h.unasked.mp hshutdown)
  | confirmed => exact .inl (by simp [shutdownReply, hshutdown])
  | asked =>
    have running : s.running = true := by
      by_contra hended
      rw [Bool.not_eq_true] at hended
      rcases h.ended hended with hconfirmed | ⟨hunasked, -⟩
      · rw [hshutdown] at hconfirmed
        cases hconfirmed
      · rw [hshutdown] at hunasked
        cases hunasked
    exact .inr ⟨by simp [shutdownReply, hshutdown, running], running, rfl⟩

end Shows

theorem running_of_queued {service : Service} (h : (initial service).history es = some (ds, s)) {i : Nat} {j : Job}
    (hj : s.jobs[i]? = some j) (queued : j.stage = .queued) : s.running = true := by
  cases running : s.running with
  | true => rfl
  | false => exact absurd queued ((Looped.history h).queued running i j hj)

theorem not_lost_of_unasked {service : Service} (h : (initial service).history es = some (ds, s))
    (hunasked : .askShutdown ∉ es) {j : Job} (hj : j ∈ s.jobs) : j.stage ≠ .lost := by
  intro lost
  obtain ⟨i, hj⟩ := List.mem_iff_getElem?.mp hj
  have hconfirmed := (Looped.history h).lost i j hj lost
  rw [(Shows.history h).unasked.mpr hunasked] at hconfirmed
  cases hconfirmed

theorem shutDown_or_emptied {service : Service} (h : (initial service).history es = some (ds, s))
    (hended : s.running = false) :
    .move .shutDown ∈ es ∨
      .askShutdown ∉ es ∧ .dropHandle ∈ es ∧ ∀ i < s.jobs.length, i ∈ (initial service).taken es := by
  have hshows := Shows.history h
  have hlooped := Looped.history h
  rcases hshows.ended hended with hconfirmed | ⟨hunasked, dropped⟩
  · exact .inl (hshows.confirmed hconfirmed).1
  · right
    rw [hshows.unasked] at hunasked
    refine ⟨hunasked, ?_, ?_⟩
    · by_contra hheld
      rw [hshows.held.mpr ⟨hunasked, hheld⟩] at dropped
      cases dropped
    · intro i hi
      have hj := List.getElem?_eq_getElem hi
      rw [hlooped.mem_iff i _ hj]
      rintro (queued | lost)
      · exact hlooped.queued hended i _ hj queued
      · exact not_lost_of_unasked h hunasked (List.getElem_mem hi) lost

def waiting (s : State) (channel : Channel) (i : Nat) : Nat := (s.jobs.take (i + 1)).countP (Job.waitsOn channel)

def takenUpTo (s : State) (channel : Channel) (i : Nat) : State :=
  { s with jobs := s.jobs.mapIdx fun k j => if k ≤ i ∧ j.waitsOn channel then j.moved .taken else j }

theorem takenUpTo_of_waiting_eq_zero {channel : Channel} {i : Nat} (h : s.waiting channel i = 0) :
    s.takenUpTo channel i = s := by
  have hnone : ∀ j ∈ s.jobs.take (i + 1), ¬j.waitsOn channel = true := List.countP_eq_zero.mp h
  have hjobs : (s.jobs.mapIdx fun k j => if k ≤ i ∧ j.waitsOn channel then j.moved .taken else j) = s.jobs := by
    apply List.ext_getElem (by simp)
    intro k _ hk
    rw [List.getElem_mapIdx]
    apply if_neg
    rintro ⟨hki, waits⟩
    apply hnone _ _ waits
    exact List.mem_take_iff_getElem.mpr ⟨k, by omega, rfl⟩
  rw [takenUpTo, hjobs]

theorem exists_first_waiting {channel : Channel} {i : Nat} (h : 0 < s.waiting channel i) :
    ∃ f, ∃ hf : f < s.jobs.length, s.jobs.findIdx? (Job.waitsOn channel) = some f ∧ f ≤ i ∧
      s.jobs[f].waitsOn channel = true := by
  obtain ⟨j, hj, waits⟩ := List.countP_pos_iff.mp h
  obtain ⟨k, hk, rfl⟩ := List.mem_take_iff_getElem.mp hj
  obtain ⟨f, hfirst⟩ : ∃ f, s.jobs.findIdx? (Job.waitsOn channel) = some f := by
    rw [← Option.isSome_iff_exists, List.findIdx?_isSome, List.any_eq_true]
    exact ⟨_, List.getElem_mem _, waits⟩
  obtain ⟨hf, waits', hbefore⟩ := List.findIdx?_eq_some_iff_getElem.mp hfirst
  refine ⟨f, hf, hfirst, ?_, waits'⟩
  by_contra hlt
  exact hbefore k (by omega) waits

theorem waiting_setJob {channel : Channel} {i f : Nat} (hf : f < s.jobs.length) (hfi : f ≤ i)
    (waits : s.jobs[f].waitsOn channel = true) :
    (s.setJob f (s.jobs[f].moved .taken)).waiting channel i = s.waiting channel i - 1 := by
  have hlength : f < (s.jobs.take (i + 1)).length := by
    rw [List.length_take]
    omega
  have hmoved : (s.jobs[f].moved .taken).waitsOn channel = false := rfl
  rw [waiting, setJob, List.take_set, List.countP_set hlength, List.getElem_take, if_pos waits, hmoved]
  rfl

theorem takenUpTo_setJob {channel : Channel} {i f : Nat} (hf : f < s.jobs.length) (hfi : f ≤ i)
    (waits : s.jobs[f].waitsOn channel = true) :
    (s.setJob f (s.jobs[f].moved .taken)).takenUpTo channel i = s.takenUpTo channel i := by
  have hmoved : (s.jobs[f].moved .taken).waitsOn channel = false := rfl
  have hjobs : ((s.jobs.set f (s.jobs[f].moved .taken)).mapIdx
      fun k j => if k ≤ i ∧ j.waitsOn channel then j.moved .taken else j) =
      s.jobs.mapIdx fun k j => if k ≤ i ∧ j.waitsOn channel then j.moved .taken else j := by
    apply List.ext_getElem (by simp)
    intro k hk _
    rw [List.getElem_mapIdx, List.getElem_mapIdx]
    by_cases hkf : f = k
    · subst hkf
      rw [List.getElem_set_self, if_neg (by simp [hmoved]), if_pos ⟨hfi, waits⟩]
    · rw [List.getElem_set_ne hkf]
  rw [takenUpTo, takenUpTo, setJob, hjobs]

theorem exists_taking {channel : Channel} {i : Nat} (running : s.running = true) (h : 0 < s.waiting channel i) :
    ∃ t, s.step (.take channel) = some t ∧ t.running = true ∧ t.waiting channel i = s.waiting channel i - 1 ∧
      t.takenUpTo channel i = s.takenUpTo channel i := by
  obtain ⟨f, hf, hfirst, hfi, waits⟩ := exists_first_waiting h
  refine ⟨s.setJob f (s.jobs[f].moved .taken), ?_, running, waiting_setJob hf hfi waits, takenUpTo_setJob hf hfi waits⟩
  rw [step, if_pos running]
  change (s.jobs.findIdx? (Job.waitsOn channel)).bind _ = _
  rw [hfirst, Option.bind_some, List.getElem?_eq_getElem hf, Option.map_some]

end State

namespace Round

theorem exists_run_takenUpTo {r : Round} (hr : r.Sound) (running : r.backend.running = true) (channel : Channel)
    (i : Nat) :
    ∃ r', r.run (List.replicate (r.backend.waiting channel i) (.find (.commands channel))) = some ([], r') ∧
      r'.backend = r.backend.takenUpTo channel i := by
  obtain ⟨n, hn⟩ : ∃ n, r.backend.waiting channel i = n := ⟨_, rfl⟩
  rw [hn]
  -- each round takes one of those that wait, and the next begins with nothing found shut
  induction n generalizing r with
  | zero => exact ⟨r, rfl, (State.takenUpTo_of_waiting_eq_zero hn).symm⟩
  | succ n ih =>
    have hpos : 0 < r.backend.waiting channel i := by omega
    obtain ⟨t, hstep, running', hwaiting, hsame⟩ := State.exists_taking running hpos
    have hfind := poll_find (q := .commands channel) hr hstep
    rw [hn, Nat.add_sub_cancel] at hwaiting
    obtain ⟨r', hrun, hbackend⟩ := ih (r := { backend := t }) (sound_of_nil rfl) running' hwaiting
    refine ⟨r', ?_, hbackend.trans hsame⟩
    rw [List.replicate_succ]
    exact run_cons.mpr ⟨[], _, [], hfind, hrun, rfl⟩

/-- However the polls of the loop lie among all else that happens: the loop has ended only if it has taken the shutdown
command, or the handle has been dropped and every command taken; as long as the handle is there every command is
accepted and so is the shutdown, which never fails once it is asked for; a command that waits can be taken without a
step of any task; and where no shutdown is asked for no command is lost. -/
theorem loop_ends_only_when_done {service : Service} {ps : List Poll} {ds : List Delivery} {r : Round}
    (h : (initial service).run ps = some (ds, r)) :
    r.backend.jobs.map Job.command = (events ps).filterMap Event.command? ∧
    (r.backend.running = false →
      .move .shutDown ∈ events ps ∨
        .askShutdown ∉ events ps ∧ .dropHandle ∈ events ps ∧
          ∀ i < r.backend.jobs.length, i ∈ (State.initial service).taken (events ps)) ∧
    (.askShutdown ∉ events ps → .dropHandle ∉ events ps →
      (∀ command, r.backend.submit command =
        .ok { r.backend with jobs := r.backend.jobs ++ [{ command }] }) ∧
      r.backend.askShutdown = .ok { r.backend with held := false, shutdown := .asked }) ∧
    (.askShutdown ∈ events ps →
      r.backend.shutdownReply = some (.ok ()) ∨
        r.backend.shutdownReply = none ∧
          ∃ r', r.poll (.find .shutdown) = some ([], r') ∧ r'.backend.shutdownReply = some (.ok ())) ∧
    (∀ (i : Nat) (j : Job), r.backend.jobs[i]? = some j → j.stage = .queued →
      ∃ r', r.run (List.replicate (r.backend.waiting j.command.channel i) (.find (.commands j.command.channel))) =
          some ([], r') ∧
        r'.backend.jobs[i]? = some (j.moved .taken) ∧ r'.backend = r.backend.takenUpTo j.command.channel i) ∧
    (.askShutdown ∉ events ps → ∀ j ∈ r.backend.jobs, j.stage ≠ .lost) := by
  obtain ⟨hr, hhistory⟩ := run_sound h (sound_of_nil rfl)
  have hshows := State.Shows.history hhistory
  refine ⟨State.map_command_history hhistory, State.shutDown_or_emptied hhistory, ?_, ?_, ?_, ?_⟩
  · intro hunasked hheld
    have running := hshows.running (hshows.held.mpr ⟨hunasked, hheld⟩)
    constructor
    · intro command
      exact if_pos running
    · exact if_pos running
  · intro hasked
    rcases hshows.shutdownReply_cases hasked with hconfirmed | ⟨hpending, running, asked⟩
    · exact .inl hconfirmed
    · right
      exact ⟨hpending, _, poll_find (q := .shutdown) hr (if_pos ⟨running, asked⟩), rfl⟩
  · intro i j hj queued
    have running := State.running_of_queued hhistory hj queued
    obtain ⟨r', hrun, hbackend⟩ := exists_run_takenUpTo hr running j.command.channel i
    refine ⟨r', hrun, ?_, hbackend⟩
    have waits : j.waitsOn j.command.channel = true := Job.waitsOn_iff.mpr ⟨queued, rfl⟩
    rw [hbackend, State.takenUpTo, List.getElem?_mapIdx, hj, Option.map_some, if_pos ⟨Nat.le_refl i, waits⟩]
  · intro hunasked j hj
    exact State.not_lost_of_unasked hhistory hunasked hj

def mute : Service where
  binding := ⟨"model", "key", .openAI, none, none, none⟩
  provider _ _ := .silence

def stalled : List Poll :=
  [.outside (.submit (.completeText "x" {})) rfl, .find (.commands .completeText), .outside (.move (.begin 0)) rfl,
    .outside (.submit (.streamText "y" {})) rfl, .outside .dropHandle rfl, .shut (.commands .completeText)]

def emptied : List Poll := stalled ++ .find (.commands .streamText) :: Queue.all.map .shut ++ [.fall]

theorem stalled_loop_empties :
    (∃ r r', (initial mute).run stalled = some ([], r) ∧ r.disabled = [.commands .completeText] ∧
      r.run [.find (.commands .streamText)] = some ([], r') ∧
      r'.backend.jobs[0]?.map Job.isDone = some false ∧ r'.backend.jobs[1]?.map Job.isQueued = some false) ∧
    ∃ r, (initial mute).run emptied = some ([], r) ∧ r.backend.running = false ∧
      r.backend.jobs.length = 2 ∧ ∀ i < 2, i ∈ (State.initial mute).taken (events emptied) := by
  have h : (initial mute).run stalled = some (_, _) := rfl
  have h' : (initial mute).run emptied = some (_, _) := rfl
  constructor
  · obtain ⟨-, -, -, -, hwaits, -⟩ := loop_ends_only_when_done h
    obtain ⟨r', hrun, -, hbackend⟩ := hwaits 1 _ rfl rfl
    refine ⟨_, r', h, rfl, hrun, ?_, ?_⟩
    · rw [hbackend]
      rfl
    · rw [hbackend]
      rfl
  · obtain ⟨-, hended, -⟩ := loop_ends_only_when_done h'
    refine ⟨_, h', rfl, rfl, ?_⟩
    rcases hended rfl with hshutDown | ⟨-, -, htaken⟩
    · exact absurd hshutDown (by decide)
    · exact htaken

end Round

end ChatGateway.Backend
