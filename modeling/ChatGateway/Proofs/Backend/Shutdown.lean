import ChatGateway.Proofs.Backend.Refinement

namespace ChatGateway.Backend

namespace Job

def Untaken (j : Job) : Prop := j.stage = .queued ∨ j.stage = .lost

structure Alike (j j' : Job) : Prop where
  command : j'.command = j.command
  queued : j'.stage = .queued ↔ j.stage = .queued
  lost : j'.stage = .lost ↔ j.stage = .lost

theorem Alike.untaken_iff {j j' : Job} (h : j.Alike j') : j'.Untaken ↔ j.Untaken := by
  rw [Untaken, Untaken, h.queued, h.lost]

end Job

theorem TaskStep.not_untaken {service now : Service} {j j' : Job} {act : Nat → Move}
    (h : TaskStep service j act now j') : ¬j.Untaken ∧ ¬j'.Untaken := by
  unfold Job.Untaken
  cases h with
  | skip pulling => simp [pulling]
  | @send _ stream sending => cases stream <;> simp [sending, Job.moved]
  | giveUp _ held =>
    refine ⟨?_, by simp [Job.moved]⟩
    rintro (queued | lost)
    · simp [Job.stream?, queued] at held
    · simp [Job.stream?, lost] at held
  | _ => simp_all [Job.moved]

theorem TaskStep.alike {service now : Service} {j j' : Job} {act : Nat → Move} (h : TaskStep service j act now j') :
    j.Alike j' where
  command := h.command_eq
  queued := iff_of_false (fun queued => h.not_untaken.2 (.inl queued)) fun queued => h.not_untaken.1 (.inl queued)
  lost := iff_of_false (fun lost => h.not_untaken.2 (.inr lost)) fun lost => h.not_untaken.1 (.inr lost)

structure Looped (taken : List Nat) (s : State) : Prop where
  given : ∀ i ∈ taken, i < s.jobs.length
  mem_iff : ∀ (i : Nat) (j : Job), s.jobs[i]? = some j → (i ∈ taken ↔ ¬j.Untaken)
  ordered : ∀ (i i' : Nat) (j j' : Job), i < i' → s.jobs[i]? = some j → s.jobs[i']? = some j' →
    j.command.channel = j'.command.channel → i' ∈ taken → i ∈ taken
  confirmed : s.shutdown = .confirmed → s.running = false
  queued : s.running = false → ∀ (i : Nat) (j : Job), s.jobs[i]? = some j → j.stage ≠ .queued
  lost : ∀ (i : Nat) (j : Job), s.jobs[i]? = some j → j.stage = .lost → s.shutdown = .confirmed

namespace Looped

variable {taken : List Nat} {s t : State} {i : Nat} {j j' : Job}

theorem initial (service : Service) : Looped [] (.initial service) := by
  constructor <;> simp [State.initial]

theorem keep (h : Looped taken s) (hlength : t.jobs.length = s.jobs.length)
    (hjobs : ∀ (i : Nat) (j' : Job), t.jobs[i]? = some j' →
      ∃ j, s.jobs[i]? = some j ∧ j'.command = j.command ∧ (j'.Untaken ↔ j.Untaken))
    (confirmed : t.shutdown = .confirmed → t.running = false)
    (queued : t.running = false → ∀ (i : Nat) (j : Job), t.jobs[i]? = some j → j.stage ≠ .queued)
    (lost : ∀ (i : Nat) (j : Job), t.jobs[i]? = some j → j.stage = .lost → t.shutdown = .confirmed) :
    Looped taken t where
  given i hi := hlength ▸ h.given i hi
  mem_iff i j' hj' := by
    obtain ⟨j, hj, -, huntaken⟩ := hjobs i j' hj'
    rw [huntaken]
    exact h.mem_iff i j hj
  ordered i i' j₁ j₁' hlt h₁ h₁' hchannel hi' := by
    obtain ⟨j, hj, hcommand, -⟩ := hjobs i j₁ h₁
    obtain ⟨j', hj', hcommand', -⟩ := hjobs i' j₁' h₁'
    rw [hcommand, hcommand'] at hchannel
    exact h.ordered i i' j j' hlt hj hj' hchannel hi'
  confirmed := confirmed
  queued := queued
  lost := lost

theorem still (h : Looped taken s) (hrunning : t.running = s.running) (hshutdown : t.shutdown = s.shutdown)
    (hlength : t.jobs.length = s.jobs.length)
    (hjobs : ∀ (i : Nat) (j' : Job), t.jobs[i]? = some j' → ∃ j, s.jobs[i]? = some j ∧ j.Alike j') :
    Looped taken t := by
  refine h.keep hlength ?_ (by rw [hrunning, hshutdown]; exact h.confirmed) ?_ ?_
  · intro i j' hj'
    obtain ⟨j, hj, halike⟩ := hjobs i j' hj'
    exact ⟨j, hj, halike.command, halike.untaken_iff⟩
  · intro hended i j' hj'
    obtain ⟨j, hj, halike⟩ := hjobs i j' hj'
    rw [ne_eq, halike.queued]
    exact h.queued (hrunning ▸ hended) i j hj
  · intro i j' hj' hlost
    obtain ⟨j, hj, halike⟩ := hjobs i j' hj'
    rw [hshutdown]
    exact h.lost i j hj (halike.lost.mp hlost)

theorem still_setJob (h : Looped taken s) (now : Service) (hj : s.jobs[i]? = some j) (halike : j.Alike j') :
    Looped taken ((s.withService now).setJob i j') := by
  refine h.still rfl rfl List.length_set ?_
  intro i' j₁ h₁
  rcases State.getElem?_setJob_cases (s := s.withService now) hj h₁ with ⟨rfl, rfl⟩ | ⟨-, hold⟩
  · exact ⟨j, hj, halike⟩
  · exact ⟨j₁, hold, rfl, .rfl, .rfl⟩

theorem not_lost (h : Looped taken s) (running : s.running = true) (hj : s.jobs[i]? = some j) : j.stage ≠ .lost := by
  intro lost
  have hended := h.confirmed (h.lost i j hj lost)
  rw [running] at hended
  cases hended

theorem mem_of_lt_first (h : Looped taken s) {channel : Channel} (running : s.running = true)
    (first : (s.jobs.findIdx? fun j => j.isQueued && j.command.channel == channel) = some i) {i' : Nat} (hlt : i' < i)
    (hj' : s.jobs[i']? = some j') (hsame : j'.command.channel = channel) : i' ∈ taken := by
  rw [h.mem_iff i' j' hj']
  rintro (queued | lost)
  · obtain ⟨_, -, hbefore⟩ := List.findIdx?_eq_some_iff_getElem.mp first
    obtain ⟨hi', rfl⟩ := List.getElem?_eq_some_iff.mp hj'
    have hnot := hbefore i' hlt
    simp [Job.isQueued_iff.mpr queued, hsame] at hnot
  · exact h.not_lost running hj' lost

theorem take (h : Looped taken s) {channel : Channel} (running : s.running = true)
    (first : (s.jobs.findIdx? fun j => j.isQueued && j.command.channel == channel) = some i)
    (hj : s.jobs[i]? = some j) : Looped (taken ++ [i]) (s.setJob i (j.moved .taken)) := by
  obtain ⟨hi, hfound, -⟩ := List.findIdx?_eq_some_iff_getElem.mp first
  obtain rfl : s.jobs[i] = j := Option.some.inj ((List.getElem?_eq_getElem hi).symm.trans hj)
  have hchannel : s.jobs[i].command.channel = channel := by
    rw [Bool.and_eq_true] at hfound
    exact eq_of_beq hfound.2
  constructor
  · intro i' hi'
    rw [State.setJob, List.length_set]
    rcases List.mem_append.mp hi' with hold | hnew
    · exact h.given i' hold
    · exact List.mem_singleton.mp hnew ▸ hi
  · intro i' j' hj'
    rw [List.mem_append, List.mem_singleton]
    rcases State.getElem?_setJob_cases hj hj' with ⟨rfl, rfl⟩ | ⟨hne, hold⟩
    · simp [Job.Untaken, Job.moved]
    · simp only [hne, or_false]
      exact h.mem_iff i' j' hold
  · intro a b ja jb hlt ha hb hsame hmem
    rw [List.mem_append, List.mem_singleton] at hmem ⊢
    rcases State.getElem?_setJob_cases hj ha with ⟨rfl, rfl⟩ | ⟨hne, hold⟩
    · exact .inr rfl
    · left
      rcases State.getElem?_setJob_cases hj hb with ⟨rfl, rfl⟩ | ⟨hne', hold'⟩
      · exact h.mem_of_lt_first running first hlt hold (hsame.trans hchannel)
      · exact h.ordered a b ja jb hlt hold hold' hsame (hmem.resolve_right hne')
  · exact h.confirmed
  · intro hended
    rw [State.setJob, running] at hended
    cases hended
  · intro i' j' hj' hlost
    rcases State.getElem?_setJob_cases hj hj' with ⟨rfl, rfl⟩ | ⟨-, hold⟩
    · cases hlost
    · exact h.lost i' j' hold hlost

theorem submit (h : Looped taken s) (command : Command) (running : s.running = true) :
    Looped taken { s with jobs := s.jobs ++ [{ command }] } where
  given i hi := by
    have hlt := h.given i hi
    rw [List.length_append]
    omega
  mem_iff i j hj := by
    rcases Consistent.getElem?_concat hj with hold | ⟨rfl, rfl⟩
    · exact h.mem_iff i j hold
    · have hnot : s.jobs.length ∉ taken := fun hmem => absurd (h.given _ hmem) (Nat.lt_irrefl _)
      simp [hnot, Job.Untaken]
  ordered a b ja jb hlt ha hb hsame hmem := by
    have hb' := h.given b hmem
    rw [List.getElem?_append_left hb'] at hb
    rw [List.getElem?_append_left (Nat.lt_trans hlt hb')] at ha
    exact h.ordered a b ja jb hlt ha hb hsame hmem
  confirmed := h.confirmed
  queued hended := by
    rw [running] at hended
    cases hended
  lost i j hj hlost := by
    rcases Consistent.getElem?_concat hj with hold | ⟨-, rfl⟩
    · exact h.lost i j hold hlost
    · cases hlost

theorem happen (h : Looped taken s) {e : Event} {ds : List Delivery} (he : s.happen e = some (ds, t)) :
    Looped (taken ++ s.takes e) t := by
  cases s.happens he with
  | @take channel i j running first hj =>
    have htakes : s.takes (.move (.take channel)) = [i] := by rw [State.takes, first]; rfl
    rw [htakes]
    exact h.take running first hj
  | task hj step =>
    rw [step.takes_eq, List.append_nil]
    exact h.still_setJob _ hj step.alike
  | receive hj =>
    simp only [State.takes, List.append_nil]
    exact h.still_setJob s.service hj ⟨rfl, .rfl, .rfl⟩
  | @detach i =>
    simp only [State.takes, List.append_nil]
    refine h.still rfl rfl (by simp [State.detach]) ?_
    intro i' j' hj'
    rw [State.detach, List.getElem?_modify] at hj'
    obtain ⟨j, hj, rfl⟩ := Option.map_eq_some_iff.mp hj'
    refine ⟨j, hj, ?_⟩
    split <;> exact ⟨rfl, .rfl, .rfl⟩
  | submit _ running =>
    simp only [State.takes, List.append_nil]
    exact h.submit _ running
  | shutDown running =>
    simp only [State.takes, List.append_nil]
    have hjobs : ∀ (i : Nat) (j' : Job), (s.jobs.map fun j => if j.isQueued then j.moved .lost else j)[i]? = some j' →
        ∃ j, s.jobs[i]? = some j ∧ j'.command = j.command ∧ (j'.Untaken ↔ j.Untaken) ∧ j'.stage ≠ .queued := by
      intro i j' hj'
      rw [List.getElem?_map] at hj'
      obtain ⟨j, hj, rfl⟩ := Option.map_eq_some_iff.mp hj'
      refine ⟨j, hj, ?_⟩
      split
      next hq => simp [Job.moved, Job.Untaken, Job.isQueued_iff.mp hq]
      next hq => simpa [Job.isQueued_iff] using hq
    refine h.keep (List.length_map _) ?_ (fun _ => rfl) ?_ (fun _ _ _ _ => rfl)
    · intro i j' hj'
      obtain ⟨j, hj, hcommand, huntaken, -⟩ := hjobs i j' hj'
      exact ⟨j, hj, hcommand, huntaken⟩
    · intro _ i j' hj'
      exact (hjobs i j' hj').choose_spec.2.2.2
  | stop running _ unasked empty =>
    simp only [State.takes, List.append_nil]
    refine h.keep rfl (fun i j hj => ⟨j, hj, rfl, .rfl⟩) (fun _ => rfl) ?_ h.lost
    intro _ i j hj
    exact empty j (List.mem_of_getElem? hj)
  | askShutdown _ running =>
    simp only [State.takes, List.append_nil]
    refine h.keep rfl (fun i j hj => ⟨j, hj, rfl, .rfl⟩) (fun hasked => by cases hasked) h.queued ?_
    intro i j hj lost
    exact absurd lost (h.not_lost running hj)
  | dropHandle =>
    simp only [State.takes, List.append_nil]
    exact h.still rfl rfl rfl fun i j hj => ⟨j, hj, rfl, .rfl, .rfl⟩

theorem history {service : Service} {events : List Event} {ds : List Delivery}
    (h : (State.initial service).history events = some (ds, s)) :
    Looped ((State.initial service).taken events) s := by
  refine State.history_induction (P := fun es _ t => Looped ((State.initial service).taken es) t) (initial service) ?_ h
  intro es ds t e ds' u hes he ht
  rw [State.taken, State.logged_concat hes he]
  exact ht.happen he

end Looped

namespace State

variable {s : State}

/-- Whatever happens, and in whatever order: no command waits in its channel after the loop has ended; those are lost
that have not been taken when a shutdown is confirmed, and they are not answered; and as the commands of each channel
are taken in their order, what is lost of a channel are the last that came on it. -/
theorem lost_iff_untaken {service : Service} {events : List Event} {ds : List Delivery}
    (h : (initial service).history events = some (ds, s)) :
    (s.running = false → ∀ j ∈ s.jobs, j.stage ≠ .queued) ∧
    (∀ (i : Nat) (j : Job), s.jobs[i]? = some j →
      (j.stage = .lost ↔ s.shutdown = .confirmed ∧ i ∉ (initial service).taken events) ∧
      (j.stage = .lost → received i ds = [] ∧ j.sent = [])) ∧
    ∀ (i i' : Nat) (j j' : Job), i < i' → s.jobs[i]? = some j → s.jobs[i']? = some j' →
      j.command.channel = j'.command.channel → j.stage = .lost → j'.stage = .lost := by
  have hlooped := Looped.history h
  have hlost : ∀ (i : Nat) (j : Job), s.jobs[i]? = some j →
      (j.stage = .lost ↔ s.shutdown = .confirmed ∧ i ∉ (initial service).taken events) := by
    intro i j hj
    rw [hlooped.mem_iff i j hj, not_not]
    constructor
    · intro lost
      exact ⟨hlooped.lost i j hj lost, .inr lost⟩
    · rintro ⟨confirmed, queued | lost⟩
      · exact absurd queued (hlooped.queued (hlooped.confirmed confirmed) i j hj)
      · exact lost
  refine ⟨?_, ?_, ?_⟩
  · intro hended j hj
    obtain ⟨i, hj⟩ := List.mem_iff_getElem?.mp hj
    exact hlooped.queued hended i j hj
  · intro i j hj
    refine ⟨hlost i j hj, ?_⟩
    intro lost
    cases (Consistent.history h).jobs i j hj with
    | waiting _ untouched unsent => exact ⟨untouched.1, unsent⟩
    | taken taken => simp [taken] at lost
    | begun left_eq =>
      rw [lost] at left_eq
      cases left_eq
  · intro i i' j j' hlt hj hj' hsame lost
    obtain ⟨confirmed, huntaken⟩ := (hlost i j hj).mp lost
    rw [hlost i' j' hj']
    exact ⟨confirmed, fun hmem => huntaken (hlooped.ordered i i' j j' hlt hj hj' hsame hmem)⟩

theorem submitted_may_be_lost (s : State) (command : Command) (held : s.held = true) (running : s.running = true) :
    ∃ t, s.history [.submit command, .askShutdown, .move .shutDown] = some ([], t) ∧ t.shutdown = .confirmed ∧
      t.jobs[s.jobs.length]? = some { command, stage := .lost } := by
  let lose (j : Job) : Job := if j.isQueued then j.moved .lost else j
  let given : Job := { command }
  refine ⟨{ s with
    running := false
    shutdown := .confirmed
    held := false
    jobs := (s.jobs ++ [given]).map lose }, ?_, rfl, ?_⟩
  · simp [history, happen, submit, askShutdown, step, held, running, Except.toOption, lose, given]
  · simp [lose, given, Job.isQueued, Job.moved]

end State

end ChatGateway.Backend
