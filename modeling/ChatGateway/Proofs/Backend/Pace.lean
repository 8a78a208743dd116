import ChatGateway.Proofs.Backend.Abandonment

namespace ChatGateway

theorem FrameStream.advance_of_closed {s : FrameStream} (h : s.phase = .closed) : s.advance = (.ended, s) := by
  rw [advance, h]

namespace Backend

namespace Job

def inHand (j : Job) : Nat :=
  match j.stage with
  | .sending _ (some _) => 1
  | _ => 0

def isOpening (j : Job) : Bool :=
  match j.stage with
  | .calling response => j.command.channel.streamed && response.opened.isOk
  | _ => false

theorem inHand_le (j : Job) : j.inHand ≤ 1 := by
  unfold inHand
  split <;> omega

end Job

namespace State

def obtains (s : State) : Event → List Nat
  | .move (.pull i) =>
    match (s.jobs[i]?.bind Job.stream?).map fun k => (s.service.advance k).1 with
    | some (.answer _) => [i]
    | _ => []
  | _ => []

def opens (i : Nat) (s : State) : Event → List Nat
  | .move (.respond m) => if m = i ∧ s.jobs[i]?.any Job.isOpening then [s.service.streams.length] else []
  | _ => []

def obtained (s : State) (es : List Event) : List Nat := s.logged obtains es

def opened (i : Nat) (s : State) (es : List Event) : List Nat := s.logged (opens i) es

theorem obtains_pull {s : State} {i k : Nat} {j : Job} {stream : FrameStream} (hj : s.jobs[i]? = some j)
    (pulling : j.stage = .pulling k) (held : s.service.streams[k]? = some stream) :
    s.obtains (.move (.pull i)) = match stream.advance.1 with
      | .answer _ => [i]
      | _ => [] := by
  simp only [obtains, hj, Option.bind_some, Job.stream?, pulling, Option.map_some, Service.advance, Service.withStream,
    held]
  cases stream.advance.1 <;> rfl

end State

/-- How a command stands to the streams that its task has opened, after `n` answers of them have been obtained and `r`
answers have been received. -/
inductive Paced (service : Service) (j : Job) : List Nat → Nat → Nat → Prop
  | unopened {r : Nat} (free : j.stream? = none) (fresh : j.isDone = false → r = 0 ∧ j.sent = []) :
    Paced service j [] 0 r
  | flowing {k n r : Nat} (holds : j.stream? = some k) (there : k < service.streams.length)
      (room : j.sent.length ≤ capacity) (kept : j.attached = true → n = r + j.sent.length + j.inHand)
      (bound : n ≤ r + capacity + j.inHand) : Paced service j [k] n r
  | concluded {k n r : Nat} {stream : FrameStream} (finished : j.stage = .finished)
      (there : service.streams[k]? = some stream) (closed : stream.phase = .closed) (room : j.sent.length ≤ capacity)
      (kept : j.attached = true → n = r + j.sent.length) (bound : n ≤ r + capacity + 1) : Paced service j [k] n r

namespace TaskStep

variable {service now : Service} {j j' : Job} {act : Nat → Move} {k : Nat} {stream : FrameStream}

theorem length_streams_le (h : TaskStep service j act now j') : service.streams.length ≤ now.streams.length := by
  cases h with
  | conclude _ _ concluded => exact Nat.le_of_eq (congrArg List.length (Service.conclude_frame concluded).2.2.2).symm
  | openStream => simp
  | pull | skip | finish => simp
  | giveUp => simp [Service.close]
  | _ => exact Nat.le_refl _

theorem pulled_eq (h : TaskStep service j act now j') (hk : service.streams[k]? = some stream)
    (idle : j.stage ≠ .pulling k ∨ stream.phase = .closed) :
    ∃ later, now.streams[k]? = some later ∧ later.pulled = stream.pulled ∧
      (stream.phase = .closed → later.phase = .closed) := by
  by_cases hheld : j.stream? = some k
  · cases h with
    | @pull m old _ _ pulling held turn | @skip m old _ pulling held turn =>
      obtain rfl : m = k := by simpa [Job.stream?, pulling] using hheld
      obtain rfl := Option.some.inj (held.symm.trans hk)
      -- a stream that is closed gives neither an answer nor a reason to pull on
      rw [FrameStream.advance_of_closed (idle.resolve_left (absurd pulling))] at turn
      cases turn
    | @finish m old _ pulling held turn =>
      obtain rfl : m = k := by simpa [Job.stream?, pulling] using hheld
      obtain rfl := Option.some.inj (held.symm.trans hk)
      rw [FrameStream.advance_of_closed (idle.resolve_left (absurd pulling))] at turn
      cases turn
      exact ⟨old, List.getElem?_set_self (List.getElem?_eq_some_iff.mp held).1, rfl, id⟩
    | @giveUp m _ held =>
      obtain rfl : m = k := Option.some.inj (held.symm.trans hheld)
      exact ⟨stream.close, by simp [Service.close, hk], rfl, fun _ => rfl⟩
    | request taken | refuseStream taken | refuse taken => simp [Job.stream?, taken] at hheld
    | openStream calling | failToOpen calling | conclude calling => simp [Job.stream?, calling] at hheld
    | astray | send | giveUpUnopened => exact ⟨stream, hk, rfl, id⟩
  · exact ⟨stream, h.getElem?_streams hheld hk, rfl, id⟩

end TaskStep

namespace Paced

variable {s : State} {service now : Service} {i i' : Nat} {j j' j₁ j₁' : Job} {act : Nat → Move} {ks : List Nat} {n r : Nat}

theorem bounded (h : Paced service j ks n r) : n ≤ r + capacity + 1 := by
  cases h with
  | unopened => exact Nat.zero_le _
  | flowing _ _ _ _ bound =>
    have hhand := j.inHand_le
    omega
  | concluded _ _ _ _ _ bound => exact bound

theorem ahead_eq (h : Paced service j ks n r) (attached : j.attached = true) (hks : ks ≠ []) :
    n = r + j.sent.length + j.inHand ∧ j.sent.length ≤ capacity := by
  cases h with
  | unopened => exact absurd rfl hks
  | flowing _ _ room kept _ => exact ⟨kept attached, room⟩
  | concluded finished _ _ room kept _ =>
    have hhand : j.inHand = 0 := by simp [Job.inHand, finished]
    exact ⟨by rw [hhand]; exact kept attached, room⟩

theorem released (h : Paced service j ks n r) (done : j.isDone = true) {k : Nat} (hk : k ∈ ks) :
    ∃ stream, service.streams[k]? = some stream ∧ stream.released = true := by
  cases h with
  | unopened => cases hk
  | flowing holds =>
    unfold Job.isDone at done
    unfold Job.stream? at holds
    cases hstage : j.stage <;> simp [hstage] at done holds
  | concluded _ there closed =>
    obtain rfl := List.mem_singleton.mp hk
    exact ⟨_, there, decide_eq_true closed⟩

theorem unopened_of_idle (h : Paced service j ks n r) (idle : j.stream? = none ∧ j.isDone = false) :
    ks = [] ∧ n = 0 ∧ r = 0 ∧ j.sent = [] := by
  obtain ⟨free, undone⟩ := idle
  cases h with
  | unopened _ fresh => exact ⟨rfl, rfl, fresh undone⟩
  | flowing holds =>
    rw [free] at holds
    cases holds
  | concluded finished => simp [Job.isDone, finished] at undone

theorem flowing_of_holds {k : Nat} (h : Paced service j ks n r) (holds : j.stream? = some k) :
    ks = [k] ∧ k < service.streams.length ∧ j.sent.length ≤ capacity ∧
      (j.attached = true → n = r + j.sent.length + j.inHand) ∧ n ≤ r + capacity + j.inHand := by
  cases h with
  | unopened free => rw [holds] at free; cases free
  | flowing held there room kept bound =>
    obtain rfl := Option.some.inj (held.symm.trans holds)
    exact ⟨rfl, there, room, kept, bound⟩
  | concluded finished => simp [Job.stream?, finished] at holds

theorem frame (h : Paced service j ks n r) (step : TaskStep service j₁ act now j₁') : Paced now j ks n r := by
  cases h with
  | unopened free fresh => exact .unopened free fresh
  | flowing holds there room kept bound =>
    exact .flowing holds (Nat.lt_of_lt_of_le there step.length_streams_le) room kept bound
  | concluded finished there closed room kept bound =>
    obtain ⟨later, hlater, -, hclosed⟩ := step.pulled_eq there (.inr closed)
    exact .concluded finished hlater (hclosed closed) room kept bound

theorem task (h : Paced s.service j ks n r) (hj : s.jobs[i]? = some j) (step : TaskStep s.service j act now j') :
    Paced now j' (ks ++ s.opens i (.move (act i))) (n + (s.obtains (.move (act i))).count i) r := by
  cases step with
  | request taken | refuseStream taken =>
    obtain ⟨rfl, rfl, hr, hsent⟩ := h.unopened_of_idle (by simp [Job.stream?, Job.isDone, taken])
    exact .unopened (by rfl) fun _ => ⟨hr, hsent⟩
  | refuse taken =>
    obtain ⟨rfl, rfl, -⟩ := h.unopened_of_idle (by simp [Job.stream?, Job.isDone, taken])
    exact .unopened (by rfl) fun undone => by cases undone
  | failToOpen calling streamed failed =>
    obtain ⟨rfl, rfl, hr, hsent⟩ := h.unopened_of_idle (by simp [Job.stream?, Job.isDone, calling])
    have hopens : s.opens i (.move (.respond i)) = [] := by
      simp [State.opens, hj, Job.isOpening, calling, failed, Except.isOk, Except.toBool]
    rw [hopens]
    exact .unopened (by rfl) fun _ => ⟨hr, hsent⟩
  | openStream calling streamed opened =>
    obtain ⟨rfl, rfl, hr, hsent⟩ := h.unopened_of_idle (by simp [Job.stream?, Job.isDone, calling])
    have hopens : s.opens i (.move (.respond i)) = [s.service.streams.length] := by
      simp [State.opens, hj, Job.isOpening, calling, streamed, opened, Except.isOk, Except.toBool]
    rw [hopens]
    refine .flowing (by rfl) (by simp) ?_ ?_ (Nat.zero_le _)
    · simp [Job.moved, hsent]
    · simp [Job.moved, Job.inHand, hsent, hr, State.obtains]
  | conclude calling blocking =>
    obtain ⟨rfl, rfl, -⟩ := h.unopened_of_idle (by simp [Job.stream?, Job.isDone, calling])
    have hopens : s.opens i (.move (.respond i)) = [] := by
      simp [State.opens, hj, Job.isOpening, calling, blocking]
    rw [hopens]
    exact .unopened (by rfl) fun undone => by cases undone
  | @pull k _ _ a pulling held turn =>
    obtain ⟨rfl, there, room, kept, bound⟩ := h.flowing_of_holds (k := k) (by simp [Job.stream?, pulling])
    have hhand : j.inHand = 0 := by simp [Job.inHand, pulling]
    -- what has been obtained is in the hand of the task, so that nothing is ahead of it but what waits in the channel
    rw [State.obtains_pull hj pulling held, turn, List.count_singleton_self]
    refine .flowing (by rfl) (by simpa using there) room ?_ ?_
    · intro attached
      rw [kept attached, hhand]
      rfl
    · change n + 1 ≤ r + capacity + 1
      omega
  | @skip k _ _ pulling held turn =>
    obtain ⟨rfl, there, room, kept, bound⟩ := h.flowing_of_holds (k := k) (by simp [Job.stream?, pulling])
    rw [State.obtains_pull hj pulling held, turn]
    exact .flowing (by simp [Job.stream?, pulling]) (by simpa using there) room kept bound
  | @finish k _ later pulling held turn =>
    obtain ⟨rfl, there, room, kept, bound⟩ := h.flowing_of_holds (k := k) (by simp [Job.stream?, pulling])
    have hhand : j.inHand = 0 := by simp [Job.inHand, pulling]
    have hclosed := FrameStream.released_of_advance turn
    rw [State.obtains_pull hj pulling held, turn]
    refine .concluded (by rfl) (List.getElem?_set_self there) (of_decide_eq_true hclosed) room ?_ ?_
    · intro attached
      rw [List.count_nil, kept attached, hhand]
      rfl
    · rw [List.count_nil]
      omega
  | @astray k pulling held =>
    obtain ⟨-, there, -⟩ := h.flowing_of_holds (k := k) (by simp [Job.stream?, pulling])
    exact absurd there (Nat.not_lt.mpr (List.getElem?_eq_none_iff.mp held))
  | @send a stream sending attached empty =>
    cases stream with
    | none =>
      obtain ⟨rfl, rfl, -⟩ := h.unopened_of_idle (by simp [Job.stream?, Job.isDone, sending])
      exact .unopened (by rfl) fun undone => by cases undone
    | some k =>
      obtain ⟨rfl, there, room, kept, bound⟩ := h.flowing_of_holds (k := k) (by simp [Job.stream?, sending])
      have hhand : j.inHand = 1 := by simp [Job.inHand, sending]
      have hn := kept attached
      rw [empty, hhand, List.length_nil] at hn
      refine .flowing (by rfl) there ?_ ?_ ?_
      · simp [Job.reply, Job.moved, attached, empty, capacity]
      · intro _
        simpa [Job.reply, Job.moved, Job.inHand, attached, empty, State.obtains] using hn
      · simpa [Job.moved, Job.inHand, capacity, State.obtains] using Nat.le_of_eq hn
  | @giveUp k detached holds =>
    obtain ⟨rfl, there, room, -⟩ := h.flowing_of_holds holds
    obtain ⟨stream, hstream⟩ : ∃ stream, s.service.streams[k]? = some stream :=
      ⟨_, List.getElem?_eq_getElem there⟩
    have hclose : (s.service.close k).streams[k]? = some stream.close := by simp [Service.close, hstream]
    refine .concluded (by rfl) hclose (by rfl) room ?_ h.bounded
    intro attached
    exact absurd attached (by simp [Job.moved, detached])
  | giveUpUnopened detached sending =>
    obtain ⟨rfl, rfl, -⟩ := h.unopened_of_idle (by simp [Job.stream?, Job.isDone, sending])
    exact .unopened (by rfl) fun undone => by cases undone

theorem leaveQueue (h : Paced service j ks n r) (queued : j.stage = .queued) {stage : Stage}
    (next : stage = .taken ∨ stage = .lost) : Paced service (j.moved stage) ks n r := by
  obtain ⟨rfl, rfl, hr, hsent⟩ := h.unopened_of_idle (by simp [Job.stream?, Job.isDone, queued])
  rcases next with rfl | rfl
  · exact .unopened (by rfl) fun _ => ⟨hr, hsent⟩
  · exact .unopened (by rfl) fun undone => by cases undone

theorem receive (h : Paced service j ks n r) {a : Answer} {later : List Answer} (sent : j.sent = a :: later) :
    Paced service { j with sent := later } ks n (r + 1) := by
  have hlength : j.sent.length = later.length + 1 := by rw [sent, List.length_cons]
  cases h with
  | unopened free fresh =>
    refine .unopened free fun undone => ?_
    have hempty := (fresh undone).2
    rw [sent] at hempty
    cases hempty
  | flowing holds there room kept bound =>
    refine .flowing holds there ?_ ?_ ?_
    · change later.length ≤ capacity
      omega
    · intro attached
      have hn := kept attached
      change n = r + 1 + later.length + j.inHand
      omega
    · change n ≤ r + 1 + capacity + j.inHand
      omega
  | concluded finished there closed room kept bound =>
    refine .concluded finished there closed ?_ ?_ ?_
    · change later.length ≤ capacity
      omega
    · intro attached
      have hn := kept attached
      change n = r + 1 + later.length
      omega
    · omega

theorem detach (h : Paced service j ks n r) : Paced service { j with sent := [], attached := false } ks n r := by
  cases h with
  | unopened free fresh => exact .unopened free fun undone => ⟨(fresh undone).1, rfl⟩
  | flowing holds there room kept bound =>
    refine .flowing holds there (Nat.zero_le _) ?_ bound
    intro attached
    cases attached
  | concluded finished there closed room kept bound =>
    refine .concluded finished there closed (Nat.zero_le _) ?_ bound
    intro attached
    cases attached

end Paced

structure Paces (s : State) (opened : Nat → List Nat) (obtained : List Nat) (ds : List Delivery) : Prop where
  jobs : ∀ (i : Nat) (j : Job), s.jobs[i]? = some j → Paced s.service j (opened i) (obtained.count i) (received i ds).length
  untouched : ∀ i, s.jobs.length ≤ i → opened i = [] ∧ obtained.count i = 0 ∧ received i ds = []

namespace TaskStep

variable {s : State} {j j' : Job} {act : Nat → Move} {now : Service}

theorem opens_ne (h : TaskStep s.service j act now j') {i i' : Nat} (hne : i' ≠ i) :
    s.opens i' (.move (act i)) = [] := by
  cases h <;> simp [State.opens, Ne.symm hne]

theorem count_obtains_ne (h : TaskStep s.service j act now j') {i i' : Nat} (hne : i' ≠ i) :
    (s.obtains (.move (act i))).count i' = 0 := by
  cases h <;> simp only [State.obtains, List.count_nil]
  all_goals
    split
    · exact List.count_eq_zero.mpr (by simpa using hne)
    · exact List.count_nil

end TaskStep

namespace Paces

variable {s t : State} {opened : Nat → List Nat} {obtained : List Nat} {ds ds' : List Delivery} {i : Nat} {j j' : Job}

theorem setJob (h : Paces s opened obtained ds) (hj : s.jobs[i]? = some j)
    (hpaced : Paced s.service j' (opened i) (obtained.count i) (received i (ds ++ ds')).length)
    (hothers : ∀ i', i' ≠ i → received i' ds' = []) : Paces (s.setJob i j') opened obtained (ds ++ ds') where
  jobs i' j₁ hj₁ := by
    rcases State.getElem?_setJob_cases hj hj₁ with ⟨rfl, rfl⟩ | ⟨hne, hj₁⟩
    · exact hpaced
    · rw [received_append, hothers i' hne, List.append_nil]
      exact h.jobs i' j₁ hj₁
  untouched i' hi' := by
    have hlt := (List.getElem?_eq_some_iff.mp hj).1
    have hle : s.jobs.length ≤ i' := by simpa [State.setJob] using hi'
    obtain ⟨hopened, hobtained, hreceived⟩ := h.untouched i' hle
    refine ⟨hopened, hobtained, ?_⟩
    rw [received_append, hreceived, hothers i' (by omega)]
    rfl

theorem relabel (h : Paces s opened obtained ds) {f : Nat → Job → Job} (hservice : t.service = s.service)
    (hjobs : ∀ i, t.jobs[i]? = s.jobs[i]?.map (f i))
    (hpaced : ∀ i j ks n r, Paced s.service j ks n r → Paced s.service (f i j) ks n r) : Paces t opened obtained ds where
  jobs i j hj := by
    rw [hjobs] at hj
    obtain ⟨j₁, hj₁, rfl⟩ := Option.map_eq_some_iff.mp hj
    rw [hservice]
    exact hpaced i j₁ _ _ _ (h.jobs i j₁ hj₁)
  untouched i hi := by
    apply h.untouched
    have hnone := hjobs i
    rw [List.getElem?_eq_none hi, eq_comm, Option.map_eq_none_iff] at hnone
    exact List.getElem?_eq_none_iff.mp hnone

theorem task (h : Paces s opened obtained ds) (hj : s.jobs[i]? = some j) {act : Nat → Move} {now : Service}
    (step : TaskStep s.service j act now j') :
    Paces ((s.withService now).setJob i j') (fun i' => opened i' ++ s.opens i' (.move (act i)))
      (obtained ++ s.obtains (.move (act i))) ds where
  jobs i' j₁ hj₁ := by
    rw [List.count_append]
    rcases State.getElem?_setJob_cases (s := s.withService now) hj hj₁ with ⟨rfl, rfl⟩ | ⟨hne, hj₁⟩
    · exact (h.jobs i' j hj).task hj step
    · rw [step.opens_ne hne, step.count_obtains_ne hne, List.append_nil]
      exact (h.jobs i' j₁ hj₁).frame step
  untouched i' hi' := by
    have hlt := (List.getElem?_eq_some_iff.mp hj).1
    have hle : s.jobs.length ≤ i' := by simpa [State.setJob, State.withService] using hi'
    have hne : i' ≠ i := by omega
    obtain ⟨hopened, hobtained, hreceived⟩ := h.untouched i' hle
    rw [List.count_append, step.opens_ne hne, step.count_obtains_ne hne, hopened, hobtained]
    exact ⟨rfl, rfl, hreceived⟩

theorem submit (h : Paces s opened obtained ds) (command : Command) :
    Paces { s with jobs := s.jobs ++ [{ command }] } opened obtained ds where
  jobs i j hj := by
    rcases Consistent.getElem?_concat hj with hj | ⟨rfl, rfl⟩
    · exact h.jobs i j hj
    · obtain ⟨hopened, hobtained, hreceived⟩ := h.untouched _ (Nat.le_refl _)
      rw [hopened, hobtained, hreceived]
      exact .unopened rfl fun _ => ⟨rfl, rfl⟩
  untouched i hi := h.untouched i (by simp at hi; omega)

theorem happen (h : Paces s opened obtained ds) {e : Event} (he : s.happen e = some (ds', t)) :
    Paces t (fun i => opened i ++ s.opens i e) (obtained ++ s.obtains e) (ds ++ ds') := by
  cases s.happens he with
  | task hj step => simpa using h.task hj step
  | @take channel i j _ _ hj queued =>
    have hpaced := (h.jobs i j hj).leaveQueue queued (.inl rfl)
    rw [← List.append_nil ds] at hpaced
    simpa [State.opens, State.obtains] using h.setJob hj hpaced fun _ _ => rfl
  | @receive i j a later hj sent =>
    have hreceived : received i (ds ++ [⟨i, a⟩]) = received i ds ++ [a] := by simp [received]
    have hpaced := (h.jobs i j hj).receive sent
    simp only [State.opens, State.obtains, List.append_nil]
    refine h.setJob hj ?_ fun i' hne => by simp [received, Ne.symm hne]
    rw [hreceived, List.length_append]
    exact hpaced
  | shutDown =>
    simp only [State.opens, State.obtains, List.append_nil]
    refine h.relabel (f := fun _ j => if j.isQueued then j.moved .lost else j) rfl (fun i => List.getElem?_map) ?_
    intro i j ks n r hpaced
    split
    · next queued => exact hpaced.leaveQueue (Job.isQueued_iff.mp queued) (.inr rfl)
    · exact hpaced
  | @detach i =>
    simp only [State.opens, State.obtains, List.append_nil]
    refine h.relabel (f := fun i' j => if i = i' then { j with sent := [], attached := false } else j) rfl ?_ ?_
    · intro i'
      rw [State.detach, List.getElem?_modify]
      by_cases hne : i = i' <;> simp [hne]
    · intro i' j ks n r hpaced
      split
      · exact hpaced.detach
      · exact hpaced
  | submit => simpa [State.opens, State.obtains] using h.submit _
  | stop | askShutdown | dropHandle =>
    simp only [State.opens, State.obtains, List.append_nil]
    exact ⟨h.jobs, h.untouched⟩

theorem initial (service : Service) : Paces (State.initial service) (fun _ => []) [] [] where
  jobs := by simp [State.initial]
  untouched _ _ := ⟨rfl, rfl, rfl⟩

theorem history {service : Service} {events : List Event} (h : (State.initial service).history events = some (ds, s)) :
    Paces s (fun i => (State.initial service).opened i events) ((State.initial service).obtained events) ds := by
  refine State.history_induction (P := fun es ds t => Paces t (fun i => (State.initial service).opened i es)
    ((State.initial service).obtained es) ds) (initial service) ?_ h
  intro es ds t e ds' u hes he ht
  have hopened : (fun i => (State.initial service).opened i (es ++ [e])) =
      fun i => (State.initial service).opened i es ++ t.opens i e := by
    funext i
    exact State.logged_concat hes he
  rw [hopened, State.obtained, State.logged_concat hes he]
  exact ht.happen he

theorem pulled_eq {service : Service} {p : Past} (h : Paces s opened obtained ds) (hconsistent : Consistent service p s)
    (hj : s.jobs[i]? = some j) (full : obtained.count i = (received i ds).length + capacity + 1) {k : Nat}
    (hk : k ∈ opened i) {e : Event} (he : s.happen e = some (ds', t)) :
    (t.service.streams[k]?).map (·.pulled) = (s.service.streams[k]?).map (·.pulled) := by
  have hpaced := h.jobs i j hj
  obtain ⟨stream, hstream, hidle⟩ : ∃ stream, s.service.streams[k]? = some stream ∧
      (stream.phase = .closed ∨ j.stream? = some k ∧ j.stage ≠ .pulling k) := by
    generalize hopened : opened i = ks at hk hpaced
    rw [full] at hpaced
    cases hpaced with
    | flowing holds there room kept bound =>
      obtain rfl := List.mem_singleton.mp hk
      refine ⟨_, List.getElem?_eq_getElem there, .inr ⟨holds, ?_⟩⟩
      intro pulling
      have hhand : j.inHand = 0 := by simp [Job.inHand, pulling]
      omega
    | concluded finished there closed =>
      obtain rfl := List.mem_singleton.mp hk
      exact ⟨_, there, .inl closed⟩
  cases s.happens he with
  | @task act i' j₁ j' now hj₁ step =>
    obtain ⟨later, hlater, hpulled, -⟩ : ∃ later, now.streams[k]? = some later ∧ later.pulled = stream.pulled ∧
        (stream.phase = .closed → later.phase = .closed) := by
      refine step.pulled_eq hstream ?_
      rcases hidle with closed | ⟨holds, idle⟩
      · exact .inr closed
      · refine .inl fun pulling => ?_
        obtain rfl : i' = i := hconsistent.apart i' i j₁ j k hj₁ hj (by simp [Job.stream?, pulling]) holds
        obtain rfl := Option.some.inj (hj.symm.trans hj₁)
        exact idle pulling
    change (now.streams[k]?).map _ = _
    rw [hlater, hstream, Option.map_some, Option.map_some, hpulled]
  | _ => rfl

end Paces

namespace State

variable {service : Service} {events : List Event} {ds : List Delivery} {s : State} {i : Nat} {j : Job}

theorem exists_job_happen {t : State} {e : Event} {ds' : List Delivery} (hj : s.jobs[i]? = some j)
    (he : s.happen e = some (ds', t)) : ∃ j', t.jobs[i]? = some j' := by
  have hlength := congrArg List.length (map_command_happen he)
  have hlt := (List.getElem?_eq_some_iff.mp hj).1
  rw [List.length_append, List.length_map, List.length_map] at hlength
  exact ⟨_, List.getElem?_eq_getElem (show i < t.jobs.length by omega)⟩

theorem received_happen {t : State} {e : Event} {ds' : List Delivery} (he : s.happen e = some (ds', t))
    (hne : e ≠ .receive i) : received i ds' = [] := by
  cases s.happens he with
  | @receive i' =>
    have hi : i' ≠ i := fun heq => hne (congrArg Event.receive heq)
    simp [received, hi]
  | _ => rfl

structure Halts (service : Service) (i : Nat) (events : List Event) (ds : List Delivery) (s : State) (more : List Event)
    (ds' : List Delivery) (t : State) : Prop where
  history : (initial service).history (events ++ more) = some (ds ++ ds', t)
  job : ∃ j, t.jobs[i]? = some j
  received : received i ds' = []
  obtained : ((initial service).obtained (events ++ more)).count i = ((initial service).obtained events).count i
  opened : ∀ k ∈ (initial service).opened i events, k ∈ (initial service).opened i (events ++ more)
  pulled : ∀ k ∈ (initial service).opened i events,
    (t.service.streams[k]?).map (·.pulled) = (s.service.streams[k]?).map (·.pulled)

theorem Halts.happen {more : List Event} {ds' ds'' : List Delivery} {t u : State} {e : Event}
    (h : Halts service i events ds s more ds' t)
    (full : ((initial service).obtained events).count i = (Backend.received i ds).length + capacity + 1)
    (he : t.happen e = some (ds'', u)) (hne : e ≠ .receive i) :
    Halts service i events ds s (more ++ [e]) (ds' ++ ds'') u := by
  obtain ⟨j, hj⟩ := h.job
  obtain ⟨j', hj'⟩ := exists_job_happen hj he
  have hreceived : Backend.received i (ds' ++ ds'') = [] := by
    rw [received_append, h.received, received_happen he hne]
    rfl
  have hhistory : (initial service).history (events ++ (more ++ [e])) = some (ds ++ (ds' ++ ds''), u) := by
    rw [← List.append_assoc, history_concat]
    exact ⟨_, t, ds'', h.history, he, (List.append_assoc _ _ _).symm⟩
  have hobtained : (initial service).obtained (events ++ (more ++ [e])) =
      (initial service).obtained (events ++ more) ++ t.obtains e := by
    rw [← List.append_assoc]
    exact logged_concat h.history he
  have hopened : (initial service).opened i (events ++ (more ++ [e])) =
      (initial service).opened i (events ++ more) ++ t.opens i e := by
    rw [← List.append_assoc]
    exact logged_concat h.history he
  have hcount : ((initial service).obtained (events ++ more)).count i =
      (Backend.received i (ds ++ ds')).length + capacity + 1 := by
    rw [h.obtained, full, received_append, h.received, List.append_nil]
  have hbound := ((Paces.history hhistory).jobs i j' hj').bounded
  rw [received_append, hreceived, List.append_nil, hobtained, List.count_append] at hbound
  refine ⟨hhistory, ⟨j', hj'⟩, hreceived, ?_, ?_, ?_⟩
  · have hbefore := h.obtained
    rw [hobtained, List.count_append]
    omega
  · intro k hk
    rw [hopened]
    exact List.mem_append_left _ (h.opened k hk)
  · intro k hk
    have hsame := (Paces.history h.history).pulled_eq (Consistent.history h.history) hj hcount (h.opened k hk) he
    exact hsame.trans (h.pulled k hk)

theorem halts (h : (initial service).history events = some (ds, s)) (hj : s.jobs[i]? = some j)
    (full : ((initial service).obtained events).count i = (received i ds).length + capacity + 1) {more : List Event}
    {ds' : List Delivery} {t : State} (idle : .receive i ∉ more) (hmore : s.history more = some (ds', t)) :
    Halts service i events ds s more ds' t := by
  refine history_induction (P := fun more ds' t => .receive i ∉ more → Halts service i events ds s more ds' t)
    ?_ ?_ hmore idle
  · intro _
    refine ⟨?_, ⟨j, hj⟩, rfl, ?_, ?_, fun _ _ => rfl⟩
    · rw [List.append_nil, List.append_nil]
      exact h
    · rw [List.append_nil]
    · rw [List.append_nil]
      exact fun _ hk => hk
  · intro more ds' t e ds'' u _ he ht hidle
    rw [List.mem_append, List.mem_singleton, not_or] at hidle
    exact (ht hidle.1).happen full he (Ne.symm hidle.2)

/-- Whatever happens: a task has never got more than two answers of its stream beyond those that have been received, one
that waits in the reply channel and one that the task has in hand. Where it has got two, nothing more is taken from
its stream as long as none is received. And when it has ended, however that came, its stream has been given up. -/
theorem production_follows_consumption (h : (initial service).history events = some (ds, s)) (hj : s.jobs[i]? = some j) :
    ((initial service).obtained events).count i ≤ (received i ds).length + 2 ∧
      (j.attached = true → (initial service).opened i events ≠ [] →
        ((initial service).obtained events).count i = (received i ds).length + j.sent.length + j.inHand ∧
          j.sent.length ≤ 1 ∧ j.inHand ≤ 1) ∧
      (((initial service).obtained events).count i = (received i ds).length + 2 →
        ∀ more ds' t, .receive i ∉ more → s.history more = some (ds', t) →
          ((initial service).obtained (events ++ more)).count i = ((initial service).obtained events).count i ∧
            ∀ k ∈ (initial service).opened i events,
              (t.service.streams[k]?).map (·.pulled) = (s.service.streams[k]?).map (·.pulled)) ∧
      (j.isDone = true → ∀ k ∈ (initial service).opened i events,
        ∃ stream, s.service.streams[k]? = some stream ∧ stream.released = true) := by
  have hpaced := (Paces.history h).jobs i j hj
  refine ⟨hpaced.bounded, ?_, ?_, ?_⟩
  · intro attached hopened
    obtain ⟨hahead, hroom⟩ := hpaced.ahead_eq attached hopened
    exact ⟨hahead, hroom, j.inHand_le⟩
  · intro full more ds' t idle hmore
    have hhalts := halts h hj full idle hmore
    exact ⟨hhalts.obtained, hhalts.pulled⟩
  · intro done k hk
    exact hpaced.released done hk

def unread : List Event :=
  [.submit (.streamText "x" {}), .move (.take .streamText), .move (.begin 0), .move (.respond 0), .move (.pull 0),
    .move (.send 0), .move (.pull 0)]

theorem unread_halts :
    ∃ ds s, (initial twoFrames).history unread = some (ds, s) ∧ ((initial twoFrames).obtained unread).count 0 = 2 ∧
      (∀ more ds' t, .receive 0 ∉ more → s.history more = some (ds', t) →
        (t.service.streams[0]?).map (·.pulled) = some 2) ∧
      ∃ ds' t, s.history [.detach 0, .move (.giveUp 0)] = some (ds', t) ∧
        ∃ stream, t.service.streams[0]? = some stream ∧ stream.released = true := by
  have h : (initial twoFrames).history unread = some (_, _) := rfl
  have hdropped : (initial twoFrames).history (unread ++ [.detach 0, .move (.giveUp 0)]) = some (_, _) := rfl
  obtain ⟨-, -, hhalts, -⟩ := production_follows_consumption (i := 0) h rfl
  obtain ⟨-, -, -, hreleased⟩ := production_follows_consumption (i := 0) hdropped rfl
  refine ⟨_, _, h, by decide, ?_, _, _, rfl, hreleased rfl 0 (by decide)⟩
  intro more ds' t idle hmore
  exact (hhalts (by decide) more ds' t idle hmore).2 0 (by decide)

end State

end Backend

end ChatGateway
