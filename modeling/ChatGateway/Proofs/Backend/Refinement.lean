import ChatGateway.Proofs.Backend.Faithful
import Mathlib.Data.List.Nodup

namespace ChatGateway.Backend

def RequestOf (b : Binding) (jobs : List Job) (i : Nat) (request : ChatRequest) : Prop :=
  ∃ j, jobs[i]? = some j ∧ j.request? b = .ok request

structure Consistent (service : Service) (p : Past) (s : State) : Prop where
  binding : s.service.binding = service.binding
  provider : s.service.provider = service.provider
  requests : ∃ added, s.service.requests = service.requests ++ added ∧
    List.Forall₂ (RequestOf service.binding s.jobs) p.sent added
  nodup : p.sent.Nodup
  untouched : ∀ i, s.jobs.length ≤ i → p.Untouched i
  apart : ∀ (i i' : Nat) (j j' : Job) (k : Nat), s.jobs[i]? = some j → s.jobs[i']? = some j' →
    j.stream? = some k → j'.stream? = some k → i = i'
  jobs : ∀ (i : Nat) (j : Job), s.jobs[i]? = some j → Faithful service p s.service i j

namespace Consistent

variable {service : Service} {p : Past} {s : State} {i : Nat} {j j' : Job}

theorem initial (service : Service) : Consistent service .start (.initial service) where
  binding := rfl
  provider := rfl
  requests := ⟨[], (List.append_nil _).symm, .nil⟩
  nodup := List.nodup_nil
  untouched _ _ := ⟨rfl, List.not_mem_nil, List.not_mem_nil⟩
  apart _ _ _ _ _ h := by simp [State.initial] at h
  jobs _ _ h := by simp [State.initial] at h

theorem stream_exists (h : Consistent service p s) (hj : s.jobs[i]? = some j) {k : Nat} (hk : j.stream? = some k) :
    ∃ stream, s.service.streams[k]? = some stream := by
  unfold Job.stream? at hk
  -- A task that holds a stream has begun, and what it has left to send is read off that stream.
  obtain ⟨left, hleft⟩ := (h.jobs i j hj).exists_left (fun stage => by simp [stage] at hk)
    (fun stage => by simp [stage] at hk) (fun stage => by simp [stage] at hk)
  cases hstage : j.stage <;> simp only [hstage, reduceCtorEq, Option.some.injEq] at hk
  case pulling m =>
    subst hk
    rw [hstage] at hleft
    exact (Option.map_eq_some_iff.mp hleft).imp fun _ => And.left
  case sending a stream =>
    subst hk
    rw [hstage] at hleft
    exact (Option.map_eq_some_iff.mp hleft).imp fun _ => And.left

theorem length_requests (h : Consistent service p s) :
    s.service.requests.length = service.requests.length + p.sent.length := by
  obtain ⟨added, heq, hall⟩ := h.requests
  rw [heq, List.length_append, hall.length_eq]

structure Touches (service : Service) (p : Past) (s : State) (i : Nat) (j j' : Job) (now : Service)
    (ds : List Delivery) (taken sent : List Nat) : Prop where
  command : j'.command = j.command
  binding : now.binding = s.service.binding
  provider : now.provider = s.service.provider
  others : ∀ i', i' ≠ i → received i' ds = [] ∧ i' ∉ taken ∧ i' ∉ sent
  requests : sent = [] ∧ now.requests = s.service.requests ∨
    sent = [i] ∧ i ∉ p.sent ∧ ∃ request, j.request? service.binding = .ok request ∧
      now.requests = s.service.requests ++ [request]
  stream? : ∀ k, j'.stream? = some k → j.stream? = some k ∨ k = s.service.streams.length
  streams : ∀ k stream, j.stream? ≠ some k → s.service.streams[k]? = some stream → now.streams[k]? = some stream
  job : Faithful service (p.extend ds taken sent) now i j'

theorem requests_touch (h : Consistent service p s) (hj : s.jobs[i]? = some j) {now : Service} {ds : List Delivery}
    {taken sent : List Nat} (ht : Touches service p s i j j' now ds taken sent) :
    ∃ added, now.requests = service.requests ++ added ∧
      List.Forall₂ (RequestOf service.binding (s.jobs.set i j')) (p.sent ++ sent) added := by
  have hi := (List.getElem?_eq_some_iff.mp hj).1
  have hrequest : j'.request? service.binding = j.request? service.binding := by
    rw [Job.request?, Job.request?, ht.command]
  obtain ⟨added, heq, hall⟩ := h.requests
  have hall' : List.Forall₂ (RequestOf service.binding (s.jobs.set i j')) p.sent added := by
    refine hall.imp ?_
    rintro i' request ⟨k, hk, hmade⟩
    by_cases hne : i = i'
    · subst hne
      obtain rfl := Option.some.inj (hj.symm.trans hk)
      exact ⟨j', by simp [hi], hrequest.trans hmade⟩
    · exact ⟨k, by rw [List.getElem?_set_ne hne, hk], hmade⟩
  rcases ht.requests with ⟨rfl, hsame⟩ | ⟨rfl, -, request, hmade, hnew⟩
  · exact ⟨added, hsame.trans heq, by rwa [List.append_nil]⟩
  · refine ⟨added ++ [request], by rw [hnew, heq, List.append_assoc], List.rel_append hall' (.cons ⟨j', ?_, ?_⟩ .nil)⟩
    · simp [hi]
    · exact hrequest.trans hmade

theorem apart_touch (h : Consistent service p s) (hj : s.jobs[i]? = some j) {now : Service} {ds : List Delivery}
    {taken sent : List Nat} (ht : Touches service p s i j j' now ds taken sent) {i' : Nat} (hne : i' ≠ i) {j₁ : Job}
    (hj₁ : s.jobs[i']? = some j₁) {k : Nat} (hk : j'.stream? = some k) : j₁.stream? ≠ some k := by
  intro hk₁
  rcases ht.stream? k hk with hold | rfl
  · exact hne (h.apart i' i j₁ j k hj₁ hj hk₁ hold)
  · obtain ⟨stream, hstream⟩ := h.stream_exists hj₁ hk₁
    simp at hstream

theorem touch (h : Consistent service p s) (hj : s.jobs[i]? = some j) {now : Service} {ds : List Delivery}
    {taken sent : List Nat} (ht : Touches service p s i j j' now ds taken sent) :
    Consistent service (p.extend ds taken sent) ((s.withService now).setJob i j') where
  binding := ht.binding.trans h.binding
  provider := ht.provider.trans h.provider
  requests := h.requests_touch hj ht
  nodup := by
    rcases ht.requests with ⟨rfl, -⟩ | ⟨rfl, hi, -⟩
    · simpa [Past.extend] using h.nodup
    · exact List.Nodup.append h.nodup (List.nodup_singleton i) (by simpa using hi)
  untouched i' hi' := by
    have hlt := (List.getElem?_eq_some_iff.mp hj).1
    have hle : s.jobs.length ≤ i' := by simpa [State.setJob, State.withService] using hi'
    obtain ⟨hds, htaken, hsent⟩ := ht.others i' (by omega)
    exact Past.untouched_extend (h.untouched i' hle) hds htaken hsent
  apart i₁ i₂ j₁ j₂ k h₁ h₂ hk₁ hk₂ := by
    have hset : ∀ i', i' ≠ i → (s.jobs.set i j')[i']? = s.jobs[i']? := fun i' hne => List.getElem?_set_ne (Ne.symm hne)
    have hself : (s.jobs.set i j')[i]? = some j' := by simp [(List.getElem?_eq_some_iff.mp hj).1]
    change (s.jobs.set i j')[i₁]? = some j₁ at h₁
    change (s.jobs.set i j')[i₂]? = some j₂ at h₂
    by_cases hi₁ : i₁ = i <;> by_cases hi₂ : i₂ = i
    · exact hi₁.trans hi₂.symm
    · subst hi₁
      rw [hset i₂ hi₂] at h₂
      obtain rfl := Option.some.inj (hself.symm.trans h₁)
      exact absurd hk₂ (h.apart_touch hj ht hi₂ h₂ hk₁)
    · subst hi₂
      rw [hset i₁ hi₁] at h₁
      obtain rfl := Option.some.inj (hself.symm.trans h₂)
      exact absurd hk₁ (h.apart_touch hj ht hi₁ h₁ hk₂)
    · rw [hset i₁ hi₁] at h₁
      rw [hset i₂ hi₂] at h₂
      exact h.apart i₁ i₂ j₁ j₂ k h₁ h₂ hk₁ hk₂
  jobs i' j₁ h₁ := by
    by_cases hne : i' = i
    · subst hne
      obtain rfl : j' = j₁ := by simpa [State.setJob, State.withService, (List.getElem?_eq_some_iff.mp hj).1] using h₁
      exact ht.job
    · rw [State.setJob, List.getElem?_set_ne (Ne.symm hne)] at h₁
      obtain ⟨hds, htaken, hsent⟩ := ht.others i' hne
      refine (h.jobs i' j₁ h₁).frame hds htaken hsent fun k stream hk hstream => ?_
      exact ht.streams k stream (fun hold => hne (h.apart i' i j₁ j k h₁ hj hk hold)) hstream

theorem touches_task (h : Consistent service p s) (hj : s.jobs[i]? = some j) {act : Nat → Move} {now : Service}
    (step : TaskStep s.service j act now j') :
    Touches service p s i j j' now [] (s.takes (.move (act i))) (s.sends (.move (act i))) := by
  have htakes : s.takes (.move (act i)) = [] := step.takes_eq i
  have hjob := h.jobs i j hj
  refine ⟨step.command_eq, step.binding_eq, step.provider_eq, ?_, ?_, fun k => step.stream?_eq,
    fun k stream => step.getElem?_streams, ?_⟩
  · intro i' hne
    rcases step.sends_eq hj with ⟨hsends, -⟩ | ⟨hsends, -⟩ <;> simp [htakes, hsends, received, hne]
  · rcases step.sends_eq hj with ⟨hsends, hsame⟩ | ⟨hsends, request, taken, made, hnew, -⟩
    · exact .inl ⟨hsends, hsame⟩
    · exact .inr ⟨hsends, hjob.unasked taken, request, h.binding ▸ made, hnew⟩
  · rw [htakes]
    rcases step.sends_eq hj with ⟨hsends, hsame⟩ | ⟨hsends, request, taken, made, hnew, rfl⟩ <;> rw [hsends]
    · rw [Past.extend_nil]
      exact hjob.step h.binding step hsame
    · rw [h.provider]
      exact hjob.request taken (h.binding ▸ made) h.length_requests

theorem touch_job (h : Consistent service p s) (hj : s.jobs[i]? = some j) {ds : List Delivery} {taken : List Nat}
    (hcommand : j'.command = j.command) (hstream : ∀ k, j'.stream? = some k → j.stream? = some k)
    (hothers : ∀ i', i' ≠ i → received i' ds = [] ∧ i' ∉ taken)
    (hjob : Faithful service (p.extend ds taken []) s.service i j') :
    Consistent service (p.extend ds taken []) (s.setJob i j') := by
  have ht : Touches service p s i j j' s.service ds taken [] := by
    refine ⟨hcommand, rfl, rfl, ?_, .inl ⟨rfl, rfl⟩, fun k hk => .inl (hstream k hk), fun _ _ _ hk => hk, hjob⟩
    intro i' hne
    exact ⟨(hothers i' hne).1, (hothers i' hne).2, List.not_mem_nil⟩
  exact h.touch hj ht

theorem relabel (h : Consistent service p s) {t : State} {f : Nat → Job → Job} (hservice : t.service = s.service)
    (hjobs : ∀ i, t.jobs[i]? = s.jobs[i]?.map (f i)) (hcommand : ∀ i j, (f i j).command = j.command)
    (hstream : ∀ i j, (f i j).stream? = j.stream?)
    (hjob : ∀ i j, Faithful service p s.service i j → Faithful service p s.service i (f i j)) :
    Consistent service p t where
  binding := hservice ▸ h.binding
  provider := hservice ▸ h.provider
  requests := by
    obtain ⟨added, heq, hall⟩ := h.requests
    refine ⟨added, hservice ▸ heq, hall.imp ?_⟩
    rintro i request ⟨j, hj, hmade⟩
    refine ⟨f i j, by rw [hjobs, hj, Option.map_some], ?_⟩
    rw [Job.request?, hcommand]
    exact hmade
  nodup := h.nodup
  untouched i hi := by
    apply h.untouched
    have hnone := hjobs i
    rw [List.getElem?_eq_none hi, eq_comm, Option.map_eq_none_iff] at hnone
    exact List.getElem?_eq_none_iff.mp hnone
  apart i i' j j' k hj hj' hk hk' := by
    rw [hjobs] at hj hj'
    obtain ⟨j₁, hj₁, rfl⟩ := Option.map_eq_some_iff.mp hj
    obtain ⟨j₂, hj₂, rfl⟩ := Option.map_eq_some_iff.mp hj'
    rw [hstream] at hk hk'
    exact h.apart i i' j₁ j₂ k hj₁ hj₂ hk hk'
  jobs i j hj := by
    rw [hjobs] at hj
    obtain ⟨j₁, hj₁, rfl⟩ := Option.map_eq_some_iff.mp hj
    rw [hservice]
    exact hjob i j₁ (h.jobs i j₁ hj₁)

theorem congr (h : Consistent service p s) {t : State} (hservice : t.service = s.service) (hjobs : t.jobs = s.jobs) :
    Consistent service p t :=
  h.relabel (f := fun _ j => j) hservice (by simp [hjobs]) (fun _ _ => rfl) (fun _ _ => rfl) fun _ _ hj => hj

theorem getElem?_concat {jobs : List Job} (h : (jobs ++ [j'])[i]? = some j) :
    jobs[i]? = some j ∨ i = jobs.length ∧ j = j' := by
  rw [List.getElem?_append] at h
  split at h
  · exact .inl h
  · obtain ⟨hlt, heq⟩ := List.getElem?_eq_some_iff.mp h
    rw [List.length_singleton] at hlt
    exact .inr ⟨by omega, by simpa using heq.symm⟩

theorem submit (h : Consistent service p s) (command : Command) :
    Consistent service p { s with jobs := s.jobs ++ [{ command }] } where
  binding := h.binding
  provider := h.provider
  requests := by
    obtain ⟨added, heq, hall⟩ := h.requests
    refine ⟨added, heq, hall.imp ?_⟩
    rintro i request ⟨j, hj, hmade⟩
    refine ⟨j, ?_, hmade⟩
    rw [List.getElem?_append_left (List.getElem?_eq_some_iff.mp hj).1]
    exact hj
  nodup := h.nodup
  untouched i hi := h.untouched i (by simp at hi; omega)
  apart i i' j j' k hj hj' hk hk' := by
    have hold : ∀ (i : Nat) (j : Job), (s.jobs ++ [({ command } : Job)])[i]? = some j → j.stream? = some k →
        s.jobs[i]? = some j := by
      intro i j hj hk
      rcases getElem?_concat hj with hj | ⟨-, rfl⟩
      · exact hj
      · simp [Job.stream?] at hk
    exact h.apart i i' j j' k (hold i j hj hk) (hold i' j' hj' hk') hk hk'
  jobs i j hj := by
    rcases getElem?_concat hj with hj | ⟨rfl, rfl⟩
    · exact h.jobs i j hj
    · exact .waiting (.inl rfl) (h.untouched _ (Nat.le_refl _)) rfl

theorem step (h : Consistent service p s) {e : Event} {ds : List Delivery} {t : State}
    (he : s.happen e = some (ds, t)) : Consistent service (p.extend ds (s.takes e) (s.sends e)) t := by
  cases s.happens he with
  | @take channel i j running first hj queued =>
    have htakes : s.takes (.move (.take channel)) = [i] := by rw [State.takes, first]; rfl
    rw [htakes]
    refine h.touch_job hj rfl (fun k hk => ?_) (fun i' hne => ⟨rfl, by simpa using hne⟩) ((h.jobs i j hj).take queued)
    simp [Job.stream?, Job.moved] at hk
  | shutDown =>
    simp only [State.takes, State.sends, Past.extend_nil]
    refine h.relabel (f := fun _ j => if j.isQueued then j.moved .lost else j) rfl (fun i => List.getElem?_map) ?_ ?_ ?_
    · intro i j
      split <;> rfl
    · intro i j
      split
      · next queued => simp [Job.stream?, Job.moved, Job.isQueued_iff.mp queued]
      · rfl
    · intro i j hj
      split
      · next queued => exact hj.lose (Job.isQueued_iff.mp queued)
      · exact hj
  | stop =>
    simp only [State.takes, State.sends, Past.extend_nil]
    exact h.congr rfl rfl
  | task hj step => exact h.touch hj (h.touches_task hj step)
  | @submit command =>
    simp only [State.takes, State.sends, Past.extend_nil]
    exact h.submit command
  | @receive i j a later hj sent =>
    refine h.touch_job hj rfl (fun k hk => hk) (fun i' hne => ⟨?_, List.not_mem_nil⟩) ((h.jobs i j hj).receive sent)
    simp [received, Ne.symm hne]
  | @detach i =>
    simp only [State.takes, State.sends, Past.extend_nil]
    refine h.relabel (f := fun i' j => if i = i' then { j with sent := [], attached := false } else j) rfl ?_ ?_ ?_ ?_
    · intro i'
      rw [State.detach, List.getElem?_modify]
      by_cases hne : i = i' <;> simp [hne]
    · intro i' j
      split <;> rfl
    · intro i' j
      split <;> rfl
    · intro i' j hj
      split
      · exact hj.detach
      · exact hj
  | askShutdown =>
    simp only [State.takes, State.sends, Past.extend_nil]
    exact h.congr rfl rfl
  | dropHandle =>
    simp only [State.takes, State.sends, Past.extend_nil]
    exact h.congr rfl rfl

theorem history {events : List Event} {ds : List Delivery}
    (h : (State.initial service).history events = some (ds, s)) :
    Consistent service ⟨ds, (State.initial service).taken events, (State.initial service).sent events⟩ s := by
  refine State.history_induction (P := fun es ds t => Consistent service
    ⟨ds, (State.initial service).taken es, (State.initial service).sent es⟩ t) (initial service) ?_ h
  intro es ds t e ds' u hes he ht
  rw [State.taken, State.sent, State.logged_concat hes he, State.logged_concat hes he]
  exact ht.step he

theorem length_take_requests (h : Consistent service p s) (i : Nat) :
    (s.service.requests.take (p.place service i)).length = p.place service i := by
  have hle : p.sent.idxOf i ≤ p.sent.length := List.idxOf_le_length
  rw [List.length_take, h.length_requests, Past.place]
  omega

theorem script_direct (h : Consistent service p s) (i : Nat) (c : Command) :
    script (service.after (s.service.requests.take (p.place service i)))
        (service.after (s.service.requests.take (p.place service i))).requests.length c =
      script service (p.place service i) c := by
  rw [Service.after, h.length_take_requests]
  rfl

theorem begins (h : Consistent service p s) (hj : s.jobs[i]? = some j) :
    (service.after (s.service.requests.take (p.place service i))).Begins j.command (p.received i) := by
  apply begins_of_prefix_script
  rw [h.script_direct]
  cases h.jobs i j hj with
  | waiting _ untouched _ =>
    rw [untouched.1]
    exact List.nil_prefix
  | taken _ unreceived _ _ =>
    rw [unreceived]
    exact List.nil_prefix
  | begun _ _ first _ => exact (List.prefix_append _ _).trans first

theorem concludes (h : Consistent service p s) (hj : s.jobs[i]? = some j) (closed : j.HungUp) (taken : i ∈ p.taken) :
    (service.after (s.service.requests.take (p.place service i))).Concludes j.command (p.received i) := by
  obtain ⟨attached, drained, done⟩ := closed
  apply concludes_of_script
  rw [h.script_direct]
  unfold Job.isDone at done
  cases h.jobs i j hj with
  | waiting _ untouched _ => exact absurd taken untouched.2.1
  | taken stage _ _ _ => simp [stage] at done
  | begun left_eq _ _ all =>
    obtain ⟨hall, hends⟩ := all attached
    cases hstage : j.stage <;> simp only [hstage, left?, Bool.false_eq_true, reduceCtorEq, Option.some.injEq] at done left_eq
    obtain rfl := left_eq
    rw [drained, List.append_nil, List.append_nil] at hall
    exact Prod.ext hall.symm hends.symm

end Consistent

namespace State

theorem map_command_history {service : Service} {events : List Event} {ds : List Delivery} {s : State}
    (h : (initial service).history events = some (ds, s)) :
    s.jobs.map Job.command = events.filterMap Event.command? := by
  refine history_induction (P := fun es _ t => t.jobs.map Job.command = es.filterMap Event.command?) rfl ?_ h
  intro es ds t e ds' u _ he ht
  rw [map_command_happen he, ht, List.filterMap_append]
  cases e <;> rfl

/-- Whatever happens, and in whatever order: the commands are those that were given; those that send a request send
their own, and once; what is received for each is what its direct call begins with, had it been made after the same
requests; and a receiver that is still there sees its channel closed before it has the whole of that only if the
command was never taken. -/
theorem history_refines_direct {service : Service} {events : List Event} {ds : List Delivery} {s : State}
    (h : (initial service).history events = some (ds, s)) :
    s.jobs.map Job.command = events.filterMap Event.command? ∧
    ((initial service).sent events).Nodup ∧
    (∃ added, s.service.requests = service.requests ++ added ∧
      List.Forall₂ (RequestOf service.binding s.jobs) ((initial service).sent events) added) ∧
    ∀ (i : Nat) (j : Job), s.jobs[i]? = some j →
      let place := service.requests.length + ((initial service).sent events).idxOf i
      let direct := service.after (s.service.requests.take place)
      direct.Begins j.command (received i ds) ∧
      (j.HungUp → i ∈ (initial service).taken events → direct.Concludes j.command (received i ds)) := by
  have hconsistent := Consistent.history h
  refine ⟨map_command_history h, hconsistent.nodup, hconsistent.requests, fun i j hj => ⟨?_, ?_⟩⟩
  · exact hconsistent.begins hj
  · exact hconsistent.concludes hj

def twoFrames : Service where
  binding := ⟨"model", "key", .openAI, none, none, none⟩
  provider
    | 0, _ => .stream [.ok ⟨[⟨0, none, some "a"⟩]⟩, .ok ⟨[⟨0, none, some "b"⟩]⟩] false
    | _, _ => .reply (.ok ⟨[⟨0, none, some "c", none⟩], none⟩)

def turns : List Event :=
  [.submit (.completeText "x" {}), .submit (.streamText "y" {}), .move (.take .streamText), .move (.take .completeText),
    .move (.begin 1), .move (.begin 0), .move (.respond 1), .move (.pull 1), .move (.respond 0), .move (.send 1),
    .receive 0, .move (.pull 1), .receive 1, .askShutdown, .move (.send 1), .move .shutDown, .receive 1, .move (.pull 1)]

theorem turns_refine_direct :
    ∃ ds s, (initial twoFrames).history turns = some (ds, s) ∧
      received 1 ds = [.frame (.text "a"), .frame (.text "b")] ∧
      (twoFrames.after []).Concludes (.streamText "y" {}) (received 1 ds) ∧
      (twoFrames.after (s.service.requests.take 1)).Concludes (.completeText "x" {}) (received 0 ds) := by
  have h : (initial twoFrames).history turns = some (_, _) := rfl
  obtain ⟨-, -, -, hall⟩ := history_refines_direct h
  refine ⟨_, _, h, rfl, ?_, ?_⟩
  · exact (hall 1 _ rfl).2 ⟨rfl, rfl, rfl⟩ (by decide)
  · exact (hall 0 _ rfl).2 ⟨rfl, rfl, rfl⟩ (by decide)

end State

end ChatGateway.Backend
