import ChatGateway.Backend.Run
import ChatGateway.Proofs.Service.Requests

namespace ChatGateway.Backend

namespace Job

def stream? (j : Job) : Option Nat :=
  match j.stage with
  | .pulling k => some k
  | .sending _ stream => stream
  | _ => none

def request? (b : Binding) (j : Job) : Except Refusal ChatRequest :=
  ChatRequest.make? b j.command.call.messages j.command.call.settings j.command.channel.streamed

end Job

inductive TaskStep (service : Service) (j : Job) : (Nat → Move) → Service → Job → Prop
  | request {request : ChatRequest} (taken : j.stage = .taken) (made : j.request? service.binding = .ok request) :
    TaskStep service j .begin { service with requests := service.requests ++ [request] }
      (j.moved (.calling (service.provider service.requests.length request)))
  | refuseStream {refusal : Refusal} (taken : j.stage = .taken) (made : j.request? service.binding = .error refusal)
      (streamed : j.command.channel.streamed = true) :
    TaskStep service j .begin service (j.moved (.sending (.failure (.refused refusal)) none))
  | refuse {refusal : Refusal} (taken : j.stage = .taken) (made : j.request? service.binding = .error refusal)
      (blocking : j.command.channel.streamed = false) :
    TaskStep service j .begin service ((j.reply (.failure (.refused refusal))).moved .finished)
  | openStream {response : Response} {items : List EventStream.Item} {stalls : Bool}
      (calling : j.stage = .calling response) (streamed : j.command.channel.streamed = true)
      (opened : response.opened = .ok (items, stalls)) :
    TaskStep service j .respond
      { service with
        streams := service.streams ++
          [{ numberOfResponses := j.command.call.settings.numberOfResponses, items, stalls }] }
      (j.moved (.pulling service.streams.length))
  | failToOpen {response : Response} {fault : Fault} (calling : j.stage = .calling response)
      (streamed : j.command.channel.streamed = true) (opened : response.opened = .error fault) :
    TaskStep service j .respond service (j.moved (.sending (.failure (.callFailed fault)) none))
  | conclude {response : Response} {answer : Except Failure Completion} {service' : Service}
      (calling : j.stage = .calling response) (blocking : j.command.channel.streamed = false)
      (concluded : service.conclude response = some (answer, service')) :
    TaskStep service j .respond service' ((j.reply (.ofCompletion answer)).moved .finished)
  | pull {k : Nat} {stream stream' : FrameStream} {a : Except Failure Frame} (pulling : j.stage = .pulling k)
      (held : service.streams[k]? = some stream) (turn : stream.advance = (.answer a, stream')) :
    TaskStep service j .pull { service with streams := service.streams.set k stream' }
      (j.moved (.sending (.ofFrame a) (some k)))
  | skip {k : Nat} {stream stream' : FrameStream} (pulling : j.stage = .pulling k)
      (held : service.streams[k]? = some stream) (turn : stream.advance = (.skipped, stream')) :
    TaskStep service j .pull { service with streams := service.streams.set k stream' } j
  | finish {k : Nat} {stream stream' : FrameStream} (pulling : j.stage = .pulling k)
      (held : service.streams[k]? = some stream) (turn : stream.advance = (.ended, stream')) :
    TaskStep service j .pull { service with streams := service.streams.set k stream' } (j.moved .finished)
  | astray {k : Nat} (pulling : j.stage = .pulling k) (held : service.streams[k]? = none) :
    TaskStep service j .pull service (j.moved .finished)
  | send {a : Answer} {stream : Option Nat} (sending : j.stage = .sending a stream) (attached : j.attached = true)
      (room : j.sent = []) :
    TaskStep service j .send service ((j.reply a).moved (stream.elim .finished .pulling))
  | giveUp {k : Nat} (detached : j.attached = false) (held : j.stream? = some k) :
    TaskStep service j .giveUp (service.close k) (j.moved .finished)
  | giveUpUnopened {a : Answer} (detached : j.attached = false) (sending : j.stage = .sending a none) :
    TaskStep service j .giveUp service (j.moved .finished)

namespace Job

@[simp] theorem command_reply (j : Job) (a : Answer) : (j.reply a).command = j.command := by
  unfold reply
  split <;> rfl

end Job

namespace TaskStep

variable {service service' : Service} {j j' : Job} {act : Nat → Move}

theorem binding_eq (h : TaskStep service j act service' j') : service'.binding = service.binding := by
  cases h with
  | conclude _ _ concluded => exact (Service.conclude_frame concluded).1
  | _ => rfl

theorem provider_eq (h : TaskStep service j act service' j') : service'.provider = service.provider := by
  cases h with
  | conclude _ _ concluded => exact (Service.conclude_frame concluded).2.1
  | _ => rfl

theorem command_eq (h : TaskStep service j act service' j') : j'.command = j.command := by
  cases h <;> simp [Job.moved]

theorem stream?_eq (h : TaskStep service j act service' j') {k : Nat} (hk : j'.stream? = some k) :
    j.stream? = some k ∨ k = service.streams.length := by
  cases h with
  | openStream => exact .inr (by simpa [Job.stream?, Job.moved, eq_comm] using hk)
  | pull pulling => exact .inl (by simpa [Job.stream?, Job.moved, pulling] using hk)
  | skip => exact .inl hk
  | @send a stream sending =>
    cases stream with
    | none => simp [Job.stream?, Job.moved] at hk
    | some m => exact .inl (by simpa [Job.stream?, Job.moved, sending] using hk)
  | _ => simp [Job.stream?, Job.moved] at hk

theorem getElem?_streams (h : TaskStep service j act service' j') {k : Nat} {stream : FrameStream}
    (hk : j.stream? ≠ some k) (hstream : service.streams[k]? = some stream) : service'.streams[k]? = some stream := by
  cases h with
  | openStream =>
    rw [List.getElem?_append_left (List.getElem?_eq_some_iff.mp hstream).1]
    exact hstream
  | conclude _ _ concluded =>
    rw [(Service.conclude_frame concluded).2.2.2]
    exact hstream
  | @pull m _ _ _ pulling | @skip m _ _ pulling | @finish m _ _ pulling =>
    have hne : m ≠ k := fun heq => hk (by simp [Job.stream?, pulling, heq])
    rw [List.getElem?_set_ne hne]
    exact hstream
  | @giveUp m _ held =>
    have hne : m ≠ k := fun heq => hk (heq ▸ held)
    simpa [Service.close, List.getElem?_modify, hne] using hstream
  | _ => exact hstream

end TaskStep

inductive Happens (s : State) : Event → List Delivery → State → Prop
  | take {channel : Channel} {i : Nat} {j : Job} (running : s.running = true)
      (first : (s.jobs.findIdx? fun j => j.isQueued && j.command.channel == channel) = some i)
      (job : s.jobs[i]? = some j) (queued : j.stage = .queued) :
    Happens s (.move (.take channel)) [] (s.setJob i (j.moved .taken))
  | shutDown (running : s.running = true) (asked : s.shutdown = .asked) :
    Happens s (.move .shutDown) []
      { s with
        running := false
        shutdown := .confirmed
        jobs := s.jobs.map fun j => if j.isQueued then j.moved .lost else j }
  | stop (running : s.running = true) (dropped : s.held = false) (unasked : s.shutdown ≠ .asked)
      (empty : ∀ j ∈ s.jobs, j.stage ≠ .queued) :
    Happens s (.move .stop) [] { s with running := false }
  | task {act : Nat → Move} {i : Nat} {j j' : Job} {service : Service} (job : s.jobs[i]? = some j)
      (step : TaskStep s.service j act service j') :
    Happens s (.move (act i)) [] ((s.withService service).setJob i j')
  | submit {command : Command} (held : s.held = true) (running : s.running = true) :
    Happens s (.submit command) [] { s with jobs := s.jobs ++ [{ command }] }
  | receive {i : Nat} {j : Job} {a : Answer} {later : List Answer} (job : s.jobs[i]? = some j)
      (sent : j.sent = a :: later) :
    Happens s (.receive i) [⟨i, a⟩] (s.setJob i { j with sent := later })
  | detach {i : Nat} : Happens s (.detach i) [] (s.detach i)
  | askShutdown (held : s.held = true) (running : s.running = true) :
    Happens s .askShutdown [] { s with held := false, shutdown := .asked }
  | dropHandle : Happens s .dropHandle [] s.dropHandle

theorem Job.isQueued_iff {j : Job} : j.isQueued = true ↔ j.stage = .queued := by
  unfold Job.isQueued
  cases j.stage <;> simp

namespace State

variable {s t : State} {i : Nat} {j : Job}

theorem begin_step (h : s.begin i j = some t) :
    ∃ service j', TaskStep s.service j .begin service j' ∧ t = (s.withService service).setJob i j' := by
  unfold begin at h
  cases hstage : j.stage <;> simp only [hstage, reduceCtorEq, Service.send_eq] at h
  cases hmade : j.request? s.service.binding <;>
    simp only [show ChatRequest.make? _ _ _ _ = _ from hmade, Except.map, Option.some.injEq] at h
  case ok request => exact ⟨_, _, .request hstage hmade, h.symm⟩
  case error refusal =>
    cases hstreamed : j.command.channel.streamed <;>
      simp only [hstreamed, Bool.false_eq_true, if_true, if_false] at h
    · exact ⟨_, _, .refuse hstage hmade hstreamed, h.symm⟩
    · exact ⟨_, _, .refuseStream hstage hmade hstreamed, h.symm⟩

theorem respond_step (h : s.respond i j = some t) :
    ∃ service j', TaskStep s.service j .respond service j' ∧ t = (s.withService service).setJob i j' := by
  unfold respond at h
  cases hstage : j.stage <;> simp only [hstage, reduceCtorEq] at h
  case calling response =>
    cases hstreamed : j.command.channel.streamed <;>
      simp only [hstreamed, Bool.false_eq_true, if_true, if_false] at h
    · obtain ⟨⟨answer, service⟩, hconclude, rfl⟩ := Option.map_eq_some_iff.mp h
      exact ⟨_, _, .conclude hstage hstreamed hconclude, rfl⟩
    · rcases hopened : response.opened with fault | ⟨items, stalls⟩ <;>
        simp only [Service.open?, hopened, Option.some.injEq] at h
      · exact ⟨_, _, .failToOpen hstage hstreamed hopened, h.symm⟩
      · exact ⟨_, _, .openStream hstage hstreamed hopened, h.symm⟩

theorem getElem?_setJob_self (hj : s.jobs[i]? = some j) (j' : Job) : (s.setJob i j').jobs[i]? = some j' :=
  List.getElem?_set_self (List.getElem?_eq_some_iff.mp hj).1

theorem getElem?_setJob_ne (s : State) (j' : Job) {i i' : Nat} (h : i' ≠ i) :
    (s.setJob i j').jobs[i']? = s.jobs[i']? :=
  List.getElem?_set_ne (Ne.symm h)

theorem getElem?_setJob_cases (hj : s.jobs[i]? = some j) {j' j₁ : Job} {i' : Nat}
    (h : (s.setJob i j').jobs[i']? = some j₁) : i' = i ∧ j₁ = j' ∨ i' ≠ i ∧ s.jobs[i']? = some j₁ := by
  by_cases hi : i' = i
  · subst hi
    rw [getElem?_setJob_self hj] at h
    exact .inl ⟨rfl, (Option.some.inj h).symm⟩
  · rw [getElem?_setJob_ne s j' hi] at h
    exact .inr ⟨hi, h⟩

theorem setJob_self (hj : s.jobs[i]? = some j) : s.setJob i j = s := by
  obtain ⟨hi, rfl⟩ := List.getElem?_eq_some_iff.mp hj
  rw [setJob, List.set_getElem_self]

theorem pull_step (hj : s.jobs[i]? = some j) (h : s.pull i j = some t) :
    ∃ service j', TaskStep s.service j .pull service j' ∧ t = (s.withService service).setJob i j' := by
  unfold pull at h
  cases hstage : j.stage <;> simp only [hstage, reduceCtorEq] at h
  case pulling k =>
    cases hk : s.service.streams[k]? <;> simp only [Service.advance, Service.withStream, hk] at h
    case none =>
      exact ⟨_, _, .astray hstage hk, (Option.some.inj h).symm⟩
    case some stream =>
      rcases hturn : stream.advance with ⟨a | _ | _ | _, stream'⟩ <;> simp only [hturn, Option.some.injEq, reduceCtorEq] at h
      · exact ⟨_, _, .pull hstage hk hturn, h.symm⟩
      · refine ⟨_, _, .skip hstage hk hturn, ?_⟩
        rw [← h, setJob_self]
        exact hj
      · exact ⟨_, _, .finish hstage hk hturn, h.symm⟩

theorem send_step (h : s.send i j = some t) :
    ∃ service j', TaskStep s.service j .send service j' ∧ t = (s.withService service).setJob i j' := by
  unfold send at h
  cases hstage : j.stage <;> simp only [hstage, reduceCtorEq] at h
  case sending a stream =>
    obtain ⟨hroom, h⟩ := Option.ite_none_right_eq_some.mp h
    have hroom : j.attached = true ∧ j.sent = [] := by
      simpa [Job.hasRoom, capacity] using hroom
    exact ⟨_, _, .send hstage hroom.1 hroom.2, (Option.some.inj h).symm⟩

theorem giveUp_step (h : s.giveUp i j = some t) :
    ∃ service j', TaskStep s.service j .giveUp service j' ∧ t = (s.withService service).setJob i j' := by
  unfold giveUp at h
  cases hattached : j.attached <;> simp only [hattached, Bool.false_eq_true, if_true, if_false, reduceCtorEq] at h
  cases hstage : j.stage <;> simp only [hstage, reduceCtorEq] at h
  case pulling k => exact ⟨_, _, .giveUp hattached (by simp [Job.stream?, hstage]), (Option.some.inj h).symm⟩
  case sending a stream =>
    cases stream with
    | none => exact ⟨_, _, .giveUpUnopened hattached hstage, (Option.some.inj h).symm⟩
    | some k => exact ⟨_, _, .giveUp hattached (by simp [Job.stream?, hstage]), (Option.some.inj h).symm⟩

theorem task_happens {act : Nat → Move} {f : Job → Option State}
    (hf : ∀ j t, s.jobs[i]? = some j → f j = some t →
      ∃ service j', TaskStep s.service j act service j' ∧ t = (s.withService service).setJob i j')
    (h : s.jobs[i]?.bind f = some t) : Happens s (.move (act i)) [] t := by
  obtain ⟨j, hj, h⟩ := Option.bind_eq_some_iff.mp h
  obtain ⟨service, j', hstep, rfl⟩ := hf j t hj h
  exact .task hj hstep

theorem step_happens {m : Move} (h : s.step m = some t) : Happens s (.move m) [] t := by
  cases m with
  | take channel =>
    obtain ⟨running, h⟩ := Option.ite_none_right_eq_some.mp h
    obtain ⟨i, hfirst, h⟩ := Option.bind_eq_some_iff.mp h
    obtain ⟨j, hj, rfl⟩ := Option.map_eq_some_iff.mp h
    have hq := (List.findIdx?_eq_some_iff_getElem.mp hfirst)
    obtain ⟨hi, hq, -⟩ := hq
    obtain rfl : s.jobs[i] = j := Option.some.inj ((List.getElem?_eq_getElem hi).symm.trans hj)
    rw [Bool.and_eq_true] at hq
    exact .take running hfirst hj (Job.isQueued_iff.mp hq.1)
  | shutDown =>
    obtain ⟨⟨running, asked⟩, h⟩ := Option.ite_none_right_eq_some.mp h
    obtain rfl := Option.some.inj h
    exact .shutDown running asked
  | stop =>
    obtain ⟨⟨running, dropped, unasked, empty⟩, h⟩ := Option.ite_none_right_eq_some.mp h
    obtain rfl := Option.some.inj h
    refine .stop running (by simpa using dropped) unasked fun j hj hq => empty ?_
    exact List.any_eq_true.mpr ⟨j, hj, Job.isQueued_iff.mpr hq⟩
  | begin i => exact task_happens (fun _ _ _ => begin_step) h
  | respond i => exact task_happens (fun _ _ _ => respond_step) h
  | pull i => exact task_happens (fun _ _ => pull_step) h
  | send i => exact task_happens (fun _ _ _ => send_step) h
  | giveUp i => exact task_happens (fun _ _ _ => giveUp_step) h

theorem happens {e : Event} {ds : List Delivery} (h : s.happen e = some (ds, t)) : Happens s e ds t := by
  cases e with
  | move m =>
    obtain ⟨t', hstep, heq⟩ := Option.map_eq_some_iff.mp h
    obtain ⟨rfl, rfl⟩ := Prod.mk.inj heq
    exact step_happens hstep
  | submit command =>
    obtain ⟨held, h⟩ := Option.ite_none_right_eq_some.mp h
    obtain ⟨t', hdone, heq⟩ := Option.map_eq_some_iff.mp h
    obtain ⟨rfl, rfl⟩ := Prod.mk.inj heq
    by_cases running : s.running = true
    · rw [submit, if_pos running] at hdone
      obtain rfl := Option.some.inj hdone
      exact .submit held running
    · rw [submit, if_neg running] at hdone
      cases hdone
  | receive i =>
    obtain ⟨⟨a, t'⟩, hreceive, heq⟩ := Option.map_eq_some_iff.mp h
    obtain ⟨rfl, rfl⟩ := Prod.mk.inj heq
    cases hj : s.jobs[i]? <;> simp only [receive, hj, reduceCtorEq] at hreceive
    case some j =>
      cases hsent : j.sent <;> simp only [hsent, reduceCtorEq, Option.some.injEq, Prod.mk.injEq] at hreceive
      obtain ⟨rfl, rfl⟩ := hreceive
      exact .receive hj hsent
  | detach i =>
    obtain ⟨rfl, rfl⟩ := Prod.mk.inj (Option.some.inj h)
    exact .detach
  | askShutdown =>
    obtain ⟨held, h⟩ := Option.ite_none_right_eq_some.mp h
    obtain ⟨t', hdone, heq⟩ := Option.map_eq_some_iff.mp h
    obtain ⟨rfl, rfl⟩ := Prod.mk.inj heq
    by_cases running : s.running = true
    · rw [askShutdown, if_pos running] at hdone
      obtain rfl := Option.some.inj hdone
      exact .askShutdown held running
    · rw [askShutdown, if_neg running] at hdone
      cases hdone
  | dropHandle =>
    obtain ⟨rfl, rfl⟩ := Prod.mk.inj (Option.some.inj h)
    exact .dropHandle

end State

end ChatGateway.Backend
