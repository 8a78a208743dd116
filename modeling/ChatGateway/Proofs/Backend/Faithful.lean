import ChatGateway.Proofs.Backend.Direct
import ChatGateway.Proofs.Backend.Histories
import Mathlib.Data.List.Forall2

/-!
The invariant of a backend: for each command, what has been received, what waits in its reply channel and what its task
will still send are together the answers that a direct call gives.
-/

namespace ChatGateway.Backend

structure Past where
  deliveries : List Delivery
  taken : List Nat
  sent : List Nat

namespace Past

def start : Past := ⟨[], [], []⟩

def extend (p : Past) (ds : List Delivery) (taken sent : List Nat) : Past :=
  ⟨p.deliveries ++ ds, p.taken ++ taken, p.sent ++ sent⟩

def received (p : Past) (i : Nat) : List Answer := Backend.received i p.deliveries

/-- How many requests there were before the one of a command. -/
def place (p : Past) (service : Service) (i : Nat) : Nat := service.requests.length + p.sent.idxOf i

def Untouched (p : Past) (i : Nat) : Prop := p.received i = [] ∧ i ∉ p.taken ∧ i ∉ p.sent

end Past

def left? (service : Service) (c : Command) : Stage → Option (List Answer × Bool)
  | .queued | .taken | .lost => none
  | .calling response => some (responseScript c response)
  | .pulling k => service.streams[k]?.map streamScript
  | .sending a none => some ([a], true)
  | .sending a (some k) =>
    service.streams[k]?.map fun stream => (a :: (streamScript stream).1, (streamScript stream).2)
  | .finished => some ([], true)

inductive Faithful (service : Service) (p : Past) (now : Service) (i : Nat) (j : Job) : Prop
  | waiting (stage : j.stage = .queued ∨ j.stage = .lost) (untouched : p.Untouched i) (unsent : j.sent = [])
  | taken (stage : j.stage = .taken) (unreceived : p.received i = []) (unasked : i ∉ p.sent) (unsent : j.sent = [])
  | begun {left : List Answer × Bool} (left_eq : left? now j.command j.stage = some left)
      (own : i ∈ p.sent ∨ ∃ refusal, j.request? service.binding = .error refusal)
      (first : p.received i ++ j.sent <+: (script service (p.place service i) j.command).1)
      (all : j.attached = true → p.received i ++ j.sent ++ left.1 = (script service (p.place service i) j.command).1 ∧
        left.2 = (script service (p.place service i) j.command).2)

theorem Past.received_extend (p : Past) (ds : List Delivery) (taken sent : List Nat) (i : Nat) :
    (p.extend ds taken sent).received i = p.received i ++ Backend.received i ds :=
  received_append i _ _

@[simp] theorem Past.extend_nil (p : Past) : p.extend [] [] [] = p := by
  simp [extend]

theorem Past.place_extend {p : Past} {i : Nat} (h : i ∈ p.sent) (service : Service) (ds : List Delivery)
    (taken sent : List Nat) : (p.extend ds taken sent).place service i = p.place service i := by
  simp only [place, extend, List.idxOf_append_of_mem h]

theorem Past.untouched_extend {p : Past} {i : Nat} (h : p.Untouched i) {ds : List Delivery} {taken sent : List Nat}
    (hds : Backend.received i ds = []) (htaken : i ∉ taken) (hsent : i ∉ sent) : (p.extend ds taken sent).Untouched i := by
  obtain ⟨hreceived, hnot, hunsent⟩ := h
  refine ⟨by rw [received_extend, hreceived, hds]; rfl, ?_, ?_⟩ <;> simp [extend, *]

section Job

variable {service now now' : Service} {p : Past} {i : Nat} {j j' : Job}

theorem script_of_refused {refusal : Refusal} (h : j.request? service.binding = .error refusal) (n : Nat) :
    script service n j.command = ([.failure (.refused refusal)], true) := by
  simp only [script, show ChatRequest.make? _ _ _ _ = _ from h]

theorem script_of_request {request : ChatRequest} (h : j.request? service.binding = .ok request) (n : Nat) :
    script service n j.command = responseScript j.command (service.provider n request) := by
  simp only [script, show ChatRequest.make? _ _ _ _ = _ from h]

theorem left?_frame {left : List Answer × Bool} (h : left? now j.command j.stage = some left)
    (hstreams : ∀ k stream, j.stream? = some k → now.streams[k]? = some stream → now'.streams[k]? = some stream) :
    left? now' j.command j.stage = some left := by
  unfold Job.stream? at hstreams
  unfold left? at h ⊢
  split at h
  · exact h
  · exact h
  · exact h
  · exact h
  next k hstage =>
    obtain ⟨stream, hk, rfl⟩ := Option.map_eq_some_iff.mp h
    rw [hstreams k stream (by rw [hstage]) hk, Option.map_some]
  · exact h
  next a k hstage =>
    obtain ⟨stream, hk, rfl⟩ := Option.map_eq_some_iff.mp h
    rw [hstreams k stream (by rw [hstage]) hk, Option.map_some]
  · exact h

theorem Faithful.frame (h : Faithful service p now i j) {ds : List Delivery} {taken sent : List Nat}
    (hds : received i ds = []) (htaken : i ∉ taken) (hsent : i ∉ sent)
    (hstreams : ∀ k stream, j.stream? = some k → now.streams[k]? = some stream → now'.streams[k]? = some stream) :
    Faithful service (p.extend ds taken sent) now' i j := by
  have hreceived : (p.extend ds taken sent).received i = p.received i := by
    rw [Past.received_extend, hds, List.append_nil]
  cases h with
  | waiting stage untouched unsent => exact .waiting stage (Past.untouched_extend untouched hds htaken hsent) unsent
  | taken stage unreceived unasked unsent =>
    exact .taken stage (hreceived.trans unreceived) (by simp [Past.extend, unasked, hsent]) unsent
  | begun left_eq own first all =>
    have hplace : script service ((p.extend ds taken sent).place service i) j.command =
        script service (p.place service i) j.command := by
      rcases own with hmem | ⟨refusal, hrefused⟩
      · rw [Past.place_extend hmem]
      · rw [script_of_refused hrefused, script_of_refused hrefused]
    refine .begun (left?_frame left_eq hstreams) (own.imp_left fun hmem => List.mem_append_left _ hmem) ?_ ?_ <;>
      rw [hreceived, hplace] <;> assumption

theorem Faithful.goOn (h : Faithful service p now i j) {left left' : List Answer × Bool}
    (hleft : left? now j.command j.stage = some left) {stage : Stage}
    (hnew : left? now' j.command stage = some left') (hsame : j.attached = true → left' = left) :
    Faithful service p now' i (j.moved stage) := by
  cases h with
  | waiting stage _ _ => rcases stage with stage | stage <;> simp [left?, stage] at hleft
  | taken stage _ _ _ => simp [left?, stage] at hleft
  | begun left_eq own first all =>
    obtain rfl := Option.some.inj (left_eq.symm.trans hleft)
    exact .begun hnew own first fun attached => by rw [hsame attached]; exact all attached

theorem Faithful.putAnswer (h : Faithful service p now i j) {a : Answer} (left : List Answer × Bool)
    (hleft : left? now j.command j.stage = some (a :: left.1, left.2)) {stage : Stage}
    (hnew : left? now' j.command stage = some left) : Faithful service p now' i ((j.reply a).moved stage) := by
  cases h with
  | waiting stage _ _ => rcases stage with stage | stage <;> simp [left?, stage] at hleft
  | taken stage _ _ _ => simp [left?, stage] at hleft
  | begun left_eq own first all =>
    obtain rfl := Option.some.inj (left_eq.symm.trans hleft)
    cases hattached : j.attached with
    | false =>
      have hreply : j.reply a = j := by simp [Job.reply, hattached]
      rw [hreply]
      exact .begun hnew own first fun attached => absurd attached (by simp [Job.moved, hattached])
    | true =>
      obtain ⟨hall, hends⟩ := all hattached
      have hreply : j.reply a = { j with sent := j.sent ++ [a] } := by simp [Job.reply, hattached]
      have hall' : p.received i ++ (j.sent ++ [a]) ++ left.1 = (script service (p.place service i) j.command).1 := by
        rw [← hall]
        simp
      rw [hreply]
      exact .begun hnew own ⟨_, hall'⟩ fun _ => ⟨hall', hends⟩

theorem Job.moved_reply_moved (j : Job) (a : Answer) (stage stage' : Stage) :
    ((j.moved stage).reply a).moved stage' = (j.reply a).moved stage' := by
  cases hattached : j.attached <;> simp [Job.reply, Job.moved, hattached]

theorem Faithful.exists_left (h : Faithful service p now i j) (queued : j.stage ≠ .queued) (lost : j.stage ≠ .lost)
    (taken : j.stage ≠ .taken) : ∃ left, left? now j.command j.stage = some left := by
  cases h with
  | waiting stage _ _ => exact absurd stage (not_or.mpr ⟨queued, lost⟩)
  | taken stage _ _ _ => exact absurd stage taken
  | begun left_eq _ _ _ => exact ⟨_, left_eq⟩

theorem Faithful.request (h : Faithful service p now i j) (stage : j.stage = .taken) {request : ChatRequest}
    (made : j.request? service.binding = .ok request) {n : Nat} (place : n = service.requests.length + p.sent.length) :
    Faithful service (p.extend [] [] [i]) now' i (j.moved (.calling (service.provider n request))) := by
  cases h with
  | waiting other _ _ => rcases other with other | other <;> simp [other] at stage
  | begun left_eq _ _ _ => simp [left?, stage] at left_eq
  | taken _ unreceived unasked unsent =>
    have hreceived : (p.extend [] [] [i]).received i = [] := by
      rw [Past.received_extend, unreceived]
      rfl
    have hplace : (p.extend [] [] [i]).place service i = n := by
      simp [Past.place, Past.extend, List.idxOf_append, unasked, place]
    have hscript : script service n j.command = responseScript j.command (service.provider n request) :=
      script_of_request made n
    refine .begun rfl (.inl (by simp [Past.extend])) ?_ fun _ => ?_ <;>
      simp [Job.moved, hreceived, unsent, hplace, hscript]

theorem Faithful.refuse (h : Faithful service p now i j) (stage : j.stage = .taken) {refusal : Refusal}
    (made : j.request? service.binding = .error refusal) :
    Faithful service p now i (j.moved (.sending (.failure (.refused refusal)) none)) := by
  cases h with
  | waiting other _ _ => rcases other with other | other <;> simp [other] at stage
  | begun left_eq _ _ _ => simp [left?, stage] at left_eq
  | taken _ unreceived unasked unsent =>
    refine .begun rfl (.inr ⟨refusal, made⟩) ?_ fun _ => ?_ <;>
      simp [Job.moved, unreceived, unsent, script_of_refused made]

theorem responseScript_of_conclude {response : Response} {answer : Except Failure Completion} {c : Command}
    (blocking : c.channel.streamed = false) (h : now.conclude response = some (answer, now')) :
    responseScript c response = ([.ofCompletion answer], true) := by
  obtain ⟨r, hreply, heq⟩ := Option.map_eq_some_iff.mp h
  rcases r with fault | reply <;>
    obtain ⟨rfl, -⟩ := Prod.mk.inj heq <;>
    simp [responseScript, blocking, hreply, Answer.ofCompletion]

theorem Faithful.step {act : Nat → Move} (h : Faithful service p now i j) (hbinding : now.binding = service.binding)
    (step : TaskStep now j act now' j') (unasked : now'.requests = now.requests) : Faithful service p now' i j' := by
  -- What is left to send stays as it is, or its first answer goes into the reply channel.
  cases step with
  | request => simp at unasked
  | refuseStream stage made => exact h.refuse stage (hbinding ▸ made)
  | refuse stage made =>
    rw [← Job.moved_reply_moved j _ (.sending _ none) .finished]
    exact (h.refuse stage (hbinding ▸ made)).putAnswer ([], true) rfl rfl
  | @openStream response items stalls calling streamed opened =>
    let stream : FrameStream := { numberOfResponses := j.command.call.settings.numberOfResponses, items, stalls }
    have hnew : left? { now with streams := now.streams ++ [stream] } j.command (.pulling now.streams.length) =
        some (streamScript stream) := by simp [left?]
    refine h.goOn (by rw [calling]; rfl) hnew fun _ => ?_
    simp only [responseScript, streamed, opened, if_true, stream]
  | failToOpen calling streamed opened =>
    refine h.goOn (by rw [calling]; rfl) rfl fun _ => ?_
    simp [responseScript, streamed, opened]
  | conclude calling blocking concluded =>
    have hscript := responseScript_of_conclude blocking concluded
    exact h.putAnswer ([], true) (by rw [calling, left?, hscript]) rfl
  | @pull k stream stream' a pulling held turn =>
    have hadvances := stream.advances
    rw [turn] at hadvances
    cases hadvances with
    | answer first ends =>
      have hk := (List.getElem?_eq_some_iff.mp held).1
      have hnew : left? { now with streams := now.streams.set k stream' } j.command (.sending (.ofFrame a) (some k)) =
          some (.ofFrame a :: (streamScript stream').1, (streamScript stream').2) := by simp [left?, hk]
      refine h.goOn (by rw [pulling, left?, held]; rfl) hnew fun _ => ?_
      simp only [streamScript, first, ends, List.map_cons]
  | @skip k stream stream' pulling held turn =>
    have hadvances := stream.advances
    rw [turn] at hadvances
    cases hadvances with
    | skipped same ends =>
      have hk := (List.getElem?_eq_some_iff.mp held).1
      have hmoved : j.moved (.pulling k) = j := by rw [← pulling]; rfl
      have hnew : left? { now with streams := now.streams.set k stream' } j.command (.pulling k) =
          some (streamScript stream') := by simp [left?, hk]
      rw [← hmoved]
      refine h.goOn (by rw [pulling, left?, held]; rfl) hnew fun _ => ?_
      simp only [streamScript, same, ends]
  | @finish k stream stream' pulling held turn =>
    have hadvances := stream.advances
    rw [turn] at hadvances
    cases hadvances with
    | ended none ends same =>
      refine h.goOn (by rw [pulling, left?, held]; rfl) rfl fun _ => ?_
      simp [streamScript, none, ends]
  | astray pulling held =>
    obtain ⟨left, hleft⟩ := h.exists_left (by simp [pulling]) (by simp [pulling]) (by simp [pulling])
    simp [pulling, left?, held] at hleft
  | @send a stream sending attached room =>
    obtain ⟨left, hleft⟩ := h.exists_left (by simp [sending]) (by simp [sending]) (by simp [sending])
    cases stream with
    | none => exact h.putAnswer ([], true) (by rw [sending]; rfl) rfl
    | some k =>
      rw [sending] at hleft
      obtain ⟨stream, hk, rfl⟩ := Option.map_eq_some_iff.mp hleft
      exact h.putAnswer (streamScript stream) (by rw [sending, hleft]) (by simp [left?, hk])
  | giveUp detached held =>
    obtain ⟨left, hleft⟩ := h.exists_left (fun stage => by simp [Job.stream?, stage] at held)
      (fun stage => by simp [Job.stream?, stage] at held) (fun stage => by simp [Job.stream?, stage] at held)
    exact h.goOn hleft rfl fun attached => absurd attached (by simp [detached])
  | giveUpUnopened detached sending =>
    exact h.goOn (by rw [sending]; rfl) rfl fun attached => absurd attached (by simp [detached])

theorem Faithful.unasked (h : Faithful service p now i j) (stage : j.stage = .taken) : i ∉ p.sent := by
  cases h with
  | waiting other _ _ => rcases other with other | other <;> simp [other] at stage
  | begun left_eq _ _ _ => simp [left?, stage] at left_eq
  | taken _ _ unasked _ => exact unasked

theorem Faithful.take (h : Faithful service p now i j) (queued : j.stage = .queued) :
    Faithful service (p.extend [] [i] []) now i (j.moved .taken) := by
  cases h with
  | begun left_eq _ _ _ => simp [left?, queued] at left_eq
  | taken other _ _ _ => simp [queued] at other
  | waiting _ untouched unsent =>
    obtain ⟨unreceived, -, unasked⟩ := untouched
    exact .taken rfl (by rw [Past.received_extend, unreceived]; rfl) (by simpa [Past.extend] using unasked) unsent

theorem Faithful.lose (h : Faithful service p now i j) (queued : j.stage = .queued) :
    Faithful service p now i (j.moved .lost) := by
  cases h with
  | begun left_eq _ _ _ => simp [left?, queued] at left_eq
  | taken other _ _ _ => simp [queued] at other
  | waiting _ untouched unsent => exact .waiting (.inr rfl) untouched unsent

theorem Faithful.receive (h : Faithful service p now i j) {a : Answer} {later : List Answer}
    (sent : j.sent = a :: later) :
    Faithful service (p.extend [⟨i, a⟩] [] []) now i { j with sent := later } := by
  cases h with
  | waiting _ _ unsent => simp [sent] at unsent
  | taken _ _ _ unsent => simp [sent] at unsent
  | begun left_eq own first all =>
    have hsame : (p.extend [⟨i, a⟩] [] []).received i ++ later = p.received i ++ j.sent := by
      rw [Past.received_extend, sent, List.append_assoc]
      simp [received]
    have hplace : (p.extend [⟨i, a⟩] [] []).place service i = p.place service i := by simp [Past.place, Past.extend]
    refine .begun left_eq (own.imp_left fun hmem => by simpa [Past.extend] using hmem) ?_ fun attached => ?_ <;>
      rw [hsame, hplace]
    · exact first
    · exact all attached

theorem Faithful.detach (h : Faithful service p now i j) :
    Faithful service p now i { j with sent := [], attached := false } := by
  cases h with
  | waiting stage untouched _ => exact .waiting stage untouched rfl
  | taken stage unreceived unasked _ => exact .taken stage unreceived unasked rfl
  | begun left_eq own first _ =>
    refine .begun left_eq own ?_ (by simp)
    rw [List.append_nil]
    exact (List.prefix_append _ _).trans first

end Job

end ChatGateway.Backend
