import ChatGateway.Proofs.Service.Runs
import ChatGateway.Proofs.Service.Streams

namespace ChatGateway

open EventStream (Item)

namespace FrameStream

def Turn.said : Turn → List (Except Failure Frame)
  | .answer a => [a]
  | .skipped | .ended | .waiting => []

/-- A stream, before and after it has said something. Some of its items have been taken, and what has been said are the
answers to them. -/
structure Tells (first : FrameStream) (said : List (Except Failure Frame)) (now : FrameStream) : Prop where
  candidates : now.numberOfResponses = first.numberOfResponses
  le : first.pulled ≤ now.pulled
  items : now.items = first.items.drop (now.pulled - first.pulled)
  said : said = (first.items.take (now.pulled - first.pulled)).filterMap (Frame.ofItem? first.numberOfResponses)

theorem Tells.of_taken {s t : FrameStream} {said : List (Except Failure Frame)} (k : Nat)
    (candidates : t.numberOfResponses = s.numberOfResponses) (items : t.items = s.items.drop k)
    (pulled : t.pulled = s.pulled + k) (hsaid : (s.items.take k).filterMap (Frame.ofItem? s.numberOfResponses) = said) :
    s.Tells said t := by
  have hk : t.pulled - s.pulled = k := by omega
  refine ⟨candidates, by omega, ?_, ?_⟩
  · rw [hk, items]
  · rw [hk, hsaid]

theorem Tells.refl (s : FrameStream) : s.Tells [] s := .of_taken 0 rfl rfl rfl rfl

theorem tells_close (s : FrameStream) : s.Tells [] s.close := .of_taken 0 rfl rfl rfl rfl

theorem Tells.trans {s t u : FrameStream} {said said' : List (Except Failure Frame)} (h : s.Tells said t)
    (h' : t.Tells said' u) : s.Tells (said ++ said') u where
  candidates := h'.candidates.trans h.candidates
  le := Nat.le_trans h.le h'.le
  items := by
    have hle := h.le
    have hle' := h'.le
    rw [h'.items, h.items, List.drop_drop]
    congr 1
    omega
  said := by
    have hle := h.le
    have hle' := h'.le
    have hpulled : u.pulled - s.pulled = (t.pulled - s.pulled) + (u.pulled - t.pulled) := by omega
    rw [h.said, h'.said, h.items, h.candidates, hpulled, List.take_add, List.filterMap_append]

theorem Tells.fault {first now : FrameStream} {said : List (Except Failure Frame)} (h : first.Tells said now) {k : Nat}
    {fault : Fault} (hk : k < now.pulled - first.pulled) (hfault : first.items[k]? = some (.error fault)) :
    said[((first.items.take k).filter Frame.isAnswered).length]? = some (.error (.streamFailed fault)) := by
  obtain ⟨hlt, hget⟩ := List.getElem?_eq_some_iff.mp hfault
  obtain ⟨m, hm⟩ : ∃ m, now.pulled - first.pulled = k + (m + 1) := ⟨now.pulled - first.pulled - k - 1, by omega⟩
  have hrest : first.items.take (now.pulled - first.pulled) =
      first.items.take k ++ .error fault :: (first.items.drop (k + 1)).take m := by
    rw [hm, List.take_add, List.drop_eq_getElem_cons hlt, hget, List.take_succ_cons]
  -- the items before the fault say as much as there are of them that are answered
  have hlength : ((first.items.take k).filter Frame.isAnswered).length =
      ((first.items.take k).filterMap (Frame.ofItem? first.numberOfResponses)).length := by
    rw [List.length_filterMap_eq_countP, ← List.countP_eq_length_filter]
    simp only [Frame.isSome_ofItem?]
  rw [h.said, hrest, List.filterMap_append, hlength]
  simp [Frame.ofItem?]

theorem filterMap_take_reach (n : UInt64) (items : List Item) :
    (items.take (Frame.reach items)).filterMap (Frame.ofItem? n) =
      ((items.find? Frame.isAnswered).bind (Frame.ofItem? n)).toList := by
  induction items with
  | nil => rfl
  | cons item items ih =>
    have hsome := Frame.isSome_ofItem? n item
    cases hitem : Frame.isAnswered item with
    | false =>
      have hnone : Frame.ofItem? n item = none := by simpa [hitem] using hsome
      simpa [Frame.reach, hitem, hnone] using ih
    | true =>
      obtain ⟨a, ha⟩ := Option.isSome_iff_exists.mp (hsome.trans hitem)
      simp [Frame.reach, hitem, ha]

theorem tells_next (s : FrameStream) : s.Tells s.next.1.said s.next.2 := by
  by_cases hflowing : s.phase = .flowing
  · have hsays := says_next hflowing
    have htaken := filterMap_take_reach s.numberOfResponses s.items
    generalize s.items.find? Frame.isAnswered = item?, s.next = r at hsays htaken ⊢
    obtain ⟨turn, later⟩ := r
    cases hsays with
    | @frame item f answered =>
      have hitem : Frame.ofItem? s.numberOfResponses item = some (.ok f) := answered
      rw [Option.bind_some, hitem] at htaken
      exact .of_taken (Frame.reach s.items) rfl rfl rfl htaken
    | @failure item e answered =>
      have hitem : Frame.ofItem? s.numberOfResponses item = some (.error e) := answered
      rw [Option.bind_some, hitem] at htaken
      exact .of_taken (Frame.reach s.items) rfl rfl rfl htaken
    | waiting => exact .of_taken (Frame.reach s.items) rfl rfl rfl htaken
    | ended => exact .of_taken (Frame.reach s.items) rfl rfl rfl htaken
  · rw [next_over hflowing]
    exact s.tells_close

end FrameStream

structure Follow (before : List FrameStream) (said : Nat → List (Except Failure Frame)) (after : List FrameStream) :
    Prop where
  length : after.length = before.length
  tells : ∀ i (first : FrameStream), before[i]? = some first → ∃ now, after[i]? = some now ∧ first.Tells (said i) now
  others : ∀ i, before.length ≤ i → said i = []

namespace Follow

variable {ss ts us : List FrameStream} {f g : Nat → List (Except Failure Frame)}

theorem refl (ss : List FrameStream) : Follow ss (fun _ => []) ss where
  length := rfl
  tells _ first h := ⟨first, h, .refl first⟩
  others _ _ := rfl

theorem trans (h : Follow ss f ts) (h' : Follow ts g us) : Follow ss (fun i => f i ++ g i) us where
  length := h'.length.trans h.length
  tells i first hi := by
    obtain ⟨mid, hmid, htells⟩ := h.tells i first hi
    obtain ⟨now, hnow, htells'⟩ := h'.tells i mid hmid
    exact ⟨now, hnow, htells.trans htells'⟩
  others i hi := by
    have hi' : ts.length ≤ i := by rwa [h.length]
    rw [h.others i hi, h'.others i hi']
    rfl

theorem append (h : Follow ss f ts) (opened : List FrameStream) : Follow (ss ++ opened) f (ts ++ opened) where
  length := by rw [List.length_append, List.length_append, h.length]
  tells i first hi := by
    by_cases hlt : i < ss.length
    · rw [List.getElem?_append_left hlt] at hi
      obtain ⟨now, hnow, htells⟩ := h.tells i first hi
      have hlt' : i < ts.length := by rwa [h.length]
      exact ⟨now, by rwa [List.getElem?_append_left hlt'], htells⟩
    · have hle : ss.length ≤ i := Nat.le_of_not_lt hlt
      rw [List.getElem?_append_right hle, ← h.length] at hi
      refine ⟨first, by rwa [List.getElem?_append_right (by rwa [h.length])], ?_⟩
      rw [h.others i hle]
      exact .refl first
  others i hi := by
    rw [List.length_append] at hi
    exact h.others i (by omega)

theorem set {i : Nat} {s t : FrameStream} {said : List (Except Failure Frame)} (hi : ss[i]? = some s)
    (h : s.Tells said t) : Follow ss (fun k => if k = i then said else []) (ss.set i t) where
  length := List.length_set
  tells k first hk := by
    by_cases heq : k = i
    · subst heq
      obtain rfl : s = first := Option.some.inj (hi.symm.trans hk)
      have hlt := (List.getElem?_eq_some_iff.mp hi).1
      exact ⟨t, List.getElem?_set_self hlt, by rwa [if_pos rfl]⟩
    · refine ⟨first, (List.getElem?_set_ne (Ne.symm heq)).trans hk, ?_⟩
      rw [if_neg heq]
      exact .refl first
  others k hk := by
    have hlt := (List.getElem?_eq_some_iff.mp hi).1
    exact if_neg (by omega)

end Follow

namespace Service

structure Accounts (s : Service) (usages : List Usage) (opened : List FrameStream)
    (said : Nat → List (Except Failure Frame)) (t : Service) : Prop where
  usages : t.usages = s.usages ++ usages
  streams : Follow (s.streams ++ opened) said t.streams

namespace Accounts

variable {s t u : Service} {us us' : List Usage} {os os' : List FrameStream} {f g : Nat → List (Except Failure Frame)}

theorem of_streams (usages : t.usages = s.usages) (streams : Follow s.streams f t.streams) : s.Accounts [] [] f t := by
  refine ⟨?_, ?_⟩
  · rw [usages, List.append_nil]
  · rwa [List.append_nil]

theorem refl (s : Service) : s.Accounts [] [] (fun _ => []) s := .of_streams rfl (.refl _)

theorem trans (h : s.Accounts us os f t) (h' : t.Accounts us' os' g u) :
    s.Accounts (us ++ us') (os ++ os') (fun i => f i ++ g i) u where
  usages := by rw [h'.usages, h.usages, List.append_assoc]
  streams := by
    have hstreams := h.streams.append os'
    rw [List.append_assoc] at hstreams
    exact hstreams.trans h'.streams

end Accounts

variable {s : Service}

theorem accounts_next (s : Service) (i : Nat) :
    s.Accounts [] [] (fun k => if k = i then (s.next i).1.said else []) (s.next i).2 := by
  cases hi : s.streams[i]? with
  | none =>
    have hnext : s.next i = (.ended, s) := by simp only [next, withStream, hi]
    rw [hnext]
    simpa [FrameStream.Turn.said] using Accounts.refl s
  | some now =>
    rw [next_eq_of_held hi]
    exact .of_streams rfl (.set hi now.tells_next)

theorem accounts_close (s : Service) (i : Nat) : s.Accounts [] [] (fun _ => []) (s.close i) := by
  refine .of_streams rfl ?_
  cases hi : s.streams[i]? with
  | none =>
    have hclose : s.streams.modify i .close = s.streams := List.modify_eq_self (List.getElem?_eq_none_iff.mp hi)
    exact hclose ▸ .refl _
  | some now =>
    have hclose : s.streams.modify i .close = s.streams.set i now.close := by
      rw [List.modify_eq_set_getElem?, hi]
      rfl
    have hset := Follow.set hi now.tells_close
    simp only [ite_self] at hset
    rwa [close, hclose]

end Service

namespace Session

def Answer.said : Answer → List (Except Failure Frame)
  | .frame f => [.ok f]
  | .failure e => [.error e]
  | .ended | .pending | .unknown => []

def Outcome.said : Outcome → List (Except Failure Frame)
  | .asked a => a.said
  | .drained as => as.flatMap Answer.said
  | _ => []

def Step.asked? : Step → Option String
  | .next name | .drain name => some name
  | _ => none

def saidIn (s : Session) (i : Nat) (step : Step) : List (Except Failure Frame) :=
  if (step.asked?.bind fun name => s.kept.lookup name) = some i then (s.step step).1.said else []

def said (s : Session) (i : Nat) : List Step → List (Except Failure Frame)
  | [] => []
  | step :: steps => s.saidIn i step ++ (s.step step).2.said i steps

structure Exchange where
  call : Call
  streamed : Bool
  response : Response

namespace Exchange

def usage? (e : Exchange) : Option Usage :=
  match e.streamed, e.response with
  | false, .reply (.ok reply) => reply.usage
  | _, _ => none

def fault? (e : Exchange) : Option Fault :=
  match e.streamed, e.response with
  | _, .failure fault => some fault
  | false, .reply (.error fault) => some fault
  | _, _ => none

def stream? (e : Exchange) : Option FrameStream :=
  match e.streamed, e.response with
  | true, .stream items stalls => some { numberOfResponses := e.call.settings.numberOfResponses, items, stalls }
  | true, .reply _ => some { numberOfResponses := e.call.settings.numberOfResponses, items := [], stalls := false }
  | true, .silence => some { numberOfResponses := e.call.settings.numberOfResponses, items := [], stalls := true }
  | _, _ => none

def Answered (e : Exchange) (outcome : Outcome) : Prop :=
  ∀ failure, outcome = .failed failure ↔ ∃ fault, e.fault? = some fault ∧ failure = .callFailed fault

theorem Answered.of_failed {e : Exchange} {fault : Fault} (h : e.fault? = some fault) :
    e.Answered (.failed (.callFailed fault)) := by
  simp [Answered, h, eq_comm]

theorem Answered.of_ne_failed {e : Exchange} {outcome : Outcome} (h : e.fault? = none)
    (hne : ∀ failure, outcome ≠ .failed failure) : e.Answered outcome := by
  simp [Answered, h, hne]

variable (c : Call) (response : Response)

theorem usage?_blocking :
    usage? ⟨c, false, response⟩ = response.reply?.bind fun r => r.toOption.bind (·.usage) := by
  rcases response with _ | (_ | _) | _ | _ <;> rfl

theorem fault?_blocking :
    fault? ⟨c, false, response⟩ = response.reply?.bind fun
      | .error fault => some fault
      | .ok _ => none := by
  rcases response with _ | (_ | _) | _ | _ <;> rfl

theorem stream?_blocking : stream? ⟨c, false, response⟩ = none := by
  rcases response with _ | (_ | _) | _ | _ <;> rfl

theorem usage?_streamed : usage? ⟨c, true, response⟩ = none := by
  rcases response with _ | (_ | _) | _ | _ <;> rfl

theorem fault?_streamed :
    fault? ⟨c, true, response⟩ = match response.opened with
      | .error fault => some fault
      | .ok _ => none := by
  rcases response with _ | (_ | _) | _ | _ <;> rfl

theorem stream?_streamed :
    stream? ⟨c, true, response⟩ = response.opened.toOption.map fun (items, stalls) =>
      { numberOfResponses := c.settings.numberOfResponses, items, stalls } := by
  rcases response with _ | (_ | _) | _ | _ <;> rfl

end Exchange

def exchange? (s : Session) (step : Step) : Option Exchange :=
  match step.call? with
  | some (call, streamed) =>
    (ChatRequest.make? s.service.binding call.messages call.settings streamed).toOption.map fun r =>
      ⟨call, streamed, s.service.provider s.service.requests.length r⟩
  | none => none

def exchanges (s : Session) : List Step → List Exchange
  | [] => []
  | step :: steps => (s.exchange? step).toList ++ (s.step step).2.exchanges steps

variable {s : Session}

theorem accounts_ask (s : Session) (name : String) :
    s.service.Accounts [] [] (fun i => if s.kept.lookup name = some i then (s.ask name).1.said else [])
      (s.ask name).2.service := by
  unfold ask
  cases s.kept.lookup name with
  | none => simpa using Service.Accounts.refl s.service
  | some k =>
    have hnext := s.service.accounts_next k
    have hsaid : (Answer.ofTurn (s.service.next k).1).said = (s.service.next k).1.said := by
      rcases (s.service.next k).1 with (_ | _) | _ | _ | _ <;> rfl
    simpa only [Option.some.injEq, hsaid, eq_comm] using hnext

theorem kept_ask (s : Session) (name : String) : (s.ask name).2.kept = s.kept := by
  unfold ask
  split <;> rfl

theorem accounts_drain (s : Session) (name : String) (fuel : Nat) :
    s.service.Accounts [] []
      (fun i => if s.kept.lookup name = some i then (s.drain name fuel).1.flatMap Answer.said else [])
      (s.drain name fuel).2.service := by
  induction fuel generalizing s with
  | zero => simpa [drain] using Service.Accounts.refl s.service
  | succ fuel ih =>
    have hask := s.accounts_ask name
    have hkept := s.kept_ask name
    rcases hr : s.ask name with ⟨a, t⟩
    rw [hr] at hask hkept
    -- if the drain goes on after the first answer, then in a session that keeps the streams under the same names
    have hgoes : s.service.Accounts [] []
        (fun i => if s.kept.lookup name = some i then (a :: (t.drain name fuel).1).flatMap Answer.said else [])
        (t.drain name fuel).2.service := by
      have htrans := hask.trans (ih t)
      rw [show t.kept = s.kept from hkept] at htrans
      have hsaid :
          (fun i => if s.kept.lookup name = some i then (a :: (t.drain name fuel).1).flatMap Answer.said else []) =
            fun i => (if s.kept.lookup name = some i then a.said else []) ++
              if s.kept.lookup name = some i then (t.drain name fuel).1.flatMap Answer.said else [] := by
        funext i
        split <;> simp
      rw [hsaid]
      exact htrans
    cases a with
    | frame f => simpa only [drain, hr] using hgoes
    | failure e => simpa only [drain, hr] using hgoes
    | ended | pending | unknown => simpa [drain, hr] using hask

theorem accounts_drop (s : Session) (name : String) : s.service.Accounts [] [] (fun _ => []) (s.drop name).service := by
  unfold drop
  split
  · exact s.service.accounts_close _
  · exact .refl _

theorem accounts_keep (s : Session) (name : String) (opened : Except Failure Nat × Service) :
    opened.2.Accounts [] [] (fun _ => []) (s.keep name opened).2.service := by
  obtain ⟨failure | k, service⟩ := opened
  · exact .refl _
  · exact accounts_drop { s with service } name

theorem accounts_complete {c : Call} {r : ChatRequest} (hreports : s.service.reports = true)
    (hmake : ChatRequest.make? s.service.binding c.messages c.settings false = .ok r) :
    let e : Exchange := ⟨c, false, s.service.provider s.service.requests.length r⟩
    s.service.Accounts e.usage?.toList e.stream?.toList (fun _ => []) (s.service.complete c).2 ∧
      e.Answered (.ofAnswer (s.service.complete c).1) := by
  rw [Service.complete, Service.send_eq, hmake]
  simp only [Except.map, Service.conclude, Exchange.usage?_blocking, Exchange.stream?_blocking]
  generalize hresponse : s.service.provider s.service.requests.length r = response
  have hfault := Exchange.fault?_blocking c response
  rcases hreply : response.reply? with _ | fault | reply
  · rw [hreply] at hfault
    refine ⟨.of_streams rfl (.refl _), .of_ne_failed hfault ?_⟩
    intro failure h
    cases h
  · rw [hreply] at hfault
    exact ⟨.of_streams rfl (.refl _), .of_failed hfault⟩
  · rw [hreply] at hfault
    simp only [Option.map_some, hreports, if_true]
    refine ⟨⟨rfl, ?_⟩, .of_ne_failed hfault ?_⟩
    · rw [Option.toList_none, List.append_nil]
      exact .refl _
    · intro failure h
      cases h

theorem accounts_stream {c : Call} {r : ChatRequest}
    (hmake : ChatRequest.make? s.service.binding c.messages c.settings true = .ok r) (name : String) :
    let e : Exchange := ⟨c, true, s.service.provider s.service.requests.length r⟩
    s.service.Accounts e.usage?.toList e.stream?.toList (fun _ => []) (s.keep name (s.service.stream c)).2.service ∧
      e.Answered (s.keep name (s.service.stream c)).1 := by
  have hkeep := s.accounts_keep name (s.service.stream c)
  rw [Service.stream, Service.send_eq, hmake] at hkeep ⊢
  simp only [Except.map, Service.open?, Exchange.usage?_streamed, Exchange.stream?_streamed] at hkeep ⊢
  generalize hresponse : s.service.provider s.service.requests.length r = response at hkeep ⊢
  have hfault := Exchange.fault?_streamed c response
  rcases hopened : response.opened with fault | ⟨items, stalls⟩
  · rw [hopened] at hfault
    exact ⟨.of_streams rfl (.refl _), .of_failed hfault⟩
  · rw [hopened] at hfault hkeep
    let first : FrameStream := { numberOfResponses := c.settings.numberOfResponses, items, stalls }
    have hopens : s.service.Accounts [] [first] (fun _ => [])
        { s.service with requests := s.service.requests ++ [r], streams := s.service.streams ++ [first] } :=
      ⟨(List.append_nil _).symm, .refl _⟩
    refine ⟨(hopens.trans hkeep :), .of_ne_failed hfault ?_⟩
    intro failure h
    cases h

theorem accounts_step (hreports : s.service.reports = true) (step : Step) :
    s.service.Accounts ((s.exchange? step).bind (·.usage?)).toList ((s.exchange? step).bind (·.stream?)).toList
      (fun i => s.saidIn i step) (s.step step).2.service ∧
      ∀ e, s.exchange? step = some e → e.Answered (s.step step).1 := by
  cases hcall : step.call? with
  | none =>
    have hnone : s.exchange? step = none := by rw [exchange?, hcall]
    rw [hnone]
    refine ⟨?_, fun e he => nomatch he⟩
    cases step with
    | next name => exact s.accounts_ask name
    | drain name => exact s.accounts_drain name (s.drainBound name)
    | drop name => exact s.accounts_drop name
    | _ => cases hcall
  | some p =>
    obtain ⟨c, streamed⟩ := p
    have hsaid : (fun i => s.saidIn i step) = fun _ => [] := by
      cases step <;> first | rfl | cases hcall
    rw [hsaid, exchange?, hcall]
    dsimp only
    cases hmake : ChatRequest.make? s.service.binding c.messages c.settings streamed with
    | error refusal =>
      have hsound : ¬c.Sound := by
        intro hsound
        obtain ⟨r, hr, -⟩ : ∃ r, ChatRequest.make? s.service.binding c.messages c.settings streamed = .ok r ∧
          r.Asks s.service.binding c streamed := ChatRequest.make?_of_sound hsound
        rw [hmake] at hr
        cases hr
      obtain ⟨refusal, hrefusal⟩ := Call.exists_objection hsound
      rw [step_of_objection hcall hrefusal]
      exact ⟨.refl _, fun e he => nomatch he⟩
    | ok r =>
      simp only [Except.toOption, Option.map_some, Option.bind_some, Option.some.injEq, forall_eq']
      cases step <;> cases hcall
      · exact accounts_complete hreports hmake
      · exact accounts_complete hreports hmake
      · exact accounts_stream hmake _
      · exact accounts_stream hmake _

theorem accounts_run (hreports : s.service.reports = true) (steps : List Step) :
    s.service.Accounts ((s.exchanges steps).filterMap (·.usage?)) ((s.exchanges steps).filterMap (·.stream?))
      (fun i => s.said i steps) (s.after steps).service := by
  induction steps generalizing s with
  | nil => exact .refl _
  | cons step steps ih =>
    have hterms := s.step_terms step
    have hrest := ih (s := (s.step step).2) (hterms.reports.trans hreports)
    have hstep := (accounts_step hreports step).1
    have hfirst : ∀ {α : Type} (f : Exchange → Option α),
        (s.exchange? step).toList.filterMap f = ((s.exchange? step).bind f).toList := by
      intro α f
      cases s.exchange? step with
      | none => rfl
      | some e => cases hf : f e <;> simp [hf]
    simp only [exchanges, List.filterMap_append, hfirst]
    exact hstep.trans hrest

/-- The usages that a run reports are those that the answers to its blocking calls tell, each of them once and in the
order of the calls. A call that is not refused fails just if the provider fails it. All items that are taken from a
stream are answered, and among them each fault in its turn. -/
theorem run_keeps_accounts (s : Session) (hreports : s.service.reports = true) (steps : List Step) :
    (s.after steps).service.usages = s.service.usages ++ (s.exchanges steps).filterMap (·.usage?) ∧
      (∀ k step e, steps[k]? = some step → (s.after (steps.take k)).exchange? step = some e →
        ∃ outcome t, (s.run steps)[k]? = some (outcome, t) ∧ e.Answered outcome) ∧
      ∀ i (first : FrameStream),
        (s.service.streams ++ (s.exchanges steps).filterMap (·.stream?))[i]? = some first →
          ∃ now, (s.after steps).service.streams[i]? = some now ∧ first.Tells (s.said i steps) now ∧
            ∀ k fault, k < now.pulled - first.pulled → first.items[k]? = some (.error fault) →
              (s.said i steps)[((first.items.take k).filter Frame.isAnswered).length]? =
                some (.error (.streamFailed fault)) := by
  obtain ⟨husages, hfollow⟩ := accounts_run hreports steps
  refine ⟨husages, ?_, ?_⟩
  · intro k step e hstep he
    have hterms := s.after_terms (steps.take k)
    have hanswered := (accounts_step (hterms.reports.trans hreports) step).2 e he
    refine ⟨_, ((s.after (steps.take k)).step step).2, ?_, hanswered⟩
    rw [getElem?_run, hstep, Option.map_some]
  · intro i first hfirst
    obtain ⟨now, hnow, htells⟩ := hfollow.tells i first hfirst
    exact ⟨now, hnow, htells, fun k fault => htells.fault⟩

def unsteady : Provider
  | 0, _ => .reply (.ok ⟨[], some ⟨1, 2, 3⟩⟩)
  | 1, _ => .failure (.rejected 500 "no")
  | _, _ => .stream [.ok ⟨[⟨0, none, some "Hi"⟩]⟩, .error (.interrupted .bodyBrokeOff)] false

theorem unsteady_accounts :
    let s : Session := { service := { binding := ⟨"gpt-4", "key", .openAI, none, none, none⟩, provider := unsteady } }
    let call : Call := ⟨[⟨.user, "Hello"⟩], .default⟩
    let steps : List Step := [.completeChat call, .completeChat call, .streamChat "a" call, .next "a", .drain "a"]
    (s.after steps).service.usages = [⟨1, 2, 3⟩] ∧
      (∃ t, (s.run steps)[1]? = some (.failed (.callFailed (.rejected 500 "no")), t)) ∧
      (s.said 0 steps)[1]? = some (.error (.streamFailed (.interrupted .bodyBrokeOff))) := by
  intro s call steps
  obtain ⟨husages, hcalls, hstreams⟩ := s.run_keeps_accounts rfl steps
  have hreported : (s.exchanges steps).filterMap (·.usage?) = [⟨1, 2, 3⟩] := by decide +kernel
  refine ⟨husages.trans (by rw [hreported]; rfl), ?_, ?_⟩
  · obtain ⟨outcome, t, hrun, hanswered⟩ :=
      hcalls 1 (.completeChat call) ⟨call, false, .failure (.rejected 500 "no")⟩ rfl rfl
    obtain rfl := (hanswered (.callFailed (.rejected 500 "no"))).mpr ⟨_, rfl, rfl⟩
    exact ⟨t, hrun⟩
  · let items : List Item := [.ok ⟨[⟨0, none, some "Hi"⟩]⟩, .error (.interrupted .bodyBrokeOff)]
    obtain ⟨now, hnow, -, hfaults⟩ := hstreams 0 { numberOfResponses := 1, items, stalls := false } rfl
    have hsome : ((s.after steps).service.streams[0]?).map (·.pulled) = some 2 := by decide +kernel
    rw [hnow, Option.map_some] at hsome
    have hpulled : now.pulled = 2 := Option.some.inj hsome
    exact hfaults 1 _ (by rw [hpulled]; decide) rfl

end Session

end ChatGateway
