import ChatGateway.Proofs.Http.Dialects
import ChatGateway.Proofs.Service.Runs

namespace ChatGateway

def Binding.withKey (b : Binding) (key : String) : Binding := { b with apiKey := key }

def ChatRequest.withKey (r : ChatRequest) (key : String) : ChatRequest :=
  { r with connection := { r.connection with apiKey := key } }

def AnswersAlike (b : Binding) (key : String) (provider provider' : Provider) : Prop :=
  ∀ n r, r.connection = b.connection → provider' n (r.withKey key) = provider n r

namespace Service

def rekeyed (s : Service) (key : String) (provider : Provider) : Service :=
  { s with binding := s.binding.withKey key, provider, requests := s.requests.map (·.withKey key) }

variable {s : Service} {key : String} {provider' : Provider}

theorem make?_withKey (b : Binding) (key : String) (c : Call) (streamed : Bool) :
    ChatRequest.make? (b.withKey key) c.messages c.settings streamed =
      (ChatRequest.make? b c.messages c.settings streamed).map (·.withKey key) := by
  rw [ChatRequest.make?, ChatRequest.make?]
  cases checkCall c.messages c.settings <;> rfl

theorem send_rekeyed (h : AnswersAlike s.binding key s.provider provider') (c : Call) (streamed : Bool) :
    (s.rekeyed key provider').send c streamed =
      (s.send c streamed).map fun (response, t) => (response, t.rekeyed key provider') := by
  have hmake := make?_withKey s.binding key c streamed
  rw [send_eq, send_eq]
  rw [rekeyed, hmake]
  cases hr : ChatRequest.make? s.binding c.messages c.settings streamed with
  | error refusal => rfl
  | ok r =>
    have hanswer := h s.requests.length r (ChatRequest.asks_of_make? hr).connection
    simp [Except.map, hanswer, rekeyed]

theorem conclude_rekeyed (s : Service) (key : String) (provider' : Provider) (response : Response) :
    (s.rekeyed key provider').conclude response =
      (s.conclude response).map fun (answer, t) => (answer, t.rekeyed key provider') := by
  unfold conclude
  rcases response.reply? with _ | fault | reply
  · rfl
  · rfl
  · by_cases hreports : s.reports <;> simp [rekeyed, hreports]

theorem complete_rekeyed (h : AnswersAlike s.binding key s.provider provider') (c : Call) :
    (s.rekeyed key provider').complete c = ((s.complete c).1, (s.complete c).2.rekeyed key provider') := by
  rw [complete, complete, send_rekeyed h]
  rcases s.send c false with refusal | ⟨response, t⟩
  · rfl
  · simp only [Except.map, conclude_rekeyed]
    rcases t.conclude response with _ | ⟨answer, u⟩ <;> rfl

theorem stream_rekeyed (h : AnswersAlike s.binding key s.provider provider') (c : Call) :
    (s.rekeyed key provider').stream c = ((s.stream c).1, (s.stream c).2.rekeyed key provider') := by
  rw [stream, stream, send_rekeyed h]
  rcases s.send c true with refusal | ⟨response, t⟩
  · rfl
  · simp only [Except.map, open?]
    rcases response.opened with fault | ⟨items, stalls⟩ <;> rfl

theorem next_rekeyed (s : Service) (key : String) (provider' : Provider) (k : Nat) :
    (s.rekeyed key provider').next k = ((s.next k).1, (s.next k).2.rekeyed key provider') := by
  have hstreams : (s.rekeyed key provider').streams = s.streams := rfl
  simp only [next, withStream, hstreams]
  cases s.streams[k]? <;> rfl

end Service

namespace Session

def rekeyed (s : Session) (key : String) (provider : Provider) : Session :=
  { s with service := s.service.rekeyed key provider }

variable {s : Session} {key : String} {provider' : Provider}

theorem drop_rekeyed (s : Session) (key : String) (provider' : Provider) (name : String) :
    (s.rekeyed key provider').drop name = (s.drop name).rekeyed key provider' := by
  have hkept : (s.rekeyed key provider').kept = s.kept := rfl
  simp only [drop, hkept]
  cases s.kept.lookup name <;> rfl

theorem ask_rekeyed (s : Session) (key : String) (provider' : Provider) (name : String) :
    (s.rekeyed key provider').ask name = ((s.ask name).1, (s.ask name).2.rekeyed key provider') := by
  have hkept : (s.rekeyed key provider').kept = s.kept := rfl
  simp only [ask, hkept]
  cases s.kept.lookup name with
  | none => rfl
  | some k =>
    have hnext := s.service.next_rekeyed key provider' k
    simp only [rekeyed, hnext]

theorem drain_rekeyed (s : Session) (key : String) (provider' : Provider) (name : String) (fuel : Nat) :
    (s.rekeyed key provider').drain name fuel =
      ((s.drain name fuel).1, (s.drain name fuel).2.rekeyed key provider') := by
  induction fuel generalizing s with
  | zero => rfl
  | succ fuel ih =>
    rw [drain, drain, ask_rekeyed]
    rcases s.ask name with ⟨_ | _ | _ | _ | _, t⟩ <;> simp only [ih]

theorem keep_rekeyed (s : Session) (key : String) (provider' : Provider) (name : String)
    (opened : Except Failure Nat × Service) :
    (s.rekeyed key provider').keep name (opened.1, opened.2.rekeyed key provider') =
      ((s.keep name opened).1, (s.keep name opened).2.rekeyed key provider') := by
  rcases opened with ⟨failure | k, t⟩
  · rfl
  · let u : Session := { s with service := t }
    have hkeep : (s.rekeyed key provider').keep name (.ok k, t.rekeyed key provider') =
        (.opened, { (u.rekeyed key provider').drop name with
          kept := (name, k) :: ((u.rekeyed key provider').drop name).kept }) := rfl
    rw [hkeep, drop_rekeyed]
    rfl

theorem step_rekeyed (h : AnswersAlike s.service.binding key s.service.provider provider') (step : Step) :
    (s.rekeyed key provider').step step = ((s.step step).1, (s.step step).2.rekeyed key provider') := by
  have hservice : (s.rekeyed key provider').service = s.service.rekeyed key provider' := rfl
  cases step with
  | completeChat call => simp only [Session.step, Service.complete_rekeyed h, rekeyed]
  | completeText prompt settings =>
    simp only [Session.step, Service.completeText, Service.complete_rekeyed h, rekeyed]
  | streamChat name call => simp only [Session.step, hservice, Service.stream_rekeyed h, keep_rekeyed]
  | streamText name prompt settings =>
    simp only [Session.step, hservice, Service.streamText, Service.stream_rekeyed h, keep_rekeyed]
  | next name => simp only [Session.step, ask_rekeyed]
  | drain name =>
    have hbound : (s.rekeyed key provider').drainBound name = s.drainBound name := rfl
    simp only [Session.step, hbound, drain_rekeyed]
  | drop name => simp only [Session.step, drop_rekeyed]

theorem run_rekeyed (h : AnswersAlike s.service.binding key s.service.provider provider') (steps : List Step) :
    (s.rekeyed key provider').run steps = (s.run steps).map fun (outcome, t) => (outcome, t.rekeyed key provider') := by
  induction steps generalizing s with
  | nil => rfl
  | cons step steps ih =>
    obtain ⟨hbinding, hprovider, -⟩ := s.step_terms step
    rw [run, step_rekeyed h, ih (by rwa [hbinding, hprovider])]
    rfl

end Session

namespace Http

def Sent.redacted (s : Sent) : Sent :=
  { s with headers := s.headers.map fun h => if h.isCredential then { h with value := "" } else h }

/-- What one network does with the requests of a binding, the other does with those of another binding, if they differ
in nothing but the credential. -/
def Equate (b b' : Binding) (network network' : Network) : Prop :=
  ∀ sent sent', credential b.connection ∈ sent.headers → credential b'.connection ∈ sent'.headers →
    sent'.redacted = sent.redacted → network' sent' = network sent

def Shows (b : Binding) : Prop := (credential b.connection).isValid = true

inductive Composed (c c' : Connection) : Except Fault Sent → Except Fault Sent → Prop
  | failed (fault : Fault) : Composed c c' (.error fault) (.error fault)
  | sent {sent sent' : Sent} (shows : credential c ∈ sent.headers) (shows' : credential c' ∈ sent'.headers)
      (same : sent'.redacted = sent.redacted) : Composed c c' (.ok sent) (.ok sent')

variable {b : Binding} {key : String}

theorem all_isValid_headers {c : Connection} (h : (credential c).isValid = true) :
    (headers c).all Header.isValid =
      (c.organization.map fun name => Header.isValid ⟨"openai-organization", name⟩).getD true := by
  have hcontent : Header.isValid ⟨"content-type", "application/json"⟩ = true := by decide
  rw [headers, List.all_append, List.all_cons, List.all_cons, hcontent, h]
  cases c.organization <;> simp

theorem redacted_headers (c : Connection) (key : String) :
    (headers { c with apiKey := key }).map (fun h => if h.isCredential then { h with value := "" } else h) =
      (headers c).map fun h => if h.isCredential then { h with value := "" } else h := by
  rcases c with ⟨_, dialect, _, _, organization⟩
  cases dialect <;> cases organization <;> rfl

theorem credential_mem_headers (c : Connection) : credential c ∈ headers c := by simp [headers]

theorem composed (h : Shows b) (h' : Shows (b.withKey key)) {r : ChatRequest} (hr : r.connection = b.connection) :
    Composed b.connection (b.withKey key).connection (compose r) (compose (r.withKey key)) := by
  have hconnection : (r.withKey key).connection = (b.withKey key).connection := by
    rw [ChatRequest.withKey, hr]
    rfl
  have haddress : address (r.withKey key) = address r := rfl
  have hbody : body (r.withKey key) = body r := rfl
  have hvalid : (headers (b.withKey key).connection).all Header.isValid =
      (headers b.connection).all Header.isValid := by
    rw [all_isValid_headers h', all_isValid_headers h]
    rfl
  unfold body at hbody
  rw [compose, compose, composeWith, composeWith, haddress, hbody, hconnection, hr, hvalid]
  cases address r with
  | error fault => exact .failed fault
  | ok text =>
    rw [ok_bind, ok_bind]
    cases Url.parse? text.toList with
    | none => exact .failed _
    | some url =>
      dsimp only
      split
      · apply Composed.sent
        · exact List.mem_append_right _ (credential_mem_headers _)
        · exact List.mem_append_right _ (credential_mem_headers _)
        · simp only [Sent.redacted, List.map_append, Sent.mk.injEq, true_and, and_true]
          exact congrArg _ (redacted_headers b.connection key)
      · exact .failed _

theorem respond_withKey (h : Shows b) (h' : Shows (b.withKey key)) {network network' : Network}
    (hequate : Equate b (b.withKey key) network network') {r : ChatRequest} (hr : r.connection = b.connection) :
    respond network' (r.withKey key) = respond network r := by
  have hcomposed := composed h h' hr
  unfold respond
  generalize compose r = x, compose (r.withKey key) = x' at hcomposed
  cases hcomposed with
  | failed fault => rfl
  | sent shows shows' same =>
    simp only [hequate _ _ shows shows' same]
    rfl

end Http

namespace Session

open Http (Network Sent compose Shows Equate)

def overNetworks (networks : Nat → Network) (binding : Binding) (reports : Bool) : Session where
  service := { binding, provider := fun n => Http.respond (networks n), reports }

structure Alike (x x' : Outcome × Session) : Prop where
  outcome : x'.1 = x.1
  kept : x'.2.kept = x.2.kept
  usages : x'.2.service.usages = x.2.service.usages
  streams : x'.2.service.streams = x.2.service.streams
  sent : x'.2.service.requests.map (fun r => (compose r).map Sent.redacted) =
    x.2.service.requests.map fun r => (compose r).map Sent.redacted

theorem connection_of_mem_requests {s : Session} (h : s.service.requests = []) (steps : List Step) :
    ∀ r ∈ (s.after steps).service.requests, r.connection = s.service.binding.connection := by
  obtain ⟨sent, hsent, hall⟩ := s.after_requests steps
  rw [hsent, h, List.nil_append]
  have hboth : List.Forall₂ (fun r (_ : Call × Bool) => r.connection = s.service.binding.connection ∧ True) sent
      (soundCalls steps) := hall.flip.imp fun r p h => ⟨h.connection, trivial⟩
  exact ((List.forall₂_and_left _ _).mp hboth).1

variable {b : Binding} {key : String} {networks networks' : Nat → Network}

theorem alike_run (h : Shows b) (h' : Shows (b.withKey key))
    (hequate : ∀ n, Equate b (b.withKey key) (networks n) (networks' n)) (reports : Bool) (steps : List Step) :
    List.Forall₂ Alike ((overNetworks networks b reports).run steps)
      ((overNetworks networks' (b.withKey key) reports).run steps) := by
  let s := overNetworks networks b reports
  have hanswers : AnswersAlike s.service.binding key s.service.provider fun n => Http.respond (networks' n) :=
    fun n r hr => Http.respond_withKey h h' (hequate n) hr
  have hrekeyed : overNetworks networks' (b.withKey key) reports =
      s.rekeyed key fun n => Http.respond (networks' n) := rfl
  rw [hrekeyed, run_rekeyed hanswers, List.forall₂_map_right_iff, List.forall₂_same]
  intro x hx
  obtain ⟨before, hbefore⟩ := exists_after_of_mem_run hx
  refine ⟨rfl, rfl, rfl, rfl, ?_⟩
  change (x.2.service.requests.map (·.withKey key)).map _ = _
  rw [List.map_map]
  refine List.map_congr_left fun r hr => ?_
  have hconnection : r.connection = b.connection := by
    rw [hbefore] at hr
    exact connection_of_mem_requests rfl before r hr
  have hcomposed := Http.composed h h' hconnection
  change (compose (r.withKey key)).map Sent.redacted = _
  generalize compose r = y, compose (r.withKey key) = y' at hcomposed
  cases hcomposed with
  | failed fault => rfl
  | sent _ _ same => exact congrArg Except.ok same

end Session

namespace Http

open Binding (Origin)

/-- The calls of a binding without a name in its endpoint keep to its dialect. How many slashes end the endpoint makes
no difference, and the key shows in nothing but the credential, whatever is done with the sessions. -/
theorem calls_keep_to_dialect {origin : Origin} {b : Binding} (hmake : origin.make = .ok b)
    (hplain : ∀ e ∈ b.endpoint, '@' ∉ e.toList) :
    (∀ (c : Call) streamed r, ChatRequest.make? b c.messages c.settings streamed = .ok r →
      (∀ network, Exchanged network r (arrived? network r) (respond network r) ∧
        ∀ name, .noEndpoint name ∉ (respond network r).faults) ∧
        (∃ text, address r = .ok text ∧ b.Addresses text) ∧
        ∀ biases sent, biases.Perm r.body.tokenBiases.entries → composeWith r biases = .ok sent → InDialect b sent) ∧
    (∀ b', DifferInSlashes b b' → ∀ (c : Call) streamed r,
      ChatRequest.make? b c.messages c.settings streamed = .ok r →
        ∃ r', ChatRequest.make? b' c.messages c.settings streamed = .ok r' ∧ compose r' = compose r) ∧
    ∀ key, Shows b → Shows (b.withKey key) → ∀ networks networks' : Nat → Network,
      (∀ n, Equate b (b.withKey key) (networks n) (networks' n)) → ∀ reports steps,
        List.Forall₂ Session.Alike ((Session.overNetworks networks b reports).run steps)
          ((Session.overNetworks networks' (b.withKey key) reports).run steps) := by
  have hsound := Origin.sound_of_make hmake
  refine ⟨?_, ?_, ?_⟩
  · intro c streamed r hr
    have hasks := ChatRequest.asks_of_make? hr
    obtain ⟨text, htext, haddresses⟩ := exists_addresses hsound hasks
    refine ⟨fun network => ⟨exchanged network r, noEndpoint_not_mem_faults network htext⟩, ⟨text, htext, haddresses⟩, ?_⟩
    intro biases sent horder hsent
    exact inDialect hsound hplain hasks horder hsent
  · intro b' hdiffer c streamed r hr
    obtain ⟨r', hr', hasks'⟩ : ∃ r', ChatRequest.make? b' c.messages c.settings streamed = .ok r' ∧
        r'.Asks b' c streamed := ChatRequest.make?_of_sound (ChatRequest.sound_of_make? hr)
    exact ⟨r', hr', compose_eq_of_differInSlashes hdiffer (ChatRequest.asks_of_make? hr) hasks'⟩
  · intro key hshows hshows' networks networks' hequate reports steps
    exact Session.alike_run hshows hshows' hequate reports steps

def echoing (c : Connection) : Network := fun sent =>
  if credential c ∈ sent.headers then .answered (telling (sent.redacted.url ++ sent.redacted.body))
  else .answered ⟨401, [], false⟩

theorem equate_echoing (b b' : Binding) : Equate b b' (echoing b.connection) (echoing b'.connection) := by
  intro sent sent' shows shows' same
  simp only [echoing, shows, shows', same, if_true]

theorem respond_echoing {r : ChatRequest} {sent : Sent} (hsent : compose r = .ok sent) (h : r.body.streamed = false) :
    respond (echoing r.connection) r =
      .reply (.ok ⟨[⟨0, none, some (sent.url ++ sent.body), none⟩], none⟩) := by
  have hshows : credential r.connection ∈ sent.headers := by
    obtain ⟨text, url, -, -, rfl⟩ := composeWith_eq_ok hsent
    exact List.mem_append_right _ (credential_mem_headers _)
  have hreaction : echoing r.connection sent = .answered (telling (sent.url ++ sent.body)) := by
    rw [echoing, if_pos hshows]
    rfl
  have hsucceeded : (telling (sent.url ++ sent.body)).succeeded = true := rfl
  simp only [respond, hsent, hreaction, Answer.response, hsucceeded, h, reply_telling]
  rfl

theorem run_echoing {b : Binding} {c : Call} {r : ChatRequest} {sent : Sent}
    (hrequest : ChatRequest.make? b c.messages c.settings false = .ok r) (hsent : compose r = .ok sent)
    (reports : Bool) :
    ((Session.overNetworks (fun _ => echoing b.connection) b reports).run [.completeChat c]).map Prod.fst =
      [.completed (.single (sent.url ++ sent.body))] := by
  have hasks := ChatRequest.asks_of_make? hrequest
  have hconnection : r.connection = b.connection := hasks.connection
  let s := Session.overNetworks (fun _ => echoing b.connection) b reports
  have hreply : (s.service.provider 0 r).reply? =
      some (.ok ⟨[⟨0, none, some (sent.url ++ sent.body), none⟩], none⟩) := by
    have hrespond := respond_echoing hsent hasks.streamed
    rw [hconnection] at hrespond
    exact congrArg Response.reply? hrespond
  have hcomplete : (s.service.complete c).1 = _ := Service.complete_of_reply hrequest hreply
  have hcompletion : Reply.completion ⟨[⟨0, none, some (sent.url ++ sent.body), none⟩], none⟩ =
      .single (sent.url ++ sent.body) := by
    simp [Reply.completion, Reply.texts]
  rw [hcompletion] at hcomplete
  exact congrArg (fun answer => [Session.Outcome.ofAnswer answer]) hcomplete

theorem deployment_keeps_to_dialect :
    let steps : List Session.Step := [.completeChat ⟨[⟨.user, "Hello"⟩], .default⟩]
    ∃ b r sent, (Origin.azure "dep" "https://[::1]//" " key " none false).make = .ok b ∧
      ChatRequest.make? b [⟨.user, "Hello"⟩] .default false = .ok r ∧ compose r = .ok sent ∧ InDialect b sent ∧
      ((Session.overNetworks (fun _ => echoing b.connection) b true).run steps).map Prod.fst =
        [.completed (.single (sent.url ++ sent.body))] ∧
      List.Forall₂ Session.Alike ((Session.overNetworks (fun _ => echoing b.connection) b true).run steps)
        ((Session.overNetworks (fun _ => echoing (b.withKey "other").connection) (b.withKey "other") true).run
          steps) := by
  intro steps
  have hmake : (Origin.azure "dep" "https://[::1]//" " key " none false).make =
      .ok (Binding.deployed "dep" "https://[::1]//" "key" none false) := by decide +kernel
  let b := Binding.deployed "dep" "https://[::1]//" "key" none false
  have hsome : (compose b.greeting).toOption.isSome = true := by decide +kernel
  obtain ⟨sent, hsent⟩ := exists_ok_of_isSome hsome
  have hplain : ∀ e ∈ b.endpoint, '@' ∉ e.toList := by
    rintro e ⟨⟩
    decide
  obtain ⟨hcalls, -, hruns⟩ := calls_keep_to_dialect hmake hplain
  have hdialect := (hcalls ⟨[⟨.user, "Hello"⟩], .default⟩ false _ b.make?_greeting).2.2 _ sent (.refl _) hsent
  have hshows : (credential b.connection).isValid = true := by decide +kernel
  have hshows' : (credential (b.withKey "other").connection).isValid = true := by decide +kernel
  have hechoed := run_echoing (c := ⟨[⟨.user, "Hello"⟩], .default⟩) b.make?_greeting hsent true
  exact ⟨b, b.greeting, sent, hmake, b.make?_greeting, hsent, hdialect, hechoed,
    hruns "other" hshows hshows' _ _ (fun _ => equate_echoing b _) true _⟩

end Http

end ChatGateway
