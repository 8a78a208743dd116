import ChatGateway.Service
import Mathlib.Data.List.Basic

namespace ChatGateway

namespace Call

def objections (c : Call) : List Refusal :=
  (if 1 ≤ c.settings.maxTokens then [] else [.tooFewTokens c.settings.maxTokens]) ++
  (if 1 ≤ c.settings.numberOfResponses then [] else [.tooFewResponses c.settings.numberOfResponses]) ++
  (if c.messages = [] then [.noMessages] else []) ++
  (c.messages.getLast?.toList.filter (·.role ≠ .user)).map fun last => .lastNotFromUser last.role

structure Sound (c : Call) : Prop where
  tokens : 1 ≤ c.settings.maxTokens
  responses : 1 ≤ c.settings.numberOfResponses
  last : ∃ before text, c.messages = before ++ [⟨.user, text⟩]

theorem objections_eq_nil_iff (c : Call) : c.objections = [] ↔ c.Sound := by
  rcases c with ⟨messages, settings⟩
  constructor
  · intro h
    simp only [objections, List.append_eq_nil_iff, List.map_eq_nil_iff, ite_eq_left_iff, ite_eq_right_iff,
      List.cons_ne_nil, imp_false, not_not] at h
    obtain ⟨⟨⟨tokens, responses⟩, nonempty⟩, last⟩ := h
    refine ⟨tokens, responses, ?_⟩
    have hlast := List.getLast?_eq_some_getLast nonempty
    have huser : (messages.getLast nonempty).role = .user := by simpa [hlast] using last
    refine ⟨messages.dropLast, (messages.getLast nonempty).content, ?_⟩
    rw [← huser]
    exact (List.dropLast_append_getLast nonempty).symm
  · rintro ⟨tokens, responses, before, text, rfl⟩
    simp [objections, tokens, responses]

instance (c : Call) : Decidable c.Sound := decidable_of_iff _ c.objections_eq_nil_iff

theorem exists_objection {c : Call} (h : ¬c.Sound) : ∃ refusal, c.objections.head? = some refusal := by
  rw [← objections_eq_nil_iff] at h
  exact ⟨_, List.head?_eq_some_head h⟩

theorem checkCall_eq (c : Call) :
    checkCall c.messages c.settings = c.objections.head?.elim (.ok ()) .error := by
  rcases c with ⟨messages, settings⟩
  unfold checkCall objections
  by_cases tokens : settings.maxTokens < 1
  · simp [tokens, Int32.not_le.mpr tokens]
  by_cases responses : settings.numberOfResponses < 1
  · simp [tokens, responses, Int32.not_lt.mp tokens, UInt64.not_le.mpr responses]
  have htokens := Int32.not_lt.mp tokens
  have hresponses := UInt64.not_lt.mp responses
  cases hlast : messages.getLast? with
  | none => simp [tokens, responses, htokens, hresponses, List.getLast?_eq_none_iff.mp hlast]
  | some last =>
    have hne : messages ≠ [] := by
      rintro rfl
      simp at hlast
    by_cases huser : last.role = .user <;> simp [tokens, responses, htokens, hresponses, hne, huser]

end Call

structure ChatRequest.Asks (b : Binding) (c : Call) (streamed : Bool) (r : ChatRequest) : Prop where
  route : r.route = if b.dialect = .openAI then .model b.modelId else .deployment b.modelId
  connection : r.connection = ⟨b.apiKey, b.dialect, b.endpoint, b.apiVersion, b.organization⟩
  messages : r.body.messages = c.messages
  temperature : r.body.temperature = c.settings.temperature
  topP : r.body.topP = c.settings.topP
  candidates : r.body.candidates = c.settings.numberOfResponses
  streamed : r.body.streamed = streamed
  stop : r.body.stop = if c.settings.stopSequences = [] then none else some c.settings.stopSequences
  maxTokens : r.body.maxTokens = c.settings.maxTokens
  presencePenalty : r.body.presencePenalty = c.settings.presencePenalty
  frequencyPenalty : r.body.frequencyPenalty = c.settings.frequencyPenalty
  tokenBiases : r.body.tokenBiases = c.settings.tokenBiases

namespace ChatRequest

def marked (r : ChatRequest) (streamed : Bool) : ChatRequest := { r with body := { r.body with streamed } }

structure Sound (b : Binding) (r : ChatRequest) : Prop where
  maxTokens : 1 ≤ r.body.maxTokens
  candidates : 1 ≤ r.body.candidates
  last : ∃ before text, r.body.messages = before ++ [⟨.user, text⟩]
  stop : r.body.stop ≠ some []
  route : r.route = if b.dialect = .openAI then .model b.modelId else .deployment b.modelId
  connection : r.connection = ⟨b.apiKey, b.dialect, b.endpoint, b.apiVersion, b.organization⟩

variable {b : Binding} {c : Call} {streamed : Bool} {r r' : ChatRequest}

theorem Asks.eq_marked {streamed' : Bool} (h : Asks b c streamed r) (h' : Asks b c streamed' r') :
    r' = r.marked streamed' := by
  rcases r with ⟨_, _, ⟨_, _, _, _, _, _, _, _, _, _⟩⟩
  rcases r' with ⟨_, _, ⟨_, _, _, _, _, _, _, _, _, _⟩⟩
  obtain ⟨rfl, rfl, rfl, rfl, rfl, rfl, rfl, rfl, rfl, rfl, rfl, rfl⟩ := h
  obtain ⟨rfl, rfl, rfl, rfl, rfl, rfl, rfl, rfl, rfl, rfl, rfl, rfl⟩ := h'
  rfl

theorem Asks.body_eq {b' : Binding} (h : Asks b c streamed r) (h' : Asks b' c streamed r') : r.body = r'.body := by
  rcases r with ⟨_, _, ⟨_, _, _, _, _, _, _, _, _, _⟩⟩
  rcases r' with ⟨_, _, ⟨_, _, _, _, _, _, _, _, _, _⟩⟩
  obtain ⟨-, -, rfl, rfl, rfl, rfl, rfl, rfl, rfl, rfl, rfl, rfl⟩ := h
  obtain ⟨-, -, rfl, rfl, rfl, rfl, rfl, rfl, rfl, rfl, rfl, rfl⟩ := h'
  rfl

theorem Asks.sound (h : Asks b c streamed r) (hc : c.Sound) : r.Sound b where
  maxTokens := h.maxTokens ▸ hc.tokens
  candidates := h.candidates ▸ hc.responses
  last := h.messages ▸ hc.last
  stop := by
    rw [h.stop]
    split_ifs with hstop
    · simp
    · simp [hstop]
  route := h.route
  connection := h.connection

theorem make?_of_objection {refusal : Refusal} (h : c.objections.head? = some refusal) :
    make? b c.messages c.settings streamed = .error refusal := by
  unfold make?
  rw [c.checkCall_eq, h]
  rfl

theorem make?_of_sound (h : c.Sound) :
    ∃ r, make? b c.messages c.settings streamed = .ok r ∧ r.Asks b c streamed := by
  have hnone := c.objections_eq_nil_iff.mpr h
  let stop := if c.settings.stopSequences.isEmpty then none else some c.settings.stopSequences
  refine ⟨⟨b.route, b.connection, .make c.messages c.settings streamed stop⟩, ?_, ?_⟩
  · unfold make?
    rw [c.checkCall_eq, hnone]
    rfl
  · constructor <;> try rfl
    · cases hdialect : b.dialect <;> simp [Binding.route, Dialect.isAzure, hdialect]
    · simp [RequestBody.make, stop]

theorem sound_of_make? (h : make? b c.messages c.settings streamed = .ok r) : c.Sound := by
  by_contra hsound
  obtain ⟨refusal, hrefusal⟩ := Call.exists_objection hsound
  rw [make?_of_objection hrefusal] at h
  cases h

theorem asks_of_make? (h : make? b c.messages c.settings streamed = .ok r) : r.Asks b c streamed := by
  obtain ⟨r', hmake, hasks⟩ : ∃ r', make? b c.messages c.settings streamed = .ok r' ∧ r'.Asks b c streamed :=
    make?_of_sound (sound_of_make? h)
  rw [h] at hmake
  cases hmake
  exact hasks

end ChatRequest

def Response.answer? (response : Response) : Option (Except Failure Completion) :=
  response.reply?.map fun reply => (reply.map Reply.completion).mapError .callFailed

namespace Service

variable {s t : Service} {c : Call} {streamed : Bool}

theorem send_eq (s : Service) (c : Call) (streamed : Bool) :
    s.send c streamed =
      (ChatRequest.make? s.binding c.messages c.settings streamed).map fun request =>
        (s.provider s.requests.length request, { s with requests := s.requests ++ [request] }) := by
  unfold send
  cases ChatRequest.make? s.binding c.messages c.settings streamed <;> rfl

theorem conclude_eq {response : Response} {answer : Except Failure Completion}
    (h : s.conclude response = some (answer, t)) : ∃ usages, t = { s with usages } := by
  obtain ⟨r, -, heq⟩ := Option.map_eq_some_iff.mp h
  cases r with
  | error fault => exact ⟨s.usages, (Prod.mk.inj heq).2.symm⟩
  | ok reply =>
    obtain ⟨-, rfl⟩ := Prod.mk.inj heq
    split
    · exact ⟨_, rfl⟩
    · exact ⟨s.usages, rfl⟩

theorem conclude_fst (s : Service) (response : Response) : (s.conclude response).map Prod.fst = response.answer? := by
  unfold conclude Response.answer?
  rcases response.reply? with _ | fault | reply <;> rfl

theorem conclude_frame {response : Response} {answer : Except Failure Completion}
    (h : s.conclude response = some (answer, t)) :
    t.binding = s.binding ∧ t.provider = s.provider ∧ t.requests = s.requests ∧ t.streams = s.streams := by
  obtain ⟨usages, rfl⟩ := conclude_eq h
  exact ⟨rfl, rfl, rfl, rfl⟩

theorem send_of_objection {refusal : Refusal} (h : c.objections.head? = some refusal) :
    s.send c streamed = .error refusal := by
  rw [send_eq, ChatRequest.make?_of_objection h]
  rfl

theorem complete_of_objection {refusal : Refusal} (h : c.objections.head? = some refusal) :
    s.complete c = (some (.error (.refused refusal)), s) := by
  rw [complete, send_of_objection h]

theorem stream_of_objection {refusal : Refusal} (h : c.objections.head? = some refusal) :
    s.stream c = (.error (.refused refusal), s) := by
  rw [stream, send_of_objection h]

theorem send_of_sound (s : Service) (streamed : Bool) (h : c.Sound) : ∃ r : ChatRequest, r.Asks s.binding c streamed ∧
    s.send c streamed = .ok (s.provider s.requests.length r, { s with requests := s.requests ++ [r] }) := by
  obtain ⟨r, hmade, hasks⟩ := ChatRequest.make?_of_sound h
  refine ⟨r, hasks, ?_⟩
  rw [send_eq, hmade]
  rfl

structure Asked (s : Service) (c : Call) (streamed : Bool) (r : ChatRequest) (t : Service) : Prop where
  binding : t.binding = s.binding
  asks : r.Asks s.binding c streamed
  requests : t.requests = s.requests ++ [r]

theorem complete_of_sound (s : Service) (h : c.Sound) :
    ∃ r, s.Asked c false r (s.complete c).2 ∧ (s.complete c).1 = (s.provider s.requests.length r).answer? := by
  obtain ⟨r, hasks, hsend⟩ := s.send_of_sound false h
  refine ⟨r, ?_⟩
  have hanswer := conclude_fst { s with requests := s.requests ++ [r] } (s.provider s.requests.length r)
  simp only [complete, hsend]
  cases hconclude : conclude { s with requests := s.requests ++ [r] } (s.provider s.requests.length r) with
  | none =>
    rw [hconclude] at hanswer
    exact ⟨⟨rfl, hasks, rfl⟩, hanswer⟩
  | some concluded =>
    rw [hconclude] at hanswer
    obtain ⟨binding, -, requests, -⟩ := conclude_frame hconclude
    exact ⟨⟨binding, hasks, requests⟩, hanswer⟩

theorem stream_of_sound (s : Service) (h : c.Sound) :
    ∃ r, s.Asked c true r (s.stream c).2 ∧
      (s.stream c).1 = ((s.provider s.requests.length r).opened.map fun _ => s.streams.length).mapError .callFailed := by
  obtain ⟨r, hasks, hsend⟩ := s.send_of_sound true h
  refine ⟨r, ?_⟩
  simp only [stream, hsend, open?]
  cases (s.provider s.requests.length r).opened <;> exact ⟨⟨rfl, hasks, rfl⟩, rfl⟩

theorem complete_of_reply {s : Service} {call : Call} {request : ChatRequest} {reply : Reply}
    (hrequest : ChatRequest.make? s.binding call.messages call.settings false = .ok request)
    (hreply : (s.provider s.requests.length request).reply? = some (.ok reply)) :
    (s.complete call).1 = some (.ok reply.completion) := by
  rw [complete, send_eq, hrequest]
  simp [Except.map, conclude, hreply]

structure SameTerms (s t : Service) : Prop where
  binding : t.binding = s.binding
  provider : t.provider = s.provider
  reports : t.reports = s.reports

theorem SameTerms.trans {u : Service} (h : s.SameTerms t) (h' : t.SameTerms u) : s.SameTerms u :=
  ⟨h'.binding.trans h.binding, h'.provider.trans h.provider, h'.reports.trans h.reports⟩

theorem complete_terms (s : Service) (c : Call) : s.SameTerms (s.complete c).2 := by
  rw [complete, send_eq]
  cases ChatRequest.make? s.binding c.messages c.settings false with
  | error refusal => exact ⟨rfl, rfl, rfl⟩
  | ok r =>
    simp only [Except.map]
    split
    · next hconclude =>
      obtain ⟨usages, rfl⟩ := conclude_eq hconclude
      exact ⟨rfl, rfl, rfl⟩
    · exact ⟨rfl, rfl, rfl⟩

theorem stream_terms (s : Service) (c : Call) : s.SameTerms (s.stream c).2 := by
  rw [stream, send_eq]
  cases ChatRequest.make? s.binding c.messages c.settings true with
  | error refusal => exact ⟨rfl, rfl, rfl⟩
  | ok r =>
    simp only [Except.map, open?]
    cases (s.provider s.requests.length r).opened <;> exact ⟨rfl, rfl, rfl⟩

theorem next_terms (s : Service) (k : Nat) : s.SameTerms (s.next k).2 := by
  unfold next withStream
  split <;> exact ⟨rfl, rfl, rfl⟩

end Service

end ChatGateway
