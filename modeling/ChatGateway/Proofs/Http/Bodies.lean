import ChatGateway.Http.Sent
import ChatGateway.Proofs.ReadBack.Parts
import ChatGateway.Proofs.Service.Requests

namespace ChatGateway

open Json (Reader Record Quoted Document)

theorem RequestBody.whole_of_mem_members {b : RequestBody} {biases : List (UInt32 × Number.Binary)} :
    ∀ m ∈ b.members biases, m.2.Whole := by
  have hstop : ∀ m ∈ (b.stop.map fun stop => ("stop", Json.ofList (stop.map .ofText))).toList, m.2.Whole := by
    intro m hm
    obtain ⟨stop, -, rfl⟩ := Option.map_eq_some_iff.mp (Option.mem_toList.mp hm)
    exact Json.whole_ofList Json.whole_ofText stop
  simp only [members, List.forall_mem_append, List.forall_mem_cons, List.not_mem_nil, false_implies, implies_true,
    and_true]
  refine ⟨⟨⟨?_, ?_, ?_, ?_, ?_⟩, hstop⟩, ?_, ?_, ?_, ?_⟩
  · exact Json.whole_ofList Message.whole_toJson b.messages
  · exact Json.whole_ofSingle b.temperature
  · exact Json.whole_ofSingle b.topP
  · exact Json.whole_ofNat _
  · exact .bool b.streamed
  · exact Json.whole_ofInt _
  · exact Json.whole_ofSingle b.presencePenalty
  · exact Json.whole_ofSingle b.frequencyPenalty
  · exact TokenBiases.whole_listed biases

namespace Http

variable {b : Binding} {c : Call} {streamed : Bool} {r : ChatRequest} {biases : List (UInt32 × Number.Binary)}

theorem whole_bodyWith (r : ChatRequest) (biases : List (UInt32 × Number.Binary)) : (bodyWith r biases).Whole := by
  refine Json.whole_record ?_
  rw [List.forall_mem_append]
  refine ⟨?_, RequestBody.whole_of_mem_members⟩
  rcases r with ⟨name | name, _, _⟩
  · simpa using Json.whole_ofText name
  · simp

def Reads {α : Type} (members : List (String × Json)) (name : String) (reader : Reader α) (x : α) : Prop :=
  ∃ v, members.lookup name = some v ∧ reader v = .ok x

structure Posted (b : Binding) (c : Call) (streamed : Bool) (members : List (String × Json)) : Prop where
  names : members.map Prod.fst =
    (if b.dialect = .openAI then ["model"] else []) ++ ["messages", "temperature", "top_p", "n", "stream"] ++
      (if c.settings.stopSequences = [] then [] else ["stop"]) ++
      ["max_tokens", "presence_penalty", "frequency_penalty", "logit_bias"]
  model : b.dialect = .openAI → Reads members "model" Reader.text b.modelId
  messages : Reads members "messages" (Reader.list Message.reader) c.messages
  temperature : members.lookup "temperature" = some (.ofSingle c.settings.temperature)
  topP : members.lookup "top_p" = some (.ofSingle c.settings.topP)
  candidates : Reads members "n" (Reader.uint64 "usize") c.settings.numberOfResponses
  streamed : members.lookup "stream" = some (.bool streamed)
  stop : c.settings.stopSequences ≠ [] → Reads members "stop" (Reader.list Reader.text) c.settings.stopSequences
  maxTokens : Reads members "max_tokens" Reader.int32 c.settings.maxTokens
  presencePenalty : members.lookup "presence_penalty" = some (.ofSingle c.settings.presencePenalty)
  frequencyPenalty : members.lookup "frequency_penalty" = some (.ofSingle c.settings.frequencyPenalty)
  tokenBiases : ∃ entries, members.lookup "logit_bias" = some (.record entries) ∧
    (entries.map fun e => (TokenBiases.readKey (.ofText e.1), e.2)).Perm
      (c.settings.tokenBiases.entries.map fun e => (.ok e.1, .ofSingle e.2))

theorem exists_posted (h : r.Asks b c streamed) (horder : biases.Perm r.body.tokenBiases.entries) :
    ∃ members, bodyWith r biases = .record members ∧ Posted b c streamed members := by
  rcases r with ⟨route, connection, ⟨messages, temperature, topP, candidates, marked, stop, maxTokens, presence,
    frequency, _⟩⟩
  obtain ⟨hroute, -, rfl, rfl, rfl, rfl, rfl, hstop, rfl, rfl, rfl, rfl⟩ := h
  dsimp only at hroute hstop horder
  subst hroute hstop
  have hmessages := Reader.list_ofList Message.reader_toJson c.messages
  have hcandidates := Reader.uint64_ofNat "usize" c.settings.numberOfResponses
  have hstops := Reader.list_ofList Reader.text_ofText c.settings.stopSequences
  have hmaxTokens := Reader.int32_ofInt c.settings.maxTokens
  have hbiases : ((biases.map fun e => (TokenBiases.key e.1, Json.ofSingle e.2)).map fun e =>
      (TokenBiases.readKey (.ofText e.1), e.2)).Perm
        (c.settings.tokenBiases.entries.map fun e => (.ok e.1, .ofSingle e.2)) := by
    simpa only [List.map_map, Function.comp_def, TokenBiases.readKey_key] using horder.map _
  refine ⟨_, rfl, ?_⟩
  -- in each of the four shapes of the body the look-ups can be carried out
  by_cases hdialect : b.dialect = .openAI <;> by_cases hstop : c.settings.stopSequences = []
  all_goals
    constructor
    case names => simp [hdialect, hstop, RequestBody.members]
    case model => simp [hdialect, Reads]
    case messages => exact ⟨_, by simp [hdialect, RequestBody.members, List.lookup_cons], hmessages⟩
    case candidates => exact ⟨_, by simp [hdialect, RequestBody.members, List.lookup_cons], hcandidates⟩
    case stop => simp [hdialect, hstop, Reads, RequestBody.members, List.lookup_cons, hstops]
    case maxTokens => exact ⟨_, by simp [hdialect, hstop, RequestBody.members, List.lookup_cons], hmaxTokens⟩
    case tokenBiases =>
      exact ⟨_, by simp [hdialect, hstop, RequestBody.members, List.lookup_cons, TokenBiases.listed], hbiases⟩
    all_goals simp [hdialect, hstop, RequestBody.members, List.lookup_cons]

theorem Posted.nodup_names {members : List (String × Json)} (h : Posted b c streamed members) :
    (members.map Prod.fst).Nodup := by
  rw [h.names]
  split_ifs <;> decide

theorem composeWith_eq_ok {sent : Sent} (h : composeWith r biases = .ok sent) :
    ∃ text url, address r = .ok text ∧ Url.parse? text.toList = some url ∧
      sent = ⟨String.ofList url.text, userHeader url ++ headers r.connection, (bodyWith r biases).render⟩ := by
  obtain ⟨text, htext, h⟩ := bind_eq_ok h
  split at h
  · next url hurl =>
    split at h
    · cases h
      exact ⟨text, url, htext, hurl, rfl⟩
    · cases h
  · cases h

theorem exists_members {sent : Sent} (h : r.Asks b c streamed) (horder : biases.Perm r.body.tokenBiases.entries)
    (hsent : composeWith r biases = .ok sent) :
    ∃ members, Document.parse sent.body = ⟨.record members, true⟩ ∧ (Json.record members).Whole ∧
      Posted b c streamed members := by
  obtain ⟨members, hbody, hposted⟩ := exists_posted h horder
  have hwhole : (Json.record members).Whole := hbody ▸ whole_bodyWith r biases
  obtain ⟨text, url, -, -, rfl⟩ := composeWith_eq_ok hsent
  refine ⟨members, ?_, hwhole, hposted⟩
  rw [hbody, Json.parse_render hwhole]

/-- What is sent for a call is an object that says all that is asked for, each thing once, in whatever order the biases
are written. -/
theorem sent_body_reads_back {b : Binding} {c : Call} {streamed : Bool} {r : ChatRequest}
    {biases : List (UInt32 × Number.Binary)} {sent : Sent}
    (hrequest : ChatRequest.make? b c.messages c.settings streamed = .ok r)
    (horder : biases.Perm r.body.tokenBiases.entries) (hsent : composeWith r biases = .ok sent) :
    ∃ members, Document.parse sent.body = ⟨.record members, true⟩ ∧ (Json.record members).sound = true ∧
      (members.map Prod.fst).Nodup ∧ Posted b c streamed members := by
  obtain ⟨members, hparse, hwhole, hposted⟩ := exists_members (ChatRequest.asks_of_make? hrequest) horder hsent
  exact ⟨members, hparse, hwhole.sound, hposted.nodup_names, hposted⟩

def awkward : Call where
  messages := [⟨.system, "a \"quote\", a \\ and a\ttab"⟩, ⟨.user, "é 😀 \x01"⟩]
  settings :=
    { stopSequences := ["\n", "\"end\""]
      tokenBiases := (TokenBiases.empty.insert 50256 (Number.single.ofInt (-100))).insert 7 (Number.single.ofInt 1) }

theorem awkward_body_reads_back :
    ∃ r sent members,
      ChatRequest.make? ⟨"gpt-\"4\"", "key", .openAI, none, none, some "https://[::1]/"⟩ awkward.messages
        awkward.settings true = .ok r ∧
      composeWith r [(50256, Number.single.ofInt (-100)), (7, Number.single.ofInt 1)] = .ok sent ∧
      Document.parse sent.body = ⟨.record members, true⟩ ∧
      Reads members "model" Reader.text "gpt-\"4\"" ∧
      Reads members "messages" (Reader.list Message.reader) awkward.messages ∧
      Reads members "stop" (Reader.list Reader.text) ["\n", "\"end\""] ∧
      ∃ entries, members.lookup "logit_bias" = some (.record entries) ∧
        (entries.map fun e => (TokenBiases.readKey (.ofText e.1), e.2)).Perm
          [(.ok 7, .ofSingle (Number.single.ofInt 1)), (.ok 50256, .ofSingle (Number.single.ofInt (-100)))] := by
  let b : Binding := ⟨"gpt-\"4\"", "key", .openAI, none, none, some "https://[::1]/"⟩
  let r : ChatRequest := ⟨b.route, b.connection, .make awkward.messages awkward.settings true (some ["\n", "\"end\""])⟩
  let biases := [((50256 : UInt32), Number.single.ofInt (-100)), (7, Number.single.ofInt 1)]
  have hrequest : ChatRequest.make? b awkward.messages awkward.settings true = .ok r := rfl
  have horder : biases.Perm r.body.tokenBiases.entries := .swap _ _ _
  have hsome : (composeWith r biases).toOption.isSome = true := by decide +kernel
  obtain ⟨sent, hsent⟩ := exists_ok_of_isSome hsome
  obtain ⟨members, hparse, -, -, hposted⟩ := sent_body_reads_back (c := awkward) hrequest horder hsent
  exact ⟨r, sent, members, hrequest, hsent, hparse, hposted.model rfl, hposted.messages, hposted.stop (by decide),
    hposted.tokenBiases⟩

end Http

end ChatGateway
