import ChatGateway.Http.Exchange
import ChatGateway.Proofs.ReadBack.Parts
import ChatGateway.Proofs.Text.Encoding

namespace ChatGateway

namespace EventStream

theorem mem_deliver {others : List Item} {item : Item} (payloads : List (List Char))
    (h : item ∈ deliver others payloads) :
    item ∈ others ∨ (∃ c, item = .ok c) ∨ ∃ reason, item = .error (.obscure reason) := by
  induction payloads with
  | nil => exact .inl h
  | cons payload payloads ih =>
    rw [deliver] at h
    cases hnotice : Notice.ofPayload payload with
    | blank => exact ih (by simpa only [hnotice] using h)
    | done => simp [hnotice] at h
    | chunk c =>
      simp only [hnotice, List.mem_cons] at h
      rcases h with rfl | h
      · exact .inr (.inl ⟨c, rfl⟩)
      · exact ih h
    | unreadable e =>
      simp only [hnotice, List.mem_singleton] at h
      exact .inr (.inr ⟨_, h⟩)

theorem State.fault_of_mem_items {s : State} {fault : Fault} (pieces : List Piece) (h : .error fault ∈ s.items pieces) :
    (∃ reason, fault = .obscure reason) ∨ ∃ reason, fault = .interrupted reason := by
  induction pieces generalizing s with
  | nil =>
    rw [items, ending] at h
    split at h
    · cases h
    all_goals
      cases List.mem_singleton.mp h
      exact .inr ⟨_, rfl⟩
  | cons piece pieces ih =>
    cases piece with
    | failure reason =>
      cases List.mem_singleton.mp h
      exact .inr ⟨reason, rfl⟩
    | bytes bs =>
      rcases mem_deliver _ h with h | ⟨c, h⟩ | ⟨reason, h⟩
      · exact ih h
      · cases h
      · cases h
        exact .inl ⟨reason, rfl⟩

end EventStream

def Response.faults : Response → List Fault
  | .failure fault | .reply (.error fault) => [fault]
  | .reply (.ok _) | .silence => []
  | .stream items _ => items.filterMap fun
    | .error fault => some fault
    | .ok _ => none

namespace Http

theorem Answer.noEndpoint_not_mem_faults (a : Answer) (streamed : Bool) (name : String) :
    .noEndpoint name ∉ (a.response streamed).faults := by
  unfold response
  split
  · simp [Response.faults]
  split
  · intro h
    obtain ⟨item, hitem, hfault⟩ := List.mem_filterMap.mp h
    cases item with
    | ok c => cases hfault
    | error fault =>
      cases hfault
      rcases EventStream.State.fault_of_mem_items _ hitem with ⟨reason, h⟩ | ⟨reason, h⟩ <;> cases h
  · unfold reply
    split
    · simp [Response.faults]
    split
    · next s _ =>
      cases Reply.reader.ofText (String.ofList s) <;> simp [Except.mapError, Response.faults]
    · simp [Response.faults]

/-- What becomes of a chat request: whether it arrives, and the response. The network is asked with the request that is
composed, and with no other. -/
inductive Exchanged (network : Network) (r : ChatRequest) : Option Sent → Response → Prop
  | failed {fault : Fault} (composed : compose r = .error fault) : Exchanged network r none (.failure fault)
  | unreachable {sent : Sent} (composed : compose r = .ok sent) (reaction : network sent = .unreachable) :
    Exchanged network r none (.failure .notSent)
  | hungUp {sent : Sent} (composed : compose r = .ok sent) (reaction : network sent = .hungUp) :
    Exchanged network r (some sent) (.failure .notSent)
  | answered {sent : Sent} {a : Answer} (composed : compose r = .ok sent) (reaction : network sent = .answered a) :
    Exchanged network r (some sent) (a.response r.body.streamed)

theorem exchanged (network : Network) (r : ChatRequest) :
    Exchanged network r (arrived? network r) (respond network r) := by
  unfold arrived? respond
  cases hcompose : compose r with
  | error fault => exact .failed hcompose
  | ok sent =>
    cases hreaction : network sent with
    | unreachable => simpa only [hreaction] using .unreachable hcompose hreaction
    | hungUp => simpa only [hreaction] using .hungUp hcompose hreaction
    | answered a => simpa only [hreaction] using .answered hcompose hreaction

theorem compose_eq_error {r : ChatRequest} {text : String} (h : address r = .ok text) {fault : Fault}
    (hfault : compose r = .error fault) : fault = .notBuilt := by
  rw [compose, composeWith, h, ok_bind] at hfault
  split at hfault
  · split at hfault
    · cases hfault
    · cases hfault
      rfl
  · cases hfault
    rfl

theorem noEndpoint_not_mem_faults (network : Network) {r : ChatRequest} {text : String} (h : address r = .ok text)
    (name : String) : .noEndpoint name ∉ (respond network r).faults := by
  have hexchanged := exchanged network r
  generalize arrived? network r = arrived, respond network r = response at hexchanged
  cases hexchanged with
  | failed composed =>
    cases compose_eq_error h composed
    simp [Response.faults]
  | unreachable | hungUp => simp [Response.faults]
  | @answered sent a composed reaction => exact a.noEndpoint_not_mem_faults r.body.streamed name

/-! ### Answers that say a text -/

open Json (Record Reader)

theorem message_content (text : String) :
    Candidate.message (.record [("content", .ofText text)]) = .ok (none, some text) := by
  let said : List (String × Json) := [("content", .ofText text)]
  have hcontent : Reader.text.optional (.ofText text) = .ok (some text) := by
    change (Reader.text (.ofText text)).map some = _
    rw [Reader.text_ofText]
    rfl
  have hholds : Json.Holds ["role", "content"] (.record said) said :=
    Json.holds_record (by simp [said]) (by simp [said])
  have hrole : (Record.field? "role" Reader.text).Makes said none := .field? (.inl ⟨rfl, rfl⟩)
  have htext : (Record.field? "content" Reader.text).Makes said (some text) := .field? (.inr ⟨_, rfl, hcontent⟩)
  exact Record.read_of_holds ((hrole.map Prod.mk).seq htext) (by decide) hholds _

def choice (text : String) : Json := .record [("message", .record [("content", .ofText text)])]

theorem whole_choice (text : String) : (choice text).Whole := by
  refine Json.whole_record ?_
  simp only [List.forall_mem_singleton]
  refine Json.whole_record ?_
  simp only [List.forall_mem_singleton]
  exact Json.whole_ofText text

theorem reader_choice (text : String) : Candidate.reader (choice text) = .ok ⟨0, none, some text, none⟩ := by
  let members : List (String × Json) := [("message", .record [("content", .ofText text)])]
  have hholds : Json.Holds ["index", "message", "finish_reason"] (choice text) members :=
    Json.holds_record (by simp) (by simp)
  have hindex : (Record.fieldD "index" (Reader.uint64 "usize") 0).Makes members 0 := .fieldD (.inl ⟨rfl, rfl⟩)
  have hsaid : (Record.field "message" Candidate.message).Makes members (none, some text) :=
    .field rfl (message_content text)
  have hreason : (Record.field? "finish_reason" Reader.text).Makes members none := .field? (.inl ⟨rfl, rfl⟩)
  exact Record.read_of_holds (((hindex.map _).seq hsaid).seq hreason) (by decide) hholds _

def telling (text : String) : Answer :=
  ⟨200, [Text.Utf8.encode (Json.record [("choices", .ofList [choice text])]).render.toList], false⟩

theorem reply_telling (text : String) : (telling text).reply = .ok ⟨[⟨0, none, some text, none⟩], none⟩ := by
  let members : List (String × Json) := [("choices", .ofList [choice text])]
  have hchoices : Reader.list Candidate.reader (.ofList [choice text]) = .ok [⟨0, none, some text, none⟩] := by
    have hitems : [choice text].mapM Candidate.reader = .ok [⟨0, none, some text, none⟩] :=
      Reader.mapM_map reader_choice [text]
    rw [Json.ofList, Reader.list, hitems]
    rfl
  have hholds : Json.Holds ["choices", "usage"] (.record members) members :=
    Json.holds_record (by simp [members]) (by simp [members])
  have hcandidates : (Record.field "choices" (Reader.list Candidate.reader)).Makes members _ := .field rfl hchoices
  have husage : (Record.field? "usage" Usage.reader).Makes members none := .field? (.inl ⟨rfl, rfl⟩)
  have hreply : Reply.reader (.record members) = .ok ⟨[⟨0, none, some text, none⟩], none⟩ :=
    Record.read_of_holds ((hcandidates.map Reply.mk).seq husage) (by decide) hholds _
  have hwhole : (Json.record members).Whole := by
    refine Json.whole_record ?_
    simp only [members, List.forall_mem_singleton]
    exact Json.whole_ofList whole_choice [text]
  have hbytes : (telling text).bytes = Text.Utf8.encode (Json.record members).render.toList := List.append_nil _
  have hdecode : Text.Utf8.decode? (telling text).bytes = some (Json.record members).render.toList := by
    rw [hbytes, Text.Utf8.decode?, Text.Utf8.run_encode]
  rw [Answer.reply, if_neg (by simp [telling]), hdecode]
  dsimp only
  rw [String.ofList_toList, (Json.Reader.ofText_render_iff hwhole).mpr hreply]
  rfl

end Http

end ChatGateway
