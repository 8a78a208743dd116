import ChatGateway.Proofs.Backend.Moves
import ChatGateway.Proofs.FrameStream.Answers

namespace ChatGateway

open Backend

namespace Service

def after (d : Service) (requests : List ChatRequest) : Service := { d with requests }

/-- The direct call of a command begins with some answers: those of a stream as it is asked for frames, or the one
answer that there is. -/
inductive Begins (d : Service) (c : Command) : List Answer → Prop
  | nothing : Begins d c []
  | completion {answer : Except Failure Completion} (blocking : c.channel.streamed = false)
      (complete : (d.complete c.call).1 = some answer) : Begins d c [.ofCompletion answer]
  | notOpened {failure : Failure} (streamed : c.channel.streamed = true)
      (stream : (d.stream c.call).1 = .error failure) : Begins d c [.failure failure]
  | frames {k : Nat} {stream : FrameStream} {answers : List (Except Failure Frame)}
      (streamed : c.channel.streamed = true) (opened : (d.stream c.call).1 = .ok k)
      (held : (d.stream c.call).2.streams[k]? = some stream)
      (asked : stream.asked answers.length = answers.map .answer) : Begins d c (answers.map .ofFrame)

inductive Concludes (d : Service) (c : Command) : List Answer → Prop
  | completion {answer : Except Failure Completion} (blocking : c.channel.streamed = false)
      (complete : (d.complete c.call).1 = some answer) : Concludes d c [.ofCompletion answer]
  | notOpened {failure : Failure} (streamed : c.channel.streamed = true)
      (stream : (d.stream c.call).1 = .error failure) : Concludes d c [.failure failure]
  | frames {k : Nat} {stream : FrameStream} {answers : List (Except Failure Frame)}
      (streamed : c.channel.streamed = true) (opened : (d.stream c.call).1 = .ok k)
      (held : (d.stream c.call).2.streams[k]? = some stream)
      (asked : stream.asked (answers.length + 1) = answers.map .answer ++ [.ended]) :
    Concludes d c (answers.map .ofFrame)

end Service

namespace Backend

def streamScript (stream : FrameStream) : List Answer × Bool :=
  (stream.answers.map .ofFrame, stream.ends)

def responseScript (c : Command) (response : Response) : List Answer × Bool :=
  if c.channel.streamed then
    match response.opened with
    | .error fault => ([.failure (.callFailed fault)], true)
    | .ok (items, stalls) =>
      streamScript { numberOfResponses := c.call.settings.numberOfResponses, items, stalls }
  else
    match response.reply? with
    | none => ([], false)
    | some (.error fault) => ([.failure (.callFailed fault)], true)
    | some (.ok reply) => ([.completion reply.completion], true)

def script (service : Service) (n : Nat) (c : Command) : List Answer × Bool :=
  match ChatRequest.make? service.binding c.call.messages c.call.settings c.channel.streamed with
  | .error refusal => ([.failure (.refused refusal)], true)
  | .ok request => responseScript c (service.provider n request)

inductive Scripted (d : Service) (c : Command) : List Answer × Bool → Prop
  | silent : Scripted d c ([], false)
  | completion {answer : Except Failure Completion} (blocking : c.channel.streamed = false)
      (complete : (d.complete c.call).1 = some answer) : Scripted d c ([.ofCompletion answer], true)
  | notOpened {failure : Failure} (streamed : c.channel.streamed = true)
      (stream : (d.stream c.call).1 = .error failure) : Scripted d c ([.failure failure], true)
  | frames {k : Nat} {stream : FrameStream} (streamed : c.channel.streamed = true)
      (opened : (d.stream c.call).1 = .ok k) (held : (d.stream c.call).2.streams[k]? = some stream) :
    Scripted d c (streamScript stream)

theorem scripted (d : Service) (c : Command) : Scripted d c (script d d.requests.length c) := by
  have hsend := d.send_eq c.call c.channel.streamed
  unfold script
  cases hstreamed : c.channel.streamed <;> rw [hstreamed] at hsend
  · cases hmade : ChatRequest.make? d.binding c.call.messages c.call.settings false <;>
      simp only [hmade, Except.map] at hsend
    case error refusal =>
      have hcomplete : (d.complete c.call).1 = some (.error (.refused refusal)) := by simp [Service.complete, hsend]
      exact .completion hstreamed hcomplete
    case ok request =>
      rcases hreply : (d.provider d.requests.length request).reply? with _ | fault | reply <;>
        simp only [responseScript, hstreamed, hreply]
      · exact .silent
      · have hcomplete : (d.complete c.call).1 = some (.error (.callFailed fault)) := by
          simp [Service.complete, hsend, Service.conclude, hreply]
        exact .completion hstreamed hcomplete
      · have hcomplete : (d.complete c.call).1 = some (.ok reply.completion) := by
          simp [Service.complete, hsend, Service.conclude, hreply]
        exact .completion hstreamed hcomplete
  · cases hmade : ChatRequest.make? d.binding c.call.messages c.call.settings true <;>
      simp only [hmade, Except.map] at hsend
    case error refusal => exact .notOpened hstreamed (by simp [Service.stream, hsend])
    case ok request =>
      rcases hopened : (d.provider d.requests.length request).opened with fault | ⟨items, stalls⟩ <;>
        simp only [responseScript, hstreamed, hopened]
      · exact .notOpened hstreamed (by simp [Service.stream, hsend, Service.open?, hopened])
      · refine .frames (k := d.streams.length) hstreamed ?_ ?_ <;>
          simp [Service.stream, hsend, Service.open?, hopened]

theorem prefix_map_ofFrame {as : List Answer} {fs : List (Except Failure Frame)} (h : as <+: fs.map .ofFrame) :
    ∃ gs, gs <+: fs ∧ as = gs.map .ofFrame := by
  refine ⟨fs.take as.length, List.take_prefix _ _, ?_⟩
  rw [List.map_take]
  exact List.prefix_iff_eq_take.mp h

theorem asked_of_prefix_answers {stream : FrameStream} {as : List (Except Failure Frame)} (h : as <+: stream.answers) :
    stream.asked as.length = as.map .answer := by
  obtain ⟨later, heq⟩ := h
  rw [FrameStream.asked_eq, ← heq]
  simp

theorem asked_of_ends {stream : FrameStream} (h : stream.ends = true) :
    stream.asked (stream.answers.length + 1) = stream.answers.map .answer ++ [.ended] := by
  rw [FrameStream.asked_eq, FrameStream.rest, if_pos h, List.take_append, List.take_of_length_le (by simp)]
  simp

theorem eq_nil_or_eq_of_prefix_singleton {as : List Answer} {a : Answer} (h : as <+: [a]) : as = [] ∨ as = [a] := by
  rcases List.prefix_cons_iff.mp h with rfl | ⟨later, rfl, hnil⟩
  · exact .inl rfl
  · exact .inr (by rw [List.prefix_nil.mp hnil])

theorem begins_of_prefix_script {d : Service} {c : Command} {as : List Answer}
    (h : as <+: (script d d.requests.length c).1) : d.Begins c as := by
  cases hscript : script d d.requests.length c with
  | mk all ends =>
    have hd := scripted d c
    rw [hscript] at h hd
    cases hd with
    | silent => exact List.prefix_nil.mp h ▸ .nothing
    | completion blocking complete =>
      rcases eq_nil_or_eq_of_prefix_singleton h with rfl | rfl
      · exact .nothing
      · exact .completion blocking complete
    | notOpened streamed stream =>
      rcases eq_nil_or_eq_of_prefix_singleton h with rfl | rfl
      · exact .nothing
      · exact .notOpened streamed stream
    | frames streamed opened held =>
      obtain ⟨fs, hprefix, rfl⟩ := prefix_map_ofFrame h
      exact .frames streamed opened held (asked_of_prefix_answers hprefix)

theorem concludes_of_script {d : Service} {c : Command} {as : List Answer}
    (h : script d d.requests.length c = (as, true)) : d.Concludes c as := by
  have hd := scripted d c
  rw [h] at hd
  generalize hp : (as, true) = p at hd
  cases hd with
  | silent => simp at hp
  | completion blocking complete =>
    obtain ⟨rfl, -⟩ := Prod.mk.inj hp
    exact .completion blocking complete
  | notOpened streamed stream =>
    obtain ⟨rfl, -⟩ := Prod.mk.inj hp
    exact .notOpened streamed stream
  | frames streamed opened held =>
    obtain ⟨rfl, hends⟩ := Prod.mk.inj hp
    exact .frames streamed opened held (asked_of_ends hends.symm)

end Backend

end ChatGateway
