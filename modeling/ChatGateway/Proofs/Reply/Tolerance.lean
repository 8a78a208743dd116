import ChatGateway.Chunk
import ChatGateway.Proofs.Json.Tolerance
import ChatGateway.Reply

namespace ChatGateway

open Json (Reader Record Shape Denotes)

def saidFields : List (Json.Field Shape) := [⟨"role", true, .plain⟩, ⟨"content", true, .plain⟩]

def Usage.fields : List (Json.Field Shape) :=
  [⟨"prompt_tokens", false, .plain⟩, ⟨"completion_tokens", false, .plain⟩, ⟨"total_tokens", false, .plain⟩]

def Candidate.fields : List (Json.Field Shape) :=
  [⟨"index", false, .plain⟩, ⟨"message", false, .record saidFields⟩, ⟨"finish_reason", true, .plain⟩]

def Reply.fields : List (Json.Field Shape) :=
  [⟨"choices", false, .list (.record Candidate.fields)⟩, ⟨"usage", true, .record Usage.fields⟩]

def Fragment.fields : List (Json.Field Shape) := [⟨"index", false, .plain⟩, ⟨"delta", false, .record saidFields⟩]

def Chunk.fields : List (Json.Field Shape) := [⟨"choices", false, .list (.record Fragment.fields)⟩]

theorem Usage.tolerates : Usage.reader.Tolerates (.record Usage.fields) :=
  (((Record.tolerates_fieldD Reader.tolerates_plain).map _).seq
    (Record.tolerates_fieldD Reader.tolerates_plain)).seq
    (Record.tolerates_fieldD Reader.tolerates_plain) |>.read (by decide) "Usage"

theorem tolerates_said :
    (Prod.mk <$> Record.field? "role" Reader.text <*> Record.field? "content" Reader.text).Tolerates saidFields :=
  ((Record.tolerates_field? Reader.tolerates_plain).map _).seq (Record.tolerates_field? Reader.tolerates_plain)

theorem Candidate.tolerates : Candidate.reader.Tolerates (.record Candidate.fields) :=
  (((Record.tolerates_fieldD Reader.tolerates_plain).map _).seq
    (Record.tolerates_field (tolerates_said.read (by decide) "ResponseMessage"))).seq
    (Record.tolerates_field? Reader.tolerates_plain) |>.read (by decide) "ResponseChoice"

theorem Reply.tolerates : Reply.reader.Tolerates (.record Reply.fields) :=
  ((Record.tolerates_field Candidate.tolerates.list).map _).seq
    (Record.tolerates_field? Usage.tolerates) |>.read (by decide) "ChatResponse"

theorem Fragment.tolerates : Fragment.reader.Tolerates (.record Fragment.fields) :=
  ((Record.tolerates_fieldD Reader.tolerates_plain).map _).seq
    (Record.tolerates_fieldD (tolerates_said.read (by decide) "ChunkDelta")) |>.read (by decide) "ChunkChoice"

theorem Chunk.tolerates : Chunk.reader.Tolerates (.record Chunk.fields) :=
  ((Record.tolerates_fieldD Fragment.tolerates.list).map _).read (by decide) "ChatChunk"

theorem answers_overlook_changes :
    (∀ {text : String} {reply : Reply}, Reply.reader.ofText text = .ok reply →
      Reply.reader.Overlooks (.record Reply.fields) text reply) ∧
    ∀ {text : String} {chunk : Chunk}, Chunk.reader.ofText text = .ok chunk →
      Chunk.reader.Overlooks (.record Chunk.fields) text chunk :=
  ⟨Reader.overlooks Reply.tolerates, Reader.overlooks Chunk.tolerates⟩

def plainAnswer : String := "\x7b\"choices\":[\x7b\"message\":\x7b\"content\":\"hi\"\x7d\x7d]\x7d"

def fullAnswer : String :=
  "\x7b\"id\":[\x7b\x7d],\"choices\":[\x7b\"finish_reason\":null," ++
    "\"message\":\x7b\"refusal\":[],\"content\":\"hi\"\x7d\x7d],\"usage\":null\x7d"

def plainChunk : String := "\x7b\"choices\":[\x7b\"delta\":\x7b\"content\":\"hi\"\x7d\x7d]\x7d"

def fullChunk : String := "\x7b\"choices\":[\x7b\"delta\":\x7b\"role\":null,\"content\":\"hi\"\x7d\x7d]\x7d"

open Json in
theorem full_answer_reads_as_plain :
    let reply : Reply := ⟨[⟨0, none, some "hi", none⟩], none⟩
    let chunk : Chunk := ⟨[⟨0, none, some "hi"⟩]⟩
    Reply.reader.ofText plainAnswer = .ok reply ∧ Reply.reader.ofText fullAnswer = .ok reply ∧
      Chunk.reader.ofText plainChunk = .ok chunk ∧ Chunk.reader.ofText fullChunk = .ok chunk := by
  intro reply chunk
  let said : List (String × Json) := [("content", ofText "hi")]
  let refusing : List (String × Json) := ("refusal", ofList []) :: said
  let finished : List (String × Json) := [("finish_reason", .null), ("message", record refusing)]
  let choices (members : List (String × Json)) : String × Json := ("choices", ofList [record members])
  let full : Json := record [("id", ofList [record []]), choices finished, ("usage", .null)]
  have hquoted : ∀ s, Whole (.string (.ofText s)) := whole_ofText
  have hdenotes : ∀ {v : Json} {text : String}, Whole v → v.render = text → Denotes text v :=
    fun hwhole hrender => hrender ▸ denotes_render hwhole
  have hplain : Denotes plainAnswer (record [choices [("message", record said)]]) :=
    hdenotes (by simp [choices, said, record, ofList, ofText, whole_object_iff, whole_array_iff, hquoted])
      (by decide +kernel)
  have hfull : Denotes fullAnswer full :=
    hdenotes (by simp [full, choices, finished, refusing, said, record, ofList, ofText, whole_object_iff,
      whole_array_iff, hquoted, Whole.null]) (by decide +kernel)
  have hplainChunk : Denotes plainChunk (record [choices [("delta", record said)]]) :=
    hdenotes (by simp [choices, said, record, ofList, ofText, whole_object_iff, whole_array_iff, hquoted])
      (by decide +kernel)
  have hfullChunk : Denotes fullChunk (record [choices [("delta", record (("role", .null) :: said))]]) :=
    hdenotes (by simp [choices, said, record, ofList, ofText, whole_object_iff, whole_array_iff, hquoted, Whole.null])
      (by decide +kernel)
  have hchoice : ∀ {ms ms' : List (String × Json)}, Alters (.record Candidate.fields) (record ms) (record ms') →
      Alters (.record Reply.fields) (record [choices ms]) (record [choices ms']) := fun h =>
    .within List.mem_cons_self (Quoted.text?_ofText _) (.item (i := 0) rfl h)
  have hrefusal : Alters (.record Candidate.fields) (record [("message", record said)])
      (record [("message", record refusing)]) :=
    .within (List.mem_cons_of_mem _ List.mem_cons_self) (Quoted.text?_ofText _)
      (.add (whole_ofText _) (Quoted.text?_ofText _) (by decide) (.array (by simp)))
  have hreason : Alters (.record Candidate.fields) (record [("message", record refusing)]) (record finished) :=
    .supply (List.mem_cons_of_mem _ (List.mem_cons_of_mem _ List.mem_cons_self)) rfl (by simp) (whole_ofText _)
      (Quoted.text?_ofText _)
  have husage : Alters (.record Reply.fields) (record [choices finished])
      (record [("usage", .null), choices finished]) :=
    .supply (List.mem_cons_of_mem _ List.mem_cons_self) rfl (by simp [choices]) (whole_ofText _)
      (Quoted.text?_ofText _)
  have hreorder : Alters (.record Reply.fields) (record [("usage", .null), choices finished])
      (record [choices finished, ("usage", .null)]) :=
    .reorder (.swap _ _ _)
  have hid : Alters (.record Reply.fields) (record [choices finished, ("usage", .null)]) full :=
    .add (whole_ofText _) (Quoted.text?_ofText _) (by decide)
      (by simp [record, ofList, whole_object_iff, whole_array_iff])
  have hrole : Alters (.record Fragment.fields) (record [("delta", record said)])
      (record [("delta", record (("role", .null) :: said))]) :=
    .within (List.mem_cons_of_mem _ List.mem_cons_self) (Quoted.text?_ofText _)
      (.supply List.mem_cons_self rfl (by simp [said]) (whole_ofText _) (Quoted.text?_ofText _))
  have hreply : Reply.reader.ofText plainAnswer = .ok reply := by decide +kernel
  have hchunk : Chunk.reader.ofText plainChunk = .ok chunk := by decide +kernel
  have hchanges : Relation.ReflTransGen (Alters (.record Reply.fields))
      (record [choices [("message", record said)]]) full :=
    .head (hchoice hrefusal) (.head (hchoice hreason) (.head husage (.head hreorder (.single hid))))
  refine ⟨hreply, (answers_overlook_changes.1 hreply).reads hplain hchanges hfull, hchunk,
    (answers_overlook_changes.2 hchunk).reads hplainChunk ?_ hfullChunk⟩
  exact .single (.within List.mem_cons_self (Quoted.text?_ofText _) (.item (i := 0) rfl hrole))

end ChatGateway
