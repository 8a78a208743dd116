import ChatGateway.Proofs.ReadBack.Parts
import ChatGateway.Proofs.Settings.Conversion

namespace ChatGateway

open Number
open Json (Reader Record)

def Number.Binary.Recovered (x : Binary) : Prop := Reader.single.ofText (Json.ofSingle x).render = .ok x

instance : DecidablePred Number.Binary.Recovered :=
  fun x => inferInstanceAs (Decidable (Reader.single.ofText (Json.ofSingle x).render = .ok x))

example : ¬(Number.Binary.infinite false).Recovered := by decide +kernel

theorem Number.Binary.Recovered.single_ofSingle {x : Binary} (h : x.Recovered) :
    Reader.single (Json.ofSingle x) = .ok x :=
  (Json.Reader.ofText_render_iff (Json.whole_ofSingle x)).mp h

namespace ChatSettings

structure Recoverable (s : ChatSettings) : Prop where
  temperature : s.temperature.Recovered
  topP : s.topP.Recovered
  presencePenalty : s.presencePenalty.Recovered
  frequencyPenalty : s.frequencyPenalty.Recovered
  tokenBiases : ∀ e ∈ s.tokenBiases.entries, e.2.Recovered

def members (s : ChatSettings) (entries : List (UInt32 × Binary)) : List (String × Json) :=
  [("temperature", .ofSingle s.temperature),
   ("top_p", .ofSingle s.topP),
   ("presence_penalty", .ofSingle s.presencePenalty),
   ("frequency_penalty", .ofSingle s.frequencyPenalty),
   ("max_tokens", .ofInt s.maxTokens.toInt),
   ("number_of_responses", .ofNat s.numberOfResponses.toNat),
   ("token_selection_biases", TokenBiases.listed entries),
   ("stop_sequences", .ofList (s.stopSequences.map .ofText))]

theorem toJson_eq (s : ChatSettings) : s.toJson = .record (s.members s.tokenBiases.entries) := rfl

theorem whole_members (s : ChatSettings) (entries : List (UInt32 × Binary)) :
    (Json.record (s.members entries)).Whole := by
  apply Json.whole_record
  simp only [members, List.mem_cons, List.not_mem_nil, or_false, forall_eq_or_imp, forall_eq]
  refine ⟨?_, ?_, ?_, ?_, ?_, ?_, ?_, ?_⟩
  · exact Json.whole_ofSingle s.temperature
  · exact Json.whole_ofSingle s.topP
  · exact Json.whole_ofSingle s.presencePenalty
  · exact Json.whole_ofSingle s.frequencyPenalty
  · exact Json.whole_ofInt _
  · exact Json.whole_ofNat _
  · exact TokenBiases.whole_listed entries
  · exact Json.whole_ofList Json.whole_ofText s.stopSequences

theorem reader_members {s : ChatSettings} (h : s.Recoverable) {entries : List (UInt32 × Binary)}
    (horder : entries.Perm s.tokenBiases.entries) : reader (.record (s.members entries)) = .ok s := by
  have hholds : Json.Holds (record.slots.map (·.name)) (.record (s.members entries)) (s.members entries) := by
    apply Json.holds_record
    · change ["temperature", "top_p", "presence_penalty", "frequency_penalty", "max_tokens", "number_of_responses",
        "token_selection_biases", "stop_sequences"].Nodup
      decide
    · intro m hm
      exact List.mem_map_of_mem (f := Prod.fst) hm
  have hbiases : TokenBiases.reader (TokenBiases.listed entries) = .ok s.tokenBiases :=
    TokenBiases.reader_listed horder fun e he => (h.tokenBiases e he).single_ofSingle
  have hstop : Reader.list Reader.text (.ofList (s.stopSequences.map .ofText)) = .ok s.stopSequences :=
    Reader.list_ofList Reader.text_ofText s.stopSequences
  -- every member is there, so that no default takes its place
  have hmakes {α : Type} {name : String} {reader : Reader α} {default x : α} {v : Json}
      (hfound : (s.members entries).lookup name = some v) (hread : reader v = .ok x) :
      (Record.fieldD name reader default).Makes (s.members entries) x :=
    .fieldD (.inr ⟨v, hfound, hread⟩)
  apply Record.read_of_holds (r := record) _ (by decide) hholds
  unfold record
  apply Record.Makes.seq (f := ChatSettings.mk s.temperature s.topP s.presencePenalty s.frequencyPenalty s.maxTokens
    s.numberOfResponses s.tokenBiases) _ (hmakes rfl hstop)
  apply Record.Makes.seq _ (hmakes rfl hbiases)
  apply Record.Makes.seq _ (hmakes rfl (Reader.uint64_ofNat "usize" s.numberOfResponses))
  apply Record.Makes.seq _ (hmakes rfl (Reader.int32_ofInt s.maxTokens))
  apply Record.Makes.seq _ (hmakes rfl h.frequencyPenalty.single_ofSingle)
  apply Record.Makes.seq _ (hmakes rfl h.presencePenalty.single_ofSingle)
  apply Record.Makes.seq _ (hmakes rfl h.topP.single_ofSingle)
  exact .map (hmakes rfl h.temperature.single_ofSingle) ChatSettings.mk

theorem ofText_members {s : ChatSettings} (h : s.Recoverable) {entries : List (UInt32 × Binary)}
    (horder : entries.Perm s.tokenBiases.entries) : reader.ofText (Json.record (s.members entries)).render = .ok s :=
  (Json.Reader.ofText_render_iff (s.whole_members entries)).mpr (reader_members h horder)

end ChatSettings

namespace TextSettings

theorem toChat_injective : Function.Injective toChat := by
  rintro ⟨⟩ ⟨⟩ h
  cases h
  rfl

theorem toJson_toChat (s : TextSettings) : s.toChat.toJson = s.toJson := rfl

theorem ofText_members {s : TextSettings} (h : s.toChat.Recoverable) {entries : List (UInt32 × Binary)}
    (horder : entries.Perm s.tokenBiases.entries) :
    reader.ofText (Json.record (s.toChat.members entries)).render = .ok s := by
  have hchat := ChatSettings.ofText_members h horder
  rw [ofText_toChat] at hchat
  cases hread : reader.ofText (Json.record (s.toChat.members entries)).render with
  | error e =>
    rw [hread] at hchat
    cases hchat
  | ok t =>
    rw [hread] at hchat
    have heq : t.toChat = s.toChat := Except.ok.inj hchat
    rw [toChat_injective heq]

end TextSettings

/-- Messages, usages, completions and frames are read from the texts that are written for them, and so are settings
whose numbers are, in whatever order their biases are written. -/
theorem written_texts_read_back :
    (∀ ms : List Message,
      (Reader.list Message.reader).ofText (Json.ofList (ms.map Message.toJson)).render = .ok ms) ∧
    (∀ u : Usage, Usage.reader.ofText u.toJson.render = .ok u) ∧
    (∀ c : Completion, Completion.reader.ofText c.toJson.render = .ok c) ∧
    (∀ f : Frame, Frame.reader.ofText f.toJson.render = .ok f) ∧
    (∀ s : ChatSettings, s.Recoverable →
      ChatSettings.reader.ofText s.toJson.render = .ok s ∧
        ∀ entries, entries.Perm s.tokenBiases.entries →
          ChatSettings.reader.ofText (Json.record (s.members entries)).render = .ok s) ∧
    ∀ s : TextSettings, s.toChat.Recoverable →
      TextSettings.reader.ofText s.toJson.render = .ok s ∧
        ∀ entries, entries.Perm s.tokenBiases.entries →
          TextSettings.reader.ofText (Json.record (s.toChat.members entries)).render = .ok s := by
  refine ⟨?_, ?_, ?_, ?_, ?_, ?_⟩
  · intro ms
    apply (Json.Reader.ofText_render_iff (Json.whole_ofList Message.whole_toJson ms)).mpr
    exact Reader.list_ofList Message.reader_toJson ms
  · intro u
    exact (Json.Reader.ofText_render_iff u.whole_toJson).mpr u.reader_toJson
  · intro c
    exact (Json.Reader.ofText_render_iff c.whole_toJson).mpr c.reader_toJson
  · intro f
    exact (Json.Reader.ofText_render_iff f.whole_toJson).mpr f.reader_toJson
  · intro s h
    constructor
    · rw [ChatSettings.toJson_eq]
      exact ChatSettings.ofText_members h (.refl _)
    · intro entries horder
      exact ChatSettings.ofText_members h horder
  · intro s h
    constructor
    · rw [← TextSettings.toJson_toChat, ChatSettings.toJson_eq]
      exact TextSettings.ofText_members h (.refl _)
    · intro entries horder
      exact TextSettings.ofText_members h horder

def lively : TextSettings where
  temperature := single.round false ⟨7, 10⟩
  topP := single.round false ⟨1, 3⟩
  presencePenalty := single.zero true
  maxTokens := -1
  tokenBiases :=
    (TokenBiases.empty.insert 4294967295 (single.ofInt (-100))).insert 7 (single.round false ⟨1, Nat.pow 10 45⟩)
  stopSequences := ["", "\n\"end\""]

theorem lively_reads_back :
    lively.toChat.Recoverable ∧ ChatSettings.reader.ofText lively.toChat.toJson.render = .ok lively.toChat ∧
      TextSettings.reader.ofText
          (Json.record (lively.toChat.members lively.tokenBiases.entries.reverse)).render = .ok lively ∧
      (Json.record (lively.toChat.members lively.tokenBiases.entries.reverse)).render =
        "\x7b\"temperature\":0.7,\"top_p\":0.33333334,\"presence_penalty\":-0.0,\"frequency_penalty\":0.0," ++
        "\"max_tokens\":-1,\"number_of_responses\":1,\"token_selection_biases\":\x7b\"4294967295\":-100.0," ++
        "\"7\":1e-45\x7d,\"stop_sequences\":[\"\",\"\\n\\\"end\\\"\"]\x7d" := by
  have h : lively.toChat.Recoverable := by constructor <;> decide +kernel
  refine ⟨h, (written_texts_read_back.2.2.2.2.1 _ h).1, ?_, by decide +kernel⟩
  apply (written_texts_read_back.2.2.2.2.2 lively h).2
  exact List.reverse_perm _

end ChatGateway
