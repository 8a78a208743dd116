import ChatGateway.Proofs.Json.Titles
import ChatGateway.Session
import Mathlib.Data.List.Forall2

namespace ChatGateway

open Json (Reader Record ReadError Quoted)

namespace TokenBiases

theorem readKey_titled (title : String) (key : Quoted) :
    (readKey key).mapError (ReadError.titled title) = readKey key := by
  unfold readKey
  split
  next =>
    rcases Json.numeral key.raw with ⟨v, _ | rest⟩
    · rfl
    · dsimp only
      rw [mapError_bind, Reader.untitled_uint32]
      apply bind_congr
      intro token
      split <;> rfl
  next => rfl

theorem readMembers_titled (title : String) (bs : TokenBiases) (ms : List (Option Quoted × Json)) :
    (readMembers bs ms).mapError (ReadError.titled title) = readMembers bs ms := by
  induction ms generalizing bs with
  | nil => rfl
  | cons m ms ih =>
    obtain ⟨_ | key, v⟩ := m
    · rfl
    · rw [readMembers, mapError_bind, readKey_titled]
      apply bind_congr
      intro token
      rw [mapError_bind, Reader.untitled_single]
      apply bind_congr
      intro bias
      exact ih _

theorem untitled_reader : reader.Untitled := by
  intro title v
  cases v with
  | object ms closed =>
    rw [reader, mapError_bind, readMembers_titled]
    apply bind_congr
    intro bs
    split <;> rfl
  | _ => exact congrArg Except.error (Json.titled_mismatch (by simp) title _)

end TokenBiases

namespace TextSettings

theorem toChat_record : toChat <$> record = ChatSettings.record := by
  unfold record
  iterate 7 rw [Record.map_seq]
  rw [Record.map_map]
  rfl

theorem untitled_record : record.Untitled := by
  unfold record
  iterate 7 apply Record.Untitled.seq
  apply Record.Untitled.map
  -- one goal for each field, in the order of the fields
  · exact Record.untitled_fieldD Reader.untitled_single _ _
  · exact Record.untitled_fieldD Reader.untitled_single _ _
  · exact Record.untitled_fieldD Reader.untitled_single _ _
  · exact Record.untitled_fieldD Reader.untitled_single _ _
  · exact Record.untitled_fieldD Reader.untitled_int32 _ _
  · exact Record.untitled_fieldD (Reader.untitled_uint64 _) _ _
  · exact Record.untitled_fieldD TokenBiases.untitled_reader _ _
  · exact Record.untitled_fieldD Reader.untitled_text.list _ _

theorem reader_toChat (v : Json) :
    ChatSettings.reader v = ((reader v).map toChat).mapError (ReadError.titled "ChatRequestSettings") := by
  rw [ChatSettings.reader, ← toChat_record, Record.read_map, reader, mapError_map, ← Record.read_titled untitled_record]

theorem ofText_toChat (text : String) :
    ChatSettings.reader.ofText text =
      ((reader.ofText text).map toChat).mapError (ReadError.titled "ChatRequestSettings") :=
  Reader.ofText_of_eq reader_toChat rfl text

end TextSettings

namespace Session

inductive Restated : Step → Step → Prop
  | completion {text prompt : String} {settings : TextSettings} {settings' : ChatSettings}
      (asText : TextSettings.reader.ofText text = .ok settings)
      (asChat : ChatSettings.reader.ofText text = .ok settings') :
    Restated (.completeText prompt settings) (.completeChat ⟨[⟨.user, prompt⟩], settings'⟩)
  | stream {name text prompt : String} {settings : TextSettings} {settings' : ChatSettings}
      (asText : TextSettings.reader.ofText text = .ok settings)
      (asChat : ChatSettings.reader.ofText text = .ok settings') :
    Restated (.streamText name prompt settings) (.streamChat name ⟨[⟨.user, prompt⟩], settings'⟩)
  | same (step : Step) : Restated step step

theorem toChat_of_ofText {text : String} {settings : TextSettings} {settings' : ChatSettings}
    (asText : TextSettings.reader.ofText text = .ok settings)
    (asChat : ChatSettings.reader.ofText text = .ok settings') : settings.toChat = settings' := by
  rw [TextSettings.ofText_toChat, asText] at asChat
  exact Except.ok.inj asChat

theorem Restated.step_eq {step step' : Step} (h : Restated step step') (s : Session) : s.step step = s.step step' := by
  cases h with
  | completion asText asChat =>
    obtain rfl := toChat_of_ofText asText asChat
    rfl
  | stream asText asChat =>
    obtain rfl := toChat_of_ofText asText asChat
    rfl
  | same => rfl

theorem run_restated {steps steps' : List Step} (h : List.Forall₂ Restated steps steps') (s : Session) :
    s.run steps = s.run steps' := by
  induction h generalizing s with
  | nil => rfl
  | cons hstep _ ih => rw [run, run, hstep.step_eq, ih]

/-- A text is read as text settings and then converted as it is read as chat settings, and fails alike but for the
title; and sessions with any provider, in which some text calls stand for chat calls of the single message with the
prompt, have the same outcomes and the same states. -/
theorem text_calls_are_chat_calls :
    (∀ text, ChatSettings.reader.ofText text =
      ((TextSettings.reader.ofText text).map TextSettings.toChat).mapError (ReadError.titled "ChatRequestSettings")) ∧
    ∀ (s : Session) (steps steps' : List Step), List.Forall₂ Restated steps steps' → s.run steps = s.run steps' := by
  constructor
  · exact TextSettings.ofText_toChat
  · intro s steps steps' h
    exact run_restated h s

def brief : String := "\x7b\"stop_sequences\": [\".\"], \"number_of_responses\": 2, \"max_tokens\": 5\x7d"

def twoSlots : Service where
  binding := ⟨"model", "key", .openAI, none, none, none⟩
  provider
    | 0, _ => .stream [.ok ⟨[⟨1, none, some "b"⟩]⟩, .ok ⟨[⟨2, none, none⟩]⟩] true
    | _, _ => .reply (.ok ⟨[⟨0, none, some "c", none⟩], some ⟨1, 2, 3⟩⟩)

theorem brief_text_is_chat :
    let settings : TextSettings := { maxTokens := 5, numberOfResponses := 2, stopSequences := ["."] }
    let settings' : ChatSettings := { maxTokens := 5, numberOfResponses := 2, stopSequences := ["."] }
    TextSettings.reader.ofText brief = .ok settings ∧ ChatSettings.reader.ofText brief = .ok settings' ∧
      Session.run ⟨twoSlots, []⟩ [.streamText "s" "hi" settings, .next "s", .completeText "hi" settings, .next "s"] =
        Session.run ⟨twoSlots, []⟩ [.streamChat "s" ⟨[⟨.user, "hi"⟩], settings'⟩, .next "s",
          .completeChat ⟨[⟨.user, "hi"⟩], settings'⟩, .next "s"] ∧
      (Session.run ⟨twoSlots, []⟩ [.streamText "s" "hi" settings, .next "s"]).map Prod.fst =
        [.opened, .asked (.frame (.slots ["", "b"]))] := by
  intro settings settings'
  have htext : TextSettings.reader.ofText brief = .ok settings := by decide +kernel
  have hchat : ChatSettings.reader.ofText brief = .ok settings' := by decide +kernel
  refine ⟨htext, hchat, ?_, by decide +kernel⟩
  apply text_calls_are_chat_calls.2
  exact .cons (.stream htext hchat) (.cons (.same _) (.cons (.completion htext hchat) (.cons (.same _) .nil)))

end Session

end ChatGateway
