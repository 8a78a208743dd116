import ChatGateway.Completion
import ChatGateway.Json.Document
import ChatGateway.Message
import ChatGateway.Proofs.Json.Values
import ChatGateway.TokenBiases
import ChatGateway.Usage

namespace ChatGateway

open Json (Reader Record Quoted)

theorem Json.Reader.ofText_render_iff {α : Type} {reader : Reader α} {v : Json} (h : v.Whole) {x : α} :
    reader.ofText v.render = .ok x ↔ reader v = .ok x := by
  rw [ofText, parse_render h, Json.Document.read_eq_ok_iff]
  exact and_iff_right rfl

theorem Role.reader_toJson (r : Role) : Role.reader r.toJson = .ok r := by
  have htext : Reader.text (.ofText r.name) = .ok r.name := Reader.text_ofText r.name
  change (do Reader.named _ (← Reader.text (.ofText r.name))) = _
  rw [htext]
  cases r <;> rfl

theorem Message.reader_toJson (m : Message) : Message.reader m.toJson = .ok m := by
  let found : List (String × Json) := [("role", m.role.toJson), ("content", .ofText m.content)]
  have hholds : Json.Holds ["role", "content"] m.toJson found := Json.holds_record (by simp) (by simp)
  have hrole : (Record.field "role" Role.reader).Makes found m.role := .field rfl m.role.reader_toJson
  have hcontent : (Record.field "content" Reader.text).Makes found m.content :=
    .field rfl (Reader.text_ofText m.content)
  exact Record.read_of_holds ((hrole.map Message.mk).seq hcontent) (by decide) hholds _

theorem Message.whole_toJson (m : Message) : m.toJson.Whole := by
  refine Json.whole_record ?_
  simp only [List.mem_cons, List.not_mem_nil, or_false, forall_eq_or_imp, forall_eq]
  exact ⟨Json.whole_ofText _, Json.whole_ofText _⟩

namespace TokenBiases

open Number

theorem escape_digits (ds : List (Fin 10)) : Quoted.escape (ds.map digitChar) = ds.map digitChar := by
  have hdigit : ∀ d, Quoted.escapeChar (digitChar d) = [digitChar d] := by decide
  induction ds with
  | nil => rfl
  | cons d ds ih =>
    rw [List.map_cons, Quoted.escape, List.flatMap_cons, hdigit, ← Quoted.escape, ih]
    rfl

theorem readKey_key (token : UInt32) : readKey (.ofText (key token)) = .ok token := by
  have hraw : (Quoted.ofText (key token)).raw = (digits token.toNat).map digitChar := by
    rw [Quoted.ofText, key, String.toList_ofList, escape_digits]
  have htext : (Numeral.ofInt token.toNat).text = (digits token.toNat).map digitChar := by
    simp [Numeral.text, Numeral.ofInt]
  have hscan : Numeral.scan ((digits token.toNat).map digitChar) = some (.ofInt token.toNat, []) := by
    rw [← htext, ← List.append_nil (Numeral.text _)]
    exact Numeral.scan_spells (Numeral.spells_text (Numeral.proper_ofInt _)) (by simp [Stops])
  have hdigit : ((digits token.toNat).map digitChar).head?.any (fun c => c == '-' || (digit? c).isSome) = true := by
    cases hdigits : digits token.toNat with
    | nil => exact absurd hdigits (digits_ne_nil _)
    | cons d ds => simp [digit?_digitChar]
  have htoken : Reader.uint32 (.number (.ofInt token.toNat)) = .ok token := Reader.uint32_ofNat token
  rw [readKey, hraw, if_pos hdigit]
  simp only [Json.numeral, hscan, htoken, ok_bind]
  rfl

theorem perm_insertEntry {token : UInt32} {bias : Binary} {es : List (UInt32 × Binary)}
    (h : token ∉ es.map Prod.fst) : (insertEntry token bias es).Perm ((token, bias) :: es) := by
  induction es with
  | nil => exact .refl _
  | cons e es ih =>
    obtain ⟨t, b⟩ := e
    obtain ⟨hne, hes⟩ : token ≠ t ∧ token ∉ es.map Prod.fst := by simpa [not_or] using h
    rw [insertEntry, if_neg hne]
    split
    · exact .refl _
    · exact ((ih hes).cons _).trans (.swap _ _ _)

theorem eq_of_perm {bs cs : TokenBiases} (h : bs.entries.Perm cs.entries) : bs = cs := by
  obtain ⟨es, hes⟩ := bs
  obtain ⟨fs, hfs⟩ := cs
  obtain rfl : es = fs := by
    apply List.Perm.eq_of_pairwise _ hes hfs h
    intro e f _ _ hlt hgt
    exact absurd (UInt32.lt_trans hlt hgt) (UInt32.lt_irrefl _)
  rfl

theorem nodup_tokens (bs : TokenBiases) : (bs.entries.map Prod.fst).Nodup := by
  apply List.pairwise_map.mpr
  apply bs.ascending.imp
  intro e f hlt
  exact UInt32.ne_of_lt hlt

theorem readMembers_listed {entries : List (UInt32 × Binary)} (hnodup : (entries.map Prod.fst).Nodup)
    (hread : ∀ e ∈ entries, Reader.single (.ofSingle e.2) = .ok e.2) (bs : TokenBiases)
    (hfresh : ∀ e ∈ entries, e.1 ∉ bs.entries.map Prod.fst) :
    ∃ cs, readMembers bs (entries.map fun e => (some (.ofText (key e.1)), .ofSingle e.2)) = .ok cs ∧
      cs.entries.Perm (entries ++ bs.entries) := by
  induction entries generalizing bs with
  | nil => exact ⟨bs, rfl, .refl _⟩
  | cons e entries ih =>
    obtain ⟨hnew, hnodup⟩ := List.nodup_cons.mp hnodup
    -- the token is new, so that inserting it replaces no bias
    have hinsert : (bs.insert e.1 e.2).entries.Perm (e :: bs.entries) :=
      perm_insertEntry (hfresh e List.mem_cons_self)
    have hlater : ∀ f ∈ entries, f.1 ∉ (bs.insert e.1 e.2).entries.map Prod.fst := by
      intro f hf hmem
      rcases List.mem_cons.mp ((hinsert.map Prod.fst).mem_iff.mp hmem) with heq | hmem
      · exact hnew (heq ▸ List.mem_map_of_mem hf)
      · exact hfresh f (List.mem_cons_of_mem _ hf) hmem
    obtain ⟨cs, hcs, hperm⟩ := ih hnodup (fun f hf => hread f (List.mem_cons_of_mem _ hf)) _ hlater
    refine ⟨cs, ?_, ?_⟩
    · rw [List.map_cons, readMembers, readKey_key, ok_bind, hread e List.mem_cons_self, ok_bind, hcs]
    · exact hperm.trans ((hinsert.append_left entries).trans List.perm_middle)

theorem reader_listed {bs : TokenBiases} {entries : List (UInt32 × Binary)} (h : entries.Perm bs.entries)
    (hread : ∀ e ∈ bs.entries, Reader.single (.ofSingle e.2) = .ok e.2) : reader (listed entries) = .ok bs := by
  have hnodup : (entries.map Prod.fst).Nodup := (h.map Prod.fst).nodup_iff.mpr bs.nodup_tokens
  have hread' : ∀ e ∈ entries, Reader.single (.ofSingle e.2) = .ok e.2 := fun e he => hread e (h.mem_iff.mp he)
  obtain ⟨cs, hcs, hperm⟩ := readMembers_listed hnodup hread' empty (by simp [empty])
  obtain rfl : cs = bs := eq_of_perm ((List.append_nil entries ▸ hperm).trans h)
  rw [listed, Json.record, List.map_map, reader]
  change (readMembers empty (entries.map fun e => (some (.ofText (key e.1)), .ofSingle e.2)) >>= _) = _
  rw [hcs]
  rfl

theorem whole_listed (entries : List (UInt32 × Binary)) : (listed entries).Whole := by
  refine Json.whole_record ?_
  intro m hm
  obtain ⟨entry, -, rfl⟩ := List.mem_map.mp hm
  exact Json.whole_ofSingle entry.2

end TokenBiases

theorem Usage.reader_toJson (u : Usage) : Usage.reader u.toJson = .ok u := by
  let found : List (String × Json) :=
    [("prompt_tokens", .ofNat u.promptTokens.toNat), ("completion_tokens", .ofNat u.completionTokens.toNat),
      ("total_tokens", .ofNat u.totalTokens.toNat)]
  have hholds : Json.Holds ["prompt_tokens", "completion_tokens", "total_tokens"] u.toJson found :=
    Json.holds_record (by simp) (by simp)
  have hprompt : (Record.fieldD "prompt_tokens" (Reader.uint64 "u64") 0).Makes found u.promptTokens :=
    .fieldD (.inr ⟨_, rfl, Reader.uint64_ofNat "u64" u.promptTokens⟩)
  have hcompletion : (Record.fieldD "completion_tokens" (Reader.uint64 "u64") 0).Makes found u.completionTokens :=
    .fieldD (.inr ⟨_, rfl, Reader.uint64_ofNat "u64" u.completionTokens⟩)
  have htotal : (Record.fieldD "total_tokens" (Reader.uint64 "u64") 0).Makes found u.totalTokens :=
    .fieldD (.inr ⟨_, rfl, Reader.uint64_ofNat "u64" u.totalTokens⟩)
  exact Record.read_of_holds (((hprompt.map Usage.mk).seq hcompletion).seq htotal) (by decide) hholds _

theorem Usage.whole_toJson (u : Usage) : u.toJson.Whole := by
  refine Json.whole_record ?_
  simp only [List.mem_cons, List.not_mem_nil, or_false, forall_eq_or_imp, forall_eq]
  exact ⟨Json.whole_ofNat _, Json.whole_ofNat _, Json.whole_ofNat _⟩

theorem Completion.reader_toJson (c : Completion) : Completion.reader c.toJson = .ok c := by
  cases c with
  | single s => exact Reader.oneOrMany_ofText s
  | multiple ss => exact Reader.oneOrMany_ofList ss

theorem Completion.whole_toJson (c : Completion) : c.toJson.Whole := by
  cases c with
  | single s => exact Json.whole_ofText s
  | multiple ss => exact Json.whole_ofList Json.whole_ofText ss

theorem Frame.reader_toJson (f : Frame) : Frame.reader f.toJson = .ok f := by
  cases f with
  | text s => exact Reader.oneOrMany_ofText s
  | slots ss => exact Reader.oneOrMany_ofList ss

theorem Frame.whole_toJson (f : Frame) : f.toJson.Whole := by
  cases f with
  | text s => exact Json.whole_ofText s
  | slots ss => exact Json.whole_ofList Json.whole_ofText ss

end ChatGateway
