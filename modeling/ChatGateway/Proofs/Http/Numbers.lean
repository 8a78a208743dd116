import ChatGateway.Proofs.Http.Bodies
import ChatGateway.Proofs.Number.Range
import ChatGateway.Proofs.Settings.Conversion

namespace ChatGateway

open Number
open Json (Reader Record Quoted Document Holds)

namespace Json

def IsNumber (v : Json) : Prop := ∃ n, v = .number n

theorem isNumber_ofSingle_iff (x : Binary) : (ofSingle x).IsNumber ↔ x.Finite := by
  cases x with
  | finite negative m e =>
    have hnumeral : ∃ n, Number.single.numeral? singleLayout (.finite negative m e) = some n := by
      cases m with
      | zero => exact ⟨_, rfl⟩
      | succ m => exact ⟨_, rfl⟩
    obtain ⟨n, hn⟩ := hnumeral
    exact iff_of_true ⟨n, by rw [ofSingle, hn]; rfl⟩ (.intro negative m e)
  | infinite negative =>
    refine iff_of_false ?_ (Binary.not_finite_infinite negative)
    rintro ⟨n, hn⟩
    cases hn

theorem exists_numeral_of_single {v : Json} {x : Binary} (h : Reader.single v = .ok x) : ∃ n, v = .number n := by
  cases v with
  | number n => exact ⟨n, rfl⟩
  | _ => cases h

theorem isNumber_of_single_iff {n : Numeral} {x : Binary} (h : Reader.single (.number n) = .ok x) :
    (ofSingle x).IsNumber ↔ n.Moderate := by
  rw [isNumber_ofSingle_iff]
  rw [Reader.single] at h
  split at h
  next i hliteral =>
    cases h
    refine iff_of_true (finite_ofInt (Literal.natAbs_lt_of_ofNumeral hliteral)) ?_
    intro y hy
    rw [hliteral] at hy
    cases hy
  next y hliteral =>
    cases h
    have hmoderate : n.Moderate ↔ y.Finite ∧ y.magnitude.value < 2 ^ 128 - 2 ^ 103 := by
      constructor
      · exact fun h => h y hliteral
      · intro h z hz
        obtain rfl : y = z := by simpa [hliteral] using hz
        exact h
    rw [hmoderate]
    cases y with
    | finite negative m e =>
      rw [Format.convert, Binary.finite_single_iff negative (Binary.den_magnitude_pos _)]
      exact (and_iff_right (.intro negative m e)).symm
    | infinite negative =>
      have hnot := Binary.not_finite_infinite negative
      exact iff_of_false hnot fun h => hnot h.1
  next => cases h

end Json

namespace TokenBiases

def Names (token : UInt32) (m : Option Quoted × Json) : Prop := ∃ key, m.1 = some key ∧ readKey key = .ok token

/-- The bias that the members of an object give for a token: that of the last one that names it. -/
inductive Given (token : UInt32) : List (Option Quoted × Json) → Json → Prop
  | last {m : Option Quoted × Json} {ms : List (Option Quoted × Json)} (names : Names token m)
      (unnamed : ∀ m ∈ ms, ¬Names token m) : Given token (m :: ms) m.2
  | later {m : Option Quoted × Json} {ms : List (Option Quoted × Json)} {v : Json} (given : Given token ms v) :
    Given token (m :: ms) v

theorem given_cons_iff {token : UInt32} {m : Option Quoted × Json} {ms : List (Option Quoted × Json)} {v : Json} :
    Given token (m :: ms) v ↔ Given token ms v ∨ (Names token m ∧ v = m.2 ∧ ∀ m ∈ ms, ¬Names token m) := by
  constructor
  · intro h
    cases h with
    | last names unnamed => exact .inr ⟨names, rfl, unnamed⟩
    | later given => exact .inl given
  · rintro (given | ⟨names, rfl, unnamed⟩)
    · exact .later given
    · exact .last names unnamed

theorem mem_insertEntry_iff {token : UInt32} {bias : Binary} {es : List (UInt32 × Binary)} (h : Ascending es)
    {t : UInt32} {b : Binary} :
    (t, b) ∈ insertEntry token bias es ↔ (t = token ∧ b = bias) ∨ (t ≠ token ∧ (t, b) ∈ es) := by
  induction es with
  | nil => simp [insertEntry]
  | cons e es ih =>
    obtain ⟨u, c⟩ := e
    obtain ⟨hu, hes⟩ := List.pairwise_cons.mp h
    have habove : ∀ b, (u, b) ∉ es := fun b hb => absurd (hu _ hb) (UInt32.lt_irrefl u)
    rw [insertEntry]
    split
    next hlt =>
      have hne : t = token → (t, b) ∉ (u, c) :: es := by
        rintro rfl hmem
        rcases List.mem_cons.mp hmem with heq | hmem
        · cases heq
          exact UInt32.lt_irrefl _ hlt
        · exact UInt32.lt_irrefl _ (UInt32.lt_trans hlt (hu _ hmem))
      rw [List.mem_cons, Prod.mk.injEq]
      tauto
    next hle =>
      split
      next heq =>
        subst heq
        rw [List.mem_cons, List.mem_cons, Prod.mk.injEq, Prod.mk.injEq]
        by_cases ht : t = token
        · subst ht
          simp [habove]
        · simp [ht]
      next hne =>
        rw [List.mem_cons, List.mem_cons, ih hes, Prod.mk.injEq]
        by_cases ht : t = token
        · subst ht
          simp [hne]
        · simp [ht]

theorem exists_single_of_readMembers {ms : List (Option Quoted × Json)} {bs cs : TokenBiases}
    (h : readMembers bs ms = .ok cs) : ∀ m ∈ ms, ∃ bias, Reader.single m.2 = .ok bias := by
  induction ms generalizing bs with
  | nil => simp
  | cons m ms ih =>
    obtain ⟨_ | key, v⟩ := m
    · cases h
    · obtain ⟨token, -, h⟩ := bind_eq_ok h
      obtain ⟨bias, hbias, h⟩ := bind_eq_ok h
      exact List.forall_mem_cons.mpr ⟨⟨bias, hbias⟩, ih h⟩

theorem mem_of_readMembers_iff {ms : List (Option Quoted × Json)} {bs cs : TokenBiases}
    (h : readMembers bs ms = .ok cs) {t : UInt32} {b : Binary} :
    (t, b) ∈ cs.entries ↔
      (∃ v, Given t ms v ∧ Reader.single v = .ok b) ∨ ((∀ m ∈ ms, ¬Names t m) ∧ (t, b) ∈ bs.entries) := by
  induction ms generalizing bs with
  | nil =>
    cases h
    have hnone : ∀ v, ¬Given t [] v := by
      rintro v ⟨⟩
    simp [hnone]
  | cons m ms ih =>
    obtain ⟨_ | key, u⟩ := m
    · cases h
    · obtain ⟨token, htoken, h⟩ := bind_eq_ok h
      obtain ⟨bias, hbias, h⟩ := bind_eq_ok h
      have hnames : Names t (some key, u) ↔ t = token := by
        constructor
        · rintro ⟨_, ⟨⟩, hkey⟩
          exact Except.ok.inj (hkey.symm.trans htoken)
        · rintro rfl
          exact ⟨key, rfl, htoken⟩
      have hread : Reader.single u = .ok b ↔ b = bias := by simp [hbias, eq_comm]
      rw [ih h, insert, mem_insertEntry_iff bs.ascending, List.forall_mem_cons, hnames]
      simp only [given_cons_iff, hnames, or_and_right, exists_or]
      have hlast : (∃ v, (t = token ∧ v = u ∧ ∀ m ∈ ms, ¬Names t m) ∧ Reader.single v = .ok b) ↔
          t = token ∧ (∀ m ∈ ms, ¬Names t m) ∧ b = bias := by
        rw [← hread]
        constructor
        · rintro ⟨v, ⟨ht, rfl, hunnamed⟩, hv⟩
          exact ⟨ht, hunnamed, hv⟩
        · rintro ⟨ht, hunnamed, hv⟩
          exact ⟨u, ⟨ht, rfl, hunnamed⟩, hv⟩
      rw [hlast, or_assoc]
      refine or_congr Iff.rfl ⟨?_, ?_⟩
      · rintro ⟨hunnamed, ⟨ht, hb⟩ | ⟨hne, hmem⟩⟩
        · exact .inl ⟨ht, hunnamed, hb⟩
        · exact .inr ⟨⟨hne, hunnamed⟩, hmem⟩
      · rintro (⟨ht, hunnamed, hb⟩ | ⟨⟨hne, hunnamed⟩, hmem⟩)
        · exact ⟨hunnamed, .inl ⟨ht, hb⟩⟩
        · exact ⟨hunnamed, .inr ⟨hne, hmem⟩⟩

theorem mem_of_given {ms : List (Option Quoted × Json)} {token : UInt32} {v : Json} (h : Given token ms v) :
    ∃ m ∈ ms, m.2 = v := by
  induction h with
  | last names unnamed => exact ⟨_, List.mem_cons_self, rfl⟩
  | later given ih =>
    obtain ⟨m, hm, hv⟩ := ih
    exact ⟨m, List.mem_cons_of_mem _ hm, hv⟩

theorem isNumber_of_readMembers_iff {ms : List (Option Quoted × Json)} {bs : TokenBiases}
    (h : readMembers empty ms = .ok bs) :
    (∀ e ∈ bs.entries, (Json.ofSingle e.2).IsNumber) ↔ ∀ token n, Given token ms (.number n) → n.Moderate := by
  constructor
  · intro hall token n hgiven
    obtain ⟨m, hm, hv⟩ := mem_of_given hgiven
    obtain ⟨bias, hbias⟩ := exists_single_of_readMembers h m hm
    rw [hv] at hbias
    have hmem : (token, bias) ∈ bs.entries := (mem_of_readMembers_iff h).mpr (.inl ⟨_, hgiven, hbias⟩)
    exact (Json.isNumber_of_single_iff hbias).mp (hall _ hmem)
  · intro hmoderate e he
    obtain ⟨token, bias⟩ := e
    rcases (mem_of_readMembers_iff h).mp he with ⟨v, hgiven, hbias⟩ | ⟨-, hempty⟩
    · obtain ⟨n, rfl⟩ := Json.exists_numeral_of_single hbias
      exact (Json.isNumber_of_single_iff hbias).mpr (hmoderate token n hgiven)
    · simp [empty] at hempty

end TokenBiases

namespace ChatSettings

def numberNames : List String := ["temperature", "top_p", "presence_penalty", "frequency_penalty"]

/-- The numbers that are given for settings are in range, but for biases that a later one replaces. -/
structure Moderate (found : List (String × Json)) : Prop where
  numbers : ∀ name ∈ numberNames, ∀ n, found.lookup name = some (.number n) → n.Moderate
  biases : ∀ ms, found.lookup "token_selection_biases" = some (.object ms true) →
    ∀ token n, TokenBiases.Given token ms (.number n) → n.Moderate

def Sets {α : Type} (found : List (String × Json)) (name : String) (reader : Reader α) (default x : α) : Prop :=
  (found.lookup name = none ∧ x = default) ∨ ∃ v, found.lookup name = some v ∧ reader v = .ok x

structure Told (found : List (String × Json)) (s : ChatSettings) : Prop where
  temperature : Sets found "temperature" Reader.single default.temperature s.temperature
  topP : Sets found "top_p" Reader.single default.topP s.topP
  presencePenalty : Sets found "presence_penalty" Reader.single default.presencePenalty s.presencePenalty
  frequencyPenalty : Sets found "frequency_penalty" Reader.single default.frequencyPenalty s.frequencyPenalty
  tokenBiases : Sets found "token_selection_biases" TokenBiases.reader default.tokenBiases s.tokenBiases

theorem exists_told {v : Json} {s : ChatSettings} (h : reader v = .ok s) :
    ∃ found, Holds (record.slots.map (·.name)) v found ∧ Told found s := by
  obtain ⟨found, hholds, hbuild⟩ := Record.exists_holds h
  unfold record at hbuild
  obtain ⟨f₇, stop, h₇, -, rfl⟩ := Record.build_seq hbuild
  obtain ⟨f₆, biases, h₆, hbiases, rfl⟩ := Record.build_seq h₇
  obtain ⟨f₅, responses, h₅, -, rfl⟩ := Record.build_seq h₆
  obtain ⟨f₄, tokens, h₄, -, rfl⟩ := Record.build_seq h₅
  obtain ⟨f₃, frequency, h₃, hfrequency, rfl⟩ := Record.build_seq h₄
  obtain ⟨f₂, presence, h₂, hpresence, rfl⟩ := Record.build_seq h₃
  obtain ⟨f₁, topP, h₁, htopP, rfl⟩ := Record.build_seq h₂
  obtain ⟨temperature, htemperature, rfl⟩ := Record.build_map h₁
  exact ⟨found, hholds, Record.build_fieldD htemperature, Record.build_fieldD htopP, Record.build_fieldD hpresence,
    Record.build_fieldD hfrequency, Record.build_fieldD hbiases⟩

theorem Sets.isNumber_iff {found : List (String × Json)} {name : String} {default x : Binary}
    (h : Sets found name Reader.single default x) (hdefault : default.Finite) :
    (Json.ofSingle x).IsNumber ↔ ∀ n, found.lookup name = some (.number n) → n.Moderate := by
  rcases h with ⟨hnone, rfl⟩ | ⟨v, hv, hread⟩
  · refine iff_of_true ((Json.isNumber_ofSingle_iff _).mpr hdefault) ?_
    simp [hnone]
  · obtain ⟨n, rfl⟩ := Json.exists_numeral_of_single hread
    rw [Json.isNumber_of_single_iff hread, hv]
    simp

theorem Sets.isNumber_biases_iff {found : List (String × Json)} {bs : TokenBiases}
    (h : Sets found "token_selection_biases" TokenBiases.reader .empty bs) :
    (∀ e ∈ bs.entries, (Json.ofSingle e.2).IsNumber) ↔
      ∀ ms, found.lookup "token_selection_biases" = some (.object ms true) →
        ∀ token n, TokenBiases.Given token ms (.number n) → n.Moderate := by
  rcases h with ⟨hnone, rfl⟩ | ⟨v, hv, hread⟩
  · simp [hnone, TokenBiases.empty]
  · cases v with
    | object ms closed =>
      obtain ⟨rfl, hmembers⟩ := closed_and_eq_ok hread
      rw [TokenBiases.isNumber_of_readMembers_iff hmembers, hv]
      simp
    | _ => cases hread

end ChatSettings

namespace Http

structure Numbered (members : List (String × Json)) : Prop where
  numbers : ∀ name ∈ ChatSettings.numberNames, ∃ n, members.lookup name = some (.number n)
  biases : ∃ ms, members.lookup "logit_bias" = some (.object ms true) ∧ ∀ m ∈ ms, m.2.IsNumber

theorem Posted.numbered_iff {b : Binding} {c : Call} {streamed : Bool} {members : List (String × Json)}
    (h : Posted b c streamed members) {found : List (String × Json)} (told : c.settings.Told found) :
    Numbered members ↔ ChatSettings.Moderate found := by
  have hfinite : ∀ i : Int, i.natAbs < Literal.significandLimit → (single.ofInt i).Finite := fun _ => finite_ofInt
  have hsent : ∀ {name : String} {x : Binary}, members.lookup name = some (.ofSingle x) →
      ((∃ n, members.lookup name = some (.number n)) ↔ (Json.ofSingle x).IsNumber) := by
    intro name x hx
    rw [hx]
    simp [Json.IsNumber]
  have hnumbers : ∀ name ∈ ChatSettings.numberNames,
      ((∃ n, members.lookup name = some (.number n)) ↔ ∀ n, found.lookup name = some (.number n) → n.Moderate) := by
    simp only [ChatSettings.numberNames, List.mem_cons, List.not_mem_nil, or_false, forall_eq_or_imp, forall_eq]
    refine ⟨?_, ?_, ?_, ?_⟩
    · exact (hsent h.temperature).trans (told.temperature.isNumber_iff (hfinite 0 (by decide)))
    · exact (hsent h.topP).trans (told.topP.isNumber_iff (hfinite 1 (by decide)))
    · exact (hsent h.presencePenalty).trans (told.presencePenalty.isNumber_iff (hfinite 0 (by decide)))
    · exact (hsent h.frequencyPenalty).trans (told.frequencyPenalty.isNumber_iff (hfinite 0 (by decide)))
  have hbiases : (∃ ms, members.lookup "logit_bias" = some (.object ms true) ∧ ∀ m ∈ ms, m.2.IsNumber) ↔
      ∀ e ∈ c.settings.tokenBiases.entries, (Json.ofSingle e.2).IsNumber := by
    obtain ⟨entries, hentries, hperm⟩ := h.tokenBiases
    have hvalues : (entries.map Prod.snd).Perm (c.settings.tokenBiases.entries.map fun e => Json.ofSingle e.2) := by
      simpa only [List.map_map, Function.comp_def] using hperm.map Prod.snd
    calc (∃ ms, members.lookup "logit_bias" = some (.object ms true) ∧ ∀ m ∈ ms, m.2.IsNumber)
        ↔ ∀ e ∈ entries, e.2.IsNumber := by
          rw [hentries]
          constructor
          · rintro ⟨ms, hms, hall⟩
            obtain ⟨rfl, -⟩ := Json.object.inj (Option.some.inj hms)
            exact fun e he => hall _ (List.mem_map_of_mem he)
          · intro hall
            exact ⟨_, rfl, List.forall_mem_map.mpr hall⟩
      _ ↔ ∀ v ∈ entries.map Prod.snd, v.IsNumber := List.forall_mem_map.symm
      _ ↔ ∀ v ∈ c.settings.tokenBiases.entries.map fun e => Json.ofSingle e.2, v.IsNumber :=
          forall_congr' fun v => imp_congr_left hvalues.mem_iff
      _ ↔ ∀ e ∈ c.settings.tokenBiases.entries, (Json.ofSingle e.2).IsNumber := List.forall_mem_map
  rw [told.tokenBiases.isNumber_biases_iff] at hbiases
  constructor
  · rintro ⟨numbers, biases⟩
    exact ⟨fun name hname => (hnumbers name hname).mp (numbers name hname), hbiases.mp biases⟩
  · rintro ⟨numbers, biases⟩
    exact ⟨fun name hname => (hnumbers name hname).mpr (numbers name hname), hbiases.mpr biases⟩

/-- What is set as a number is sent as a number if and only if it is in the range of the format `single`; a number that
is too great is sent as null. In what order the biases are written makes no difference. -/
theorem numbers_sent_iff_moderate {text : String} {b : Binding} {c : Call} {streamed : Bool} {r : ChatRequest}
    (hread : ChatSettings.reader.ofText text = .ok c.settings ∨
      ∃ s, TextSettings.reader.ofText text = .ok s ∧ s.toChat = c.settings)
    (hrequest : ChatRequest.make? b c.messages c.settings streamed = .ok r) :
    ∃ root found, Document.parse text = ⟨root, true⟩ ∧ Holds (ChatSettings.record.slots.map (·.name)) root found ∧
      ∀ biases, biases.Perm r.body.tokenBiases.entries →
        ∃ members, Document.parse (bodyWith r biases).render = ⟨.record members, true⟩ ∧
          (Numbered members ↔ ChatSettings.Moderate found) := by
  have hchat : ChatSettings.reader.ofText text = .ok c.settings := by
    rcases hread with hread | ⟨s, hread, hs⟩
    · exact hread
    · rw [TextSettings.ofText_toChat, hread, ← hs]
      rfl
  obtain ⟨root, hparse, hroot⟩ := Reader.ofText_eq_ok_iff.mp hchat
  obtain ⟨found, hholds, told⟩ := ChatSettings.exists_told hroot
  refine ⟨root, found, hparse, hholds, ?_⟩
  intro biases horder
  obtain ⟨members, hbody, hposted⟩ := exists_posted (ChatRequest.asks_of_make? hrequest) horder
  exact ⟨members, hbody ▸ Json.parse_render (whole_bodyWith r biases), hposted.numbered_iff told⟩

def plain : Binding := ⟨"gpt-4", "key", .openAI, none, none, none⟩

def asking (settings : ChatSettings) : Call := ⟨[⟨.user, "Hello"⟩], settings⟩

theorem great_temperature_sent_as_null :
    ∃ settings r members, ChatSettings.reader.ofText "\x7b\"temperature\":1e39\x7d" = .ok settings ∧
      ChatRequest.make? plain (asking settings).messages settings false = .ok r ∧
      Document.parse (body r).render = ⟨.record members, true⟩ ∧ members.lookup "temperature" = some .null := by
  let settings : ChatSettings := { temperature := .infinite false }
  let r : ChatRequest :=
    ⟨plain.route, plain.connection, .make (asking settings).messages settings false none⟩
  have hread : ChatSettings.reader.ofText "\x7b\"temperature\":1e39\x7d" = .ok settings := by decide +kernel
  have hrequest : ChatRequest.make? plain (asking settings).messages settings false = .ok r := rfl
  have hasks : r.Asks plain (asking settings) false := ChatRequest.asks_of_make? hrequest
  obtain ⟨members, hbody, hposted⟩ := exists_posted hasks (.refl _)
  exact ⟨settings, r, members, hread, hrequest, hbody ▸ Json.parse_render (whole_bodyWith r _), hposted.temperature⟩

def moderateText : String :=
  "\x7b\"temperature\":3.4028235e+38,\"token_selection_biases\":\x7b\"7\":1e+39,\"7\":-1e+38\x7d\x7d"

theorem moderate_numbers_sent :
    ∃ settings r members, ChatSettings.reader.ofText moderateText = .ok settings ∧
      ChatRequest.make? plain (asking settings).messages settings true = .ok r ∧
      Document.parse (body r).render = ⟨.record members, true⟩ ∧ Numbered members := by
  let greatest : Numeral := ⟨false, [3], [4, 0, 2, 8, 2, 3, 5], some 38⟩
  let replaced : Numeral := ⟨false, [1], [], some 39⟩
  let holding : Numeral := ⟨true, [1], [], some 38⟩
  let biases : List (String × Json) := [("7", .number replaced), ("7", .number holding)]
  let given : List (String × Json) := [("temperature", .number greatest), ("token_selection_biases", .record biases)]
  have hgreatest : greatest.Moderate := by
    have hread : Reader.single (.number greatest) = .ok (.finite false 16777215 104) := by decide +kernel
    exact (Json.isNumber_of_single_iff hread).mp ((Json.isNumber_ofSingle_iff _).mpr (.intro _ _ _))
  have hholding : holding.Moderate := by
    have hread : Reader.single (.number holding) = .ok (.finite true 9860761 103) := by decide +kernel
    exact (Json.isNumber_of_single_iff hread).mp ((Json.isNumber_ofSingle_iff _).mpr (.intro _ _ _))
  let settings : ChatSettings :=
    { temperature := .finite false 16777215 104
      tokenBiases := TokenBiases.empty.insert 7 (.finite true 9860761 103) }
  let r : ChatRequest := ⟨plain.route, plain.connection, .make (asking settings).messages settings true none⟩
  have hread : ChatSettings.reader.ofText moderateText = .ok settings := by decide +kernel
  have hrequest : ChatRequest.make? plain (asking settings).messages settings true = .ok r := rfl
  obtain ⟨root, found, hparse, hholds, hsent⟩ := numbers_sent_iff_moderate (c := asking settings) (.inl hread) hrequest
  obtain ⟨members, hbody, hnumbered⟩ := hsent _ (.refl _)
  have hrender : (Json.record given).render = moderateText := by decide +kernel
  have hproper : ∀ m ∈ biases, m.2.Whole := by
    simp only [biases, List.mem_cons, List.not_mem_nil, or_false, forall_eq_or_imp, forall_eq]
    exact ⟨.number ⟨by decide, by decide⟩, .number ⟨by decide, by decide⟩⟩
  have hwhole : (Json.record given).Whole := by
    refine Json.whole_record ?_
    simp only [given, List.mem_cons, List.not_mem_nil, or_false, forall_eq_or_imp, forall_eq]
    exact ⟨.number ⟨by decide, by decide⟩, Json.whole_record hproper⟩
  obtain ⟨rfl, -⟩ := Document.mk.inj (hparse.symm.trans (hrender ▸ Json.parse_render hwhole))
  obtain rfl := hholds.unique (@Json.holds_record _ given (by decide) (by decide))
  refine ⟨settings, r, members, hread, hrequest, hbody, hnumbered.mpr ⟨?_, ?_⟩⟩
  · intro name hname n hn
    by_cases htemperature : name = "temperature"
    · subst htemperature
      cases hn
      exact hgreatest
    · have hbiases : name ≠ "token_selection_biases" := by
        rintro rfl
        revert hname
        decide
      rw [Json.lookup_cons_ne htemperature, Json.lookup_cons_ne hbiases] at hn
      cases hn
  · intro ms hms token n hgiven
    cases hms
    rcases TokenBiases.given_cons_iff.mp hgiven with hgiven | ⟨hnames, -, hunnamed⟩
    · rcases TokenBiases.given_cons_iff.mp hgiven with hgiven | ⟨-, hn, -⟩
      · cases hgiven
      · cases hn
        exact hholding
    · have hagain : TokenBiases.Names token (some (.ofText "7"), .number holding) := hnames
      exact absurd hagain (hunnamed _ List.mem_cons_self)

end Http

end ChatGateway
