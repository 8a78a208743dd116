import ChatGateway.Binding.Document
import ChatGateway.Proofs.Json.Printing
import ChatGateway.Proofs.Json.Records
import ChatGateway.Proofs.Text.Trimming

namespace ChatGateway

open Json (Reader Record Quoted Document)

theorem Json.Reader.optional_text_eq_ok_iff {v : Json} {s : Option String} :
    Reader.text.optional v = .ok s ↔ (v = .null ∧ s = none) ∨ ∃ t, v.text? = some t ∧ s = some t := by
  cases v with
  | null => simp [Reader.optional, Json.text?, eq_comm]
  | string q =>
    simp only [Reader.optional, Reader.text, Json.text?]
    cases q.text? with
    | none => simp [Except.map]
    | some t => simp [Except.map, eq_comm]
  | _ => simp [Reader.optional, Reader.text, Json.text?, Except.map]

namespace Dialect

inductive Shows (d : Dialect) : Json → Prop
  | name {q : Quoted} (text : q.text? = some d.name) : Shows d (.string q)
  | key {q : Quoted} (text : q.text? = some d.name) : Shows d (.object [(some q, .null)] true)

theorem reader_of_shows {d : Dialect} {v : Json} (h : d.Shows v) : reader v = .ok d := by
  cases h with
  | name text => cases d <;> simp [reader, Reader.variant, Reader.text, text, Reader.named, name, List.lookup_cons]
  | key text => cases d <;> simp [reader, Reader.variant, Reader.text, text, Reader.named, name, List.lookup_cons]

theorem eq_name_of_named {d : Dialect} {s : String}
    (h : Reader.named ([openAI, azure, azureAD].map fun d => (d.name, d)) s = .ok d) : s = d.name := by
  rw [Reader.named] at h
  split at h
  next x hx =>
    cases h
    obtain ⟨before, after, hsplit, -⟩ := List.lookup_eq_some_iff.mp hx
    have hmem : (s, d) ∈ [openAI, azure, azureAD].map fun d => (d.name, d) := by
      rw [hsplit]
      simp
    obtain ⟨other, -, heq⟩ := List.mem_map.mp hmem
    cases heq
    rfl
  next => cases h

theorem shows_of_reader {d : Dialect} {v : Json} (h : reader v = .ok d) : d.Shows v := by
  cases v with
  | string q =>
    obtain ⟨s, hs, hd⟩ := bind_eq_ok h
    have text := Json.Reader.text_eq_ok_iff.mp hs
    rw [eq_name_of_named hd] at text
    exact .name text
  | object ms closed =>
    obtain _ | ⟨⟨_ | key, v⟩, rest⟩ := ms
    · cases h
    · cases h
    · obtain ⟨s, hs, h⟩ := bind_eq_ok h
      obtain ⟨x, hx, h⟩ := bind_eq_ok h
      cases v with
      | null =>
        change (if rest.isEmpty && closed then pure x else throw _) = _ at h
        split at h
        next hend =>
          cases h
          obtain ⟨hrest, rfl⟩ : rest = [] ∧ closed = true := by simpa using hend
          have text := Json.Reader.text_eq_ok_iff.mp hs
          rw [eq_name_of_named hx] at text
          rw [hrest]
          exact .key text
        next => cases h
      | _ => cases h
  | _ => cases h

end Dialect

namespace Binding

def fieldNames : List String := ["model_id", "api_key", "api_type", "org_id", "api_version", "endpoint"]

inductive Offers (found : List (String × Json)) (name : String) : Option String → Prop
  | missing (h : found.lookup name = none) : Offers found name none
  | null (h : found.lookup name = some .null) : Offers found name none
  | text {v : Json} {s : String} (h : found.lookup name = some v) (text : v.text? = some s) :
    Offers found name (some s)

structure Given (found : List (String × Json)) (b : Binding) : Prop where
  modelId : ∃ v, found.lookup "model_id" = some v ∧ v.text? = some b.modelId
  apiKey : ∃ v, found.lookup "api_key" = some v ∧ v.text? = some b.apiKey
  dialect : ∃ v, found.lookup "api_type" = some v ∧ b.dialect.Shows v
  organization : Offers found "org_id" b.organization
  apiVersion : Offers found "api_version" b.apiVersion
  endpoint : Offers found "endpoint" b.endpoint

def Describes (text : String) (b : Binding) : Prop :=
  ∃ v found, Document.parse text = ⟨v, true⟩ ∧ Json.Holds fieldNames v found ∧ Given found b

theorem Offers.makes {found : List (String × Json)} {name : String} {s : Option String} (h : Offers found name s) :
    (Record.field? name Reader.text).Makes found s := by
  apply Record.Makes.field?
  cases h with
  | missing h => exact .inl ⟨h, rfl⟩
  | null h => exact .inr ⟨.null, h, rfl⟩
  | text h text => exact .inr ⟨_, h, Json.Reader.optional_text_eq_ok_iff.mpr (.inr ⟨_, text, rfl⟩)⟩

theorem written_of_given {v : Json} {found : List (String × Json)} {b : Binding} (h : Json.Holds fieldNames v found)
    (given : Given found b) : written v = .ok b := by
  obtain ⟨modelId, hmodel, hmodelText⟩ := given.modelId
  obtain ⟨apiKey, hkey, hkeyText⟩ := given.apiKey
  obtain ⟨dialect, hdialect, hshows⟩ := given.dialect
  have hfirst := Record.Makes.field hmodel (Json.Reader.text_eq_ok_iff.mpr hmodelText)
  have hsecond := Record.Makes.field hkey (Json.Reader.text_eq_ok_iff.mpr hkeyText)
  have hthird := Record.Makes.field hdialect (Dialect.reader_of_shows hshows)
  have hmakes := (((((hfirst.map Binding.mk).seq hsecond).seq hthird).seq given.organization.makes).seq
    given.apiVersion.makes).seq given.endpoint.makes
  exact Record.read_of_holds hmakes (by decide) h _

theorem offers_of_build {found : List (String × Json)} {name : String} {s : Option String}
    (h : (Record.field? name Reader.text).build (fun name => found.lookup name) = .ok s) : Offers found name s := by
  rcases Record.build_field? h with ⟨hnone, rfl⟩ | ⟨v, hv, hread⟩
  · exact .missing hnone
  · rcases Json.Reader.optional_text_eq_ok_iff.mp hread with ⟨rfl, rfl⟩ | ⟨t, ht, rfl⟩
    · exact .null hv
    · exact .text hv ht

theorem exists_given_of_written {v : Json} {b : Binding} (h : written v = .ok b) :
    ∃ found, Json.Holds fieldNames v found ∧ Given found b := by
  obtain ⟨found, hholds, hbuild⟩ := Record.exists_holds h
  refine ⟨found, hholds, ?_⟩
  obtain ⟨five, endpoint, hfive, hendpoint, rfl⟩ := Record.build_seq hbuild
  obtain ⟨four, apiVersion, hfour, hversion, rfl⟩ := Record.build_seq hfive
  obtain ⟨three, organization, hthree, horganization, rfl⟩ := Record.build_seq hfour
  obtain ⟨two, dialect, htwo, hdialect, rfl⟩ := Record.build_seq hthree
  obtain ⟨one, apiKey, hone, hkey, rfl⟩ := Record.build_seq htwo
  obtain ⟨modelId, hmodel, rfl⟩ := Record.build_map hone
  obtain ⟨model, hmodel, hmodelRead⟩ := Record.build_field hmodel
  obtain ⟨key, hkey, hkeyRead⟩ := Record.build_field hkey
  obtain ⟨shown, hdialect, hshown⟩ := Record.build_field hdialect
  exact
    { modelId := ⟨model, hmodel, Json.Reader.text_eq_ok_iff.mp hmodelRead⟩
      apiKey := ⟨key, hkey, Json.Reader.text_eq_ok_iff.mp hkeyRead⟩
      dialect := ⟨shown, hdialect, Dialect.shows_of_reader hshown⟩
      organization := offers_of_build horganization
      apiVersion := offers_of_build hversion
      endpoint := offers_of_build hendpoint }

theorem ofText_of_describes {text : String} {b : Binding} (h : Describes text b) :
    ofText text = b.trimmed.check.mapError .invalid := by
  obtain ⟨v, found, hparse, hholds, hgiven⟩ := h
  have hread : reader v = b.trimmed.check.mapError .invalid := by
    simp only [reader, written_of_given hholds hgiven, Except.mapError, ok_bind]
  simp only [ofText, hparse, Document.read, hread]
  cases b.trimmed.check <;> rfl

theorem exists_describes {text : String} {b : Binding} (h : ofText text = .ok b) :
    ∃ given, Describes text given := by
  obtain ⟨hended, hread⟩ := Document.read_eq_ok_iff.mp h
  obtain ⟨given, hwritten, -⟩ := bind_eq_ok hread
  obtain ⟨found, hholds, hgiven⟩ := exists_given_of_written (mapError_eq_ok hwritten)
  refine ⟨given, (Document.parse text).root, found, ?_, hholds, hgiven⟩
  rw [← hended]

theorem offers_ofOption {found : List (String × Json)} {name : String} {s : Option String}
    (h : found.lookup name = some (.ofOption .ofText s)) : Offers found name s := by
  cases s with
  | none => exact .null h
  | some s => exact .text h (Quoted.text?_ofText s)

theorem describes_render (b : Binding) : Describes b.toJson.render b := by
  have hwhole : b.toJson.Whole := by
    apply Json.whole_record
    simp only [List.mem_cons, List.not_mem_nil, or_false, forall_eq_or_imp, forall_eq]
    exact ⟨Json.whole_ofText _, Json.whole_ofText _, Json.whole_ofText _, Json.whole_ofOption Json.whole_ofText _,
      Json.whole_ofOption Json.whole_ofText _, Json.whole_ofOption Json.whole_ofText _⟩
  refine ⟨b.toJson, _, Json.parse_render hwhole, Json.holds_record (by simp) ?_, ?_⟩
  · simp [fieldNames]
  · constructor
    · exact ⟨_, rfl, Quoted.text?_ofText _⟩
    · exact ⟨_, rfl, Quoted.text?_ofText _⟩
    · exact ⟨_, rfl, .name (Quoted.text?_ofText _)⟩
    · exact offers_ofOption rfl
    · exact offers_ofOption rfl
    · exact offers_ofOption rfl

end Binding

end ChatGateway
