import ChatGateway.Proofs.Http.Authority
import ChatGateway.Proofs.Http.Bodies
import ChatGateway.Proofs.Http.Exchanges
import Mathlib.Data.List.TakeDrop

namespace ChatGateway

namespace Http

open Text (dropTrailing)

structure BareBase (endpoint base : String) : Prop where
  slashes : ∃ n, endpoint.toList = base.toList ++ List.replicate n '/'
  bare : base.toList.getLast? ≠ some '/'

theorem bareBase_baseText (endpoint : String) : BareBase endpoint (baseText endpoint) where
  slashes := by
    rw [baseText, String.toList_ofList]
    exact Text.exists_trailing '/' endpoint.toList
  bare := by
    rw [baseText, String.toList_ofList, dropTrailing, List.getLast?_reverse]
    intro hslash
    have hnot := List.head?_dropWhile_not (· == '/') endpoint.toList.reverse
    rw [hslash] at hnot
    simp at hnot

end Http

inductive Binding.Addresses (b : Binding) : String → Prop
  | model {base : String} (dialect : b.dialect = .openAI)
      (bare : Http.BareBase (b.endpoint.getD "https://api.openai.com/v1") base) :
    Addresses b (base ++ "/chat/completions")
  | deployment {endpoint base : String} (dialect : b.dialect ≠ .openAI) (named : b.endpoint = some endpoint)
      (bare : Http.BareBase endpoint base) :
    Addresses b (base ++ "/openai/deployments/" ++ b.modelId ++ "/chat/completions?api-version=" ++
      b.apiVersion.getD "2022-12-01")

namespace Http

variable {b : Binding} {c : Call} {streamed : Bool} {r : ChatRequest}

theorem isAzure_of_ne {d : Dialect} (h : d ≠ .openAI) : d.isAzure = true := by
  cases d with
  | openAI => exact absurd rfl h
  | azure | azureAD => rfl

theorem exists_addresses (h : b.Sound) (hr : r.Asks b c streamed) :
    ∃ text, address r = .ok text ∧ b.Addresses text := by
  by_cases hdialect : b.dialect = .openAI
  · refine ⟨_, ?_, .model hdialect (bareBase_baseText _)⟩
    rw [address, hr.route, if_pos hdialect, hr.connection]
    rfl
  · obtain ⟨e, he⟩ := Option.isSome_iff_exists.mp (h.endpoint_of_isAzure (isAzure_of_ne hdialect))
    refine ⟨_, ?_, .deployment hdialect he (bareBase_baseText e)⟩
    rw [address, hr.route, if_neg hdialect, hr.connection, he]
    rfl

/-! ### Addresses without a name -/

namespace Url

theorem mem_of_mem_before {set : Char → Bool} {s t : List Char} {d : Char} (hd : set d = true) {x : Char}
    (h : x ∈ (before set (s ++ d :: t)).1) : x ∈ s := by
  rw [before, List.span_eq_takeWhile_dropWhile] at h
  induction s with
  | nil => simp [hd] at h
  | cons y s ih =>
    rw [List.cons_append, List.takeWhile_cons] at h
    split at h
    · rcases List.mem_cons.mp h with rfl | h
      · exact List.mem_cons_self
      · exact List.mem_cons_of_mem _ (ih h)
    · cases h

theorem splitUser_of_not_mem {s : List Char} (h : '@' ∉ s) : splitUser s = (none, s) := by
  have hall : ∀ c ∈ s.reverse, (!(c == '@')) = true := by
    intro c hc
    have hne : c ≠ '@' := fun heq => h (heq ▸ List.mem_reverse.mp hc)
    simpa using hne
  have hbefore : before (· == '@') s.reverse = (s.reverse, []) := by
    rw [before, List.span_eq_takeWhile_dropWhile, List.takeWhile_eq_self_iff.mpr hall,
      List.dropWhile_eq_nil_iff.mpr hall]
  rw [splitUser, hbefore]

structure Nameless (front word : List Char) : Prop where
  outside : '@' ∉ front
  inside : '@' ∉ word
  begins : ∃ c s, word = c :: s ∧ isSlash c = false

theorem Nameless.not_mem_authority {front word : List Char} (h : Nameless front word) (path : List Char) :
    '@' ∉ (before (fun c => isSlash c || c == '?' || c == '#')
      ((front ++ '/' :: (word ++ '/' :: path)).dropWhile isSlash)).1 := by
  obtain ⟨hfront, hword, c, s, rfl, hc⟩ := h
  intro hat
  induction front with
  | nil =>
    rw [List.nil_append, List.dropWhile_cons_of_pos rfl, List.cons_append,
      List.dropWhile_cons_of_neg (by simp [hc])] at hat
    exact hword (mem_of_mem_before (s := c :: s) rfl hat)
  | cons d front ih =>
    rw [List.cons_append, List.dropWhile_cons] at hat
    split at hat
    · exact ih (fun h => hfront (List.mem_cons_of_mem _ h)) hat
    · exact hfront (mem_of_mem_before (s := d :: front) rfl hat)

theorem reverse_dropWhile_reverse_append {p : Char → Bool} {d : Char} (hd : p d = false) (s t : List Char) :
    ((s ++ d :: t).reverse.dropWhile p).reverse = s ++ d :: (t.reverse.dropWhile p).reverse := by
  simp only [List.reverse_append, List.reverse_cons, List.append_assoc, List.dropWhile_append]
  split
  · next hnil =>
    rw [List.isEmpty_iff.mp hnil]
    simp [hd]
  · simp

theorem scheme?_cleaned (front : List Char) {word : List Char} (hword : ∀ c ∈ word, 0x20 < c.toNat) (path : List Char) :
    ∃ front' path', (∀ c ∈ front', c ∈ front) ∧
      scheme? (cleaned ("https:".toList ++ (front ++ '/' :: (word ++ '/' :: path)))) =
        some (.https, front' ++ '/' :: (word ++ '/' :: path')) := by
  let outer (c : Char) : Bool := c.toNat ≤ 0x20
  let kept (c : Char) : Bool := c != '\t' && c != '\n' && c != '\r'
  have hkept : word.filter kept = word := by
    rw [List.filter_eq_self]
    intro c hc
    have hlt := hword c hc
    simp only [kept, Bool.and_eq_true, bne_iff_ne]
    refine ⟨⟨?_, ?_⟩, ?_⟩ <;> rintro rfl <;> revert hlt <;> decide
  have hcleaned : cleaned ("https:".toList ++ (front ++ '/' :: (word ++ '/' :: path))) =
      "https:".toList ++
        (front.filter kept ++ '/' :: (word ++ '/' :: (path.reverse.dropWhile outer).reverse.filter kept)) := by
    have htrailing : (("https:".toList ++ (front ++ '/' :: (word ++ '/' :: path))).reverse.dropWhile outer).reverse =
        "https:".toList ++ (front ++ '/' :: (word ++ '/' :: (path.reverse.dropWhile outer).reverse)) := by
      simpa using reverse_dropWhile_reverse_append (d := '/') (by decide) ("https:".toList ++ front ++ '/' :: word) path
    have hleading : ("https:".toList ++ (front ++ '/' :: (word ++ '/' :: path))).dropWhile outer =
        "https:".toList ++ (front ++ '/' :: (word ++ '/' :: path)) := rfl
    rw [cleaned, hleading, htrailing]
    simp only [List.filter_append, List.filter_cons]
    rw [hkept]
    rfl
  refine ⟨_, _, ?_, (congrArg scheme? hcleaned).trans rfl⟩
  intro c hc
  exact (List.mem_filter.mp hc).1

theorem user_of_parse? {front word path : List Char} (h : Nameless front word) (hword : ∀ c ∈ word, 0x20 < c.toNat)
    {u : Url} (hparse : parse? ("https:".toList ++ (front ++ '/' :: (word ++ '/' :: path))) = some u) :
    u.user = [] ∧ u.password = none := by
  obtain ⟨front', path', hfront, hscheme⟩ := scheme?_cleaned front hword path
  have hnameless : Nameless front' word := ⟨fun hat => h.outside (hfront _ hat), h.inside, h.begins⟩
  have hnone := splitUser_of_not_mem (hnameless.not_mem_authority path')
  unfold parse? at hparse
  simp only [hscheme, Option.bind_eq_bind, Option.bind_some, hnone] at hparse
  obtain ⟨host, hhost, hparse⟩ := Option.bind_eq_some_iff.mp hparse
  obtain ⟨number, hnumber, hparse⟩ := Option.bind_eq_some_iff.mp hparse
  cases hparse
  exact ⟨rfl, rfl⟩

end Url

theorem exists_front {e : String} (h : secureScheme.toList <+: e.toList) :
    ∃ front, (baseText e).toList = "https:".toList ++ front ∧ ∀ c ∈ front, c ∈ e.toList := by
  obtain ⟨rest, hrest⟩ := h
  have hscheme : e.toList = "https:".toList ++ ("//".toList ++ rest) := by
    rw [← hrest]
    rfl
  refine ⟨Text.dropTrailing '/' ("//".toList ++ rest), ?_, ?_⟩
  · rw [baseText, String.toList_ofList, hscheme, Text.dropTrailing_append]
    split
    · next hnil =>
      rw [hnil]
      decide
    · rfl
  · intro c hc
    obtain ⟨n, hn⟩ := Text.exists_trailing '/' ("//".toList ++ rest)
    have hmem : c ∈ "//".toList ++ rest := by
      rw [hn]
      exact List.mem_append_left _ hc
    rw [hscheme]
    exact List.mem_append_right _ hmem

theorem exists_word (h : b.Sound) (hr : r.Asks b c streamed) {text : String} (htext : address r = .ok text) :
    ∃ word ∈ ["chat".toList, "openai".toList], ∃ path,
      text.toList = (baseText (b.endpoint.getD publicBase)).toList ++ '/' :: (word ++ '/' :: path) := by
  by_cases hdialect : b.dialect = .openAI
  · rw [address, hr.route, if_pos hdialect, hr.connection] at htext
    cases htext
    refine ⟨_, List.mem_cons_self, "completions".toList, ?_⟩
    rw [String.toList_append]
    rfl
  · obtain ⟨e, he⟩ := Option.isSome_iff_exists.mp (h.endpoint_of_isAzure (isAzure_of_ne hdialect))
    rw [address, hr.route, if_neg hdialect, hr.connection, he] at htext
    cases htext
    refine ⟨"openai".toList, by decide, "deployments/".toList ++ b.modelId.toList ++
      "/chat/completions?api-version=".toList ++ (b.apiVersion.getD defaultApiVersion).toList, ?_⟩
    simp only [he, Option.getD_some, String.toList_append, List.append_assoc]
    rfl

theorem userHeader_eq_nil (h : b.Sound) (hplain : ∀ e ∈ b.endpoint, '@' ∉ e.toList) (hr : r.Asks b c streamed)
    {text : String} (htext : address r = .ok text) {url : Url} (hurl : Url.parse? text.toList = some url) :
    userHeader url = [] := by
  obtain ⟨hsecure, hat⟩ : secureScheme.toList <+: (b.endpoint.getD publicBase).toList ∧
      '@' ∉ (b.endpoint.getD publicBase).toList := by
    cases hendpoint : b.endpoint with
    | none => exact ⟨by decide, by decide⟩
    | some e => exact ⟨h.secure e hendpoint, hplain e hendpoint⟩
  obtain ⟨word, hword, path, hpath⟩ := exists_word h hr htext
  obtain ⟨front, hfront, hmem⟩ := exists_front hsecure
  have hletters : ∀ word ∈ ["chat".toList, "openai".toList], '@' ∉ word ∧ word.all (fun c => 0x20 < c.toNat) ∧
      ∃ c s, word = c :: s ∧ Url.isSlash c = false := by
    simp only [List.forall_mem_cons]
    exact ⟨⟨by decide, by decide, _, _, rfl, by decide⟩, ⟨by decide, by decide, _, _, rfl, by decide⟩, by simp⟩
  obtain ⟨hinside, hvisible, hbegins⟩ := hletters word hword
  rw [List.all_eq_true] at hvisible
  rw [hpath, hfront, List.append_assoc] at hurl
  obtain ⟨huser, hpassword⟩ := Url.user_of_parse? ⟨fun h => hat (hmem _ h), hinside, hbegins⟩
    (fun c hc => of_decide_eq_true (hvisible c hc)) hurl
  rw [userHeader, huser, hpassword]
  rfl

def Header.isCredential (h : Header) : Bool := h.name == "api-key" || h.name == "authorization"

structure InDialect (b : Binding) (sent : Sent) : Prop where
  url : ∃ text url, b.Addresses text ∧ Url.parse? text.toList = some url ∧ sent.url = String.ofList url.text
  model : ∃ members, Json.Document.parse sent.body = ⟨.record members, true⟩ ∧
    ("model" ∈ members.map Prod.fst ↔ b.dialect = .openAI)
  credential : sent.headers.filter Header.isCredential =
    [if b.dialect = .azure then ⟨"api-key", b.apiKey⟩ else ⟨"authorization", "Bearer " ++ b.apiKey⟩]
  organization : sent.headers.filter (·.name == "openai-organization") =
    (b.organization.map fun name => ⟨"openai-organization", name⟩).toList

theorem filter_isCredential_headers (b : Binding) : (headers b.connection).filter Header.isCredential =
    [if b.dialect = .azure then ⟨"api-key", b.apiKey⟩ else ⟨"authorization", "Bearer " ++ b.apiKey⟩] := by
  rcases b with ⟨_, _, dialect, organization, _, _⟩
  cases dialect <;> cases organization <;> rfl

theorem filter_organization_headers (b : Binding) :
    (headers b.connection).filter (·.name == "openai-organization") =
      (b.organization.map fun name => ⟨"openai-organization", name⟩).toList := by
  rcases b with ⟨_, _, dialect, organization, _, _⟩
  cases dialect <;> cases organization <;> rfl

theorem inDialect (h : b.Sound) (hplain : ∀ e ∈ b.endpoint, '@' ∉ e.toList) (hr : r.Asks b c streamed)
    {biases : List (UInt32 × Number.Binary)} (horder : biases.Perm r.body.tokenBiases.entries) {sent : Sent}
    (hsent : composeWith r biases = .ok sent) : InDialect b sent := by
  obtain ⟨members, hparse, -, hposted⟩ := exists_members hr horder hsent
  obtain ⟨text, url, htext, hurl, rfl⟩ := composeWith_eq_ok hsent
  obtain ⟨text', htext', haddresses⟩ := exists_addresses h hr
  obtain rfl : text = text' := Except.ok.inj (htext.symm.trans htext')
  have hheaders : userHeader url ++ headers r.connection = headers b.connection := by
    rw [userHeader_eq_nil h hplain hr htext hurl, List.nil_append, show r.connection = b.connection from hr.connection]
  constructor
  · exact ⟨text, url, haddresses, hurl, rfl⟩
  · refine ⟨members, hparse, ?_⟩
    rw [hposted.names]
    by_cases hdialect : b.dialect = .openAI
    · simp [hdialect]
    · by_cases hstop : c.settings.stopSequences = [] <;> simp [hdialect, hstop]
  · rw [hheaders, filter_isCredential_headers]
  · rw [hheaders, filter_organization_headers]

/-! ### Slashes at the end of the endpoint -/

structure DifferInSlashes (b b' : Binding) : Prop where
  endpoints : ∃ base m n, b.endpoint = some (String.ofList (base ++ List.replicate m '/')) ∧
    b'.endpoint = some (String.ofList (base ++ List.replicate n '/'))
  others : b' = { b with endpoint := b'.endpoint }

theorem dropTrailing_append_replicate (c : Char) (s : List Char) (n : Nat) :
    Text.dropTrailing c (s ++ List.replicate n c) = Text.dropTrailing c s := by
  have hnil : Text.dropTrailing c (List.replicate n c) = [] := by simp [Text.dropTrailing]
  rw [Text.dropTrailing_append, if_pos hnil]

theorem compose_congr {r r' : ChatRequest} (haddress : address r' = address r)
    (hheaders : headers r'.connection = headers r.connection) (hbody : body r' = body r) : compose r' = compose r := by
  unfold body at hbody
  rw [compose, compose, composeWith, composeWith, haddress, hheaders, hbody]

theorem compose_eq_of_differInSlashes {b' : Binding} {r' : ChatRequest} (h : DifferInSlashes b b')
    (hr : r.Asks b c streamed) (hr' : r'.Asks b' c streamed) : compose r' = compose r := by
  obtain ⟨⟨base, m, n, hendpoint, hendpoint'⟩, hothers⟩ := h
  have hdialect : b'.dialect = b.dialect := by rw [hothers]
  have hmodelId : b'.modelId = b.modelId := by rw [hothers]
  have hroute : r'.route = r.route := by rw [hr'.route, hr.route, hdialect, hmodelId]
  have hconnection : r'.connection = { r.connection with base := b'.endpoint } := by
    rw [hr'.connection, hr.connection, hothers]
  have hbase : r.connection.base = b.endpoint := by rw [hr.connection]
  have hbaseText : baseText (String.ofList (base ++ List.replicate n '/')) =
      baseText (String.ofList (base ++ List.replicate m '/')) := by
    simp only [baseText, String.toList_ofList, dropTrailing_append_replicate]
  apply compose_congr
  · rw [address, address, hroute, hconnection, hbase, hendpoint, hendpoint']
    cases r.route <;> simp only [Option.getD_some, hbaseText]
  · rw [hconnection]
    rfl
  · rw [body, body, bodyWith, bodyWith, hroute, hr'.body_eq hr]

end Http

end ChatGateway
