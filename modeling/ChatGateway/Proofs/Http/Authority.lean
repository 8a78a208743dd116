import ChatGateway.Proofs.Binding.Soundness

namespace ChatGateway

namespace Text

theorem dropTrailing_append (c : Char) (s t : List Char) :
    dropTrailing c (s ++ t) = if dropTrailing c t = [] then dropTrailing c s else s ++ dropTrailing c t := by
  simp only [dropTrailing, List.reverse_append, List.dropWhile_append, List.isEmpty_iff, List.reverse_eq_nil_iff]
  split
  · rfl
  · simp

theorem exists_trailing (c : Char) (s : List Char) :
    ∃ n, s = dropTrailing c s ++ List.replicate n c := by
  refine ⟨(s.reverse.takeWhile (· == c)).length, ?_⟩
  have htrailing :
      (s.reverse.takeWhile (· == c)).reverse = List.replicate (s.reverse.takeWhile (· == c)).length c := by
    rw [List.eq_replicate_iff]
    refine ⟨List.length_reverse, ?_⟩
    intro d hd
    simpa using List.mem_takeWhile_imp (List.mem_reverse.mp hd)
  rw [← htrailing, dropTrailing, ← List.reverse_append, List.takeWhile_append_dropWhile, List.reverse_reverse]

end Text

namespace Http

open Text (dropTrailing)

def endsAuthority (c : Char) : Bool := c == '/' || c == '?' || c == '#'

def authority (s : List Char) : List Char := s.takeWhile fun c => !endsAuthority c

structure LeadsTo (text : String) (host : List Char) : Prop where
  nonempty : host ≠ []
  secure : ∃ rest, text.toList = secureScheme.toList ++ rest ∧ authority rest = host

theorem authority_append {s t : List Char} (h : ∀ c ∈ t.head?, endsAuthority c) :
    authority (s ++ t) = authority s := by
  induction s with
  | nil =>
    cases t with
    | nil => rfl
    | cons c t => simp [authority, h c rfl]
  | cons c s ih =>
    simp only [authority, List.cons_append, List.takeWhile_cons]
    split
    · exact congrArg (c :: ·) ih
    · rfl

theorem authority_dropTrailing (s path : List Char) : authority (dropTrailing '/' s ++ '/' :: path) = authority s := by
  obtain ⟨n, hn⟩ := Text.exists_trailing '/' s
  have hpath : ∀ c ∈ ('/' :: path).head?, endsAuthority c := by
    rintro c ⟨⟩
    rfl
  have hslashes : ∀ c ∈ (List.replicate n '/').head?, endsAuthority c := by
    intro c hc
    obtain ⟨-, rfl⟩ := List.mem_replicate.mp (List.mem_of_mem_head? hc)
    rfl
  conv_rhs => rw [hn]
  rw [authority_append hpath, authority_append hslashes]

theorem leadsTo_iff (rest : List Char) {c : Char} (hc : c ≠ '/') (path host : List Char) :
    LeadsTo (String.ofList (dropTrailing '/' (secureScheme.toList ++ rest) ++ '/' :: c :: path)) host ↔
      host = authority rest ∧ host ≠ [] := by
  by_cases hrest : dropTrailing '/' rest = []
  · -- the slashes of the scheme are dropped too
    have hauthority : authority rest = [] := by
      rw [← authority_dropTrailing rest path, hrest]
      rfl
    have hscheme : dropTrailing '/' (secureScheme.toList ++ rest) = "https:".toList := by
      rw [Text.dropTrailing_append, if_pos hrest]
      decide
    constructor
    · rintro ⟨-, suffix, htext, -⟩
      rw [hscheme, String.toList_ofList] at htext
      obtain ⟨hslash, -⟩ : c = '/' ∧ path = suffix := by simpa [secureScheme] using htext
      exact absurd hslash hc
    · rintro ⟨rfl, hne⟩
      exact absurd hauthority hne
  · have hbase : dropTrailing '/' (secureScheme.toList ++ rest) = secureScheme.toList ++ dropTrailing '/' rest := by
      rw [Text.dropTrailing_append, if_neg hrest]
    rw [hbase, List.append_assoc]
    constructor
    · rintro ⟨hne, suffix, htext, rfl⟩
      rw [String.toList_ofList] at htext
      rw [← List.append_cancel_left htext, authority_dropTrailing]
      exact ⟨rfl, by rwa [← List.append_cancel_left htext, authority_dropTrailing] at hne⟩
    · rintro ⟨rfl, hne⟩
      exact ⟨hne, _, String.toList_ofList, authority_dropTrailing rest (c :: path)⟩

end Http

namespace Binding

open Http (address authority LeadsTo baseText publicBase)

def host (b : Binding) : List Char :=
  match b.endpoint with
  | some e => authority (e.toList.drop secureScheme.toList.length)
  | none => "api.openai.com".toList

theorem exists_base {b : Binding} (h : b.Sound) :
    ∃ rest, (b.endpoint.getD publicBase).toList = secureScheme.toList ++ rest ∧ authority rest = b.host := by
  cases hendpoint : b.endpoint with
  | none => exact ⟨"api.openai.com/v1".toList, by decide, by simp only [host, hendpoint]; decide⟩
  | some e =>
    obtain ⟨rest, hrest⟩ := h.secure e hendpoint
    refine ⟨rest, hrest.symm, ?_⟩
    simp only [host, hendpoint, ← hrest, List.drop_left]

theorem exists_address {b : Binding} (h : b.Sound) (body : RequestBody) :
    ∃ c path, c ≠ '/' ∧ address ⟨b.route, b.connection, body⟩ =
      .ok (String.ofList (Text.dropTrailing '/' (b.endpoint.getD publicBase).toList ++ '/' :: c :: path)) := by
  cases hazure : b.dialect.isAzure with
  | false =>
    have hroute : b.route = .model b.modelId := by simp [route, hazure]
    refine ⟨'c', "hat/completions".toList, by decide, ?_⟩
    rw [hroute]
    simp only [address, connection, baseText, Except.ok.injEq, ← String.toList_inj, String.toList_append,
      String.toList_ofList]
    rfl
  | true =>
    have hroute : b.route = .deployment b.modelId := by simp [route, hazure]
    obtain ⟨e, he⟩ := Option.isSome_iff_exists.mp (h.endpoint_of_isAzure hazure)
    refine ⟨'o', "penai/deployments/".toList ++ b.modelId.toList ++ "/chat/completions?api-version=".toList ++
      (b.apiVersion.getD defaultApiVersion).toList, by decide, ?_⟩
    rw [hroute]
    simp only [address, connection, baseText, he, Option.getD_some, Except.ok.injEq, ← String.toList_inj,
      String.toList_append, String.toList_ofList, List.append_assoc]
    rfl

def greeting (b : Binding) : ChatRequest :=
  ⟨b.route, b.connection, .make [⟨.user, "Hello"⟩] .default false none⟩

theorem make?_greeting (b : Binding) :
    ChatRequest.make? b [⟨.user, "Hello"⟩] .default false = .ok (greeting b) := by
  have hcheck : checkCall [⟨.user, "Hello"⟩] .default = .ok () := by decide +kernel
  rw [ChatRequest.make?, hcheck]
  rfl

theorem address_leads_to_host {origin : Origin} {b : Binding} (hmake : origin.make = .ok b) {messages : List Message}
    {settings : ChatSettings} {streamed : Bool} {r : ChatRequest}
    (hrequest : ChatRequest.make? b messages settings streamed = .ok r) :
    ∃ text, address r = .ok text ∧ ∀ host, LeadsTo text host ↔ host = b.host ∧ host ≠ [] := by
  have hsound := Origin.sound_of_make hmake
  obtain ⟨-, -, hr⟩ := bind_eq_ok hrequest
  cases hr
  obtain ⟨c, path, hc, haddress⟩ := exists_address hsound (.make messages settings streamed _)
  obtain ⟨rest, hbase, hhost⟩ := exists_base hsound
  refine ⟨_, haddress, fun host => ?_⟩
  rw [hbase, Http.leadsTo_iff rest hc, hhost]

theorem padded_endpoint_leads_to_host :
    ∃ b text, (Origin.azure "dep" " https://me.example/x// " "key" none false).make = .ok b ∧
      address (greeting b) = .ok text ∧ LeadsTo text "me.example".toList := by
  have hmake : (Origin.azure "dep" " https://me.example/x// " "key" none false).make =
      .ok (deployed "dep" "https://me.example/x//" "key" none false) := by decide +kernel
  obtain ⟨text, haddress, hleads⟩ := address_leads_to_host hmake (make?_greeting _)
  exact ⟨_, text, hmake, haddress, (hleads _).mpr (by decide +kernel)⟩

theorem scheme_alone_leads_nowhere :
    ∃ b, (Origin.azure "dep" "https://" "key" none false).make = .ok b ∧
      address (greeting b) = .ok "https:/openai/deployments/dep/chat/completions?api-version=2022-12-01" ∧
      ¬∃ text host, address (greeting b) = .ok text ∧ LeadsTo text host := by
  have hmake : (Origin.azure "dep" "https://" "key" none false).make =
      .ok (deployed "dep" "https://" "key" none false) := by decide +kernel
  have haddress : address (greeting (deployed "dep" "https://" "key" none false)) =
      .ok "https:/openai/deployments/dep/chat/completions?api-version=2022-12-01" := by decide +kernel
  refine ⟨_, hmake, haddress, ?_⟩
  rintro ⟨text, host, htext, -, rest, hrest, -⟩
  rw [haddress] at htext
  cases htext
  simp [secureScheme] at hrest

end Binding

end ChatGateway
