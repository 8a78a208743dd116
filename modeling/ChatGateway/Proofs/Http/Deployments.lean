import ChatGateway.Proofs.Http.Dialects
import Mathlib.Data.List.Infix

namespace ChatGateway

namespace Text

def Unbordered (s : List Char) : Prop := ∀ t, t <+: s → t <:+ s → t = [] ∨ t = s

theorem Unbordered.overlap {s a v v' : List Char} (h : Unbordered s) (heq : s ++ v = a ++ (s ++ v')) :
    a = [] ∨ ∃ rest, a = s ++ rest ∧ v = rest ++ (s ++ v') := by
  rcases List.append_eq_append_iff.mp heq with ⟨rest, ha, hv⟩ | ⟨t, hs, ht⟩
  · exact .inr ⟨rest, ha, hv⟩
  · -- `t` is what the two places of `s` have in common
    have hlength : t.length ≤ s.length := by
      rw [hs, List.length_append]
      omega
    have hbeginning : t <+: s := List.prefix_of_prefix_length_le ⟨v, ht.symm⟩ (List.prefix_append s v') hlength
    rcases h t hbeginning ⟨a, hs.symm⟩ with rfl | rfl
    · refine .inr ⟨[], ?_, ?_⟩
      · simpa using hs.symm
      · simpa using ht.symm
    · exact .inl (by simpa using hs)

theorem Unbordered.append_eq_iff {s : List Char} (h : Unbordered s) (d d' v v' : List Char) :
    d ++ (s ++ v) = d' ++ (s ++ v') ↔
      (d = d' ∧ v = v') ∨ (∃ rest, d = d' ++ (s ++ rest) ∧ v' = rest ++ (s ++ v)) ∨
        ∃ rest, d' = d ++ (s ++ rest) ∧ v = rest ++ (s ++ v') := by
  constructor
  · intro heq
    rcases List.append_eq_append_iff.mp heq with ⟨a, rfl, hv⟩ | ⟨a, rfl, hv⟩
    · rcases h.overlap hv with rfl | ⟨rest, rfl, hrest⟩
      · exact .inl ⟨by simp, List.append_cancel_left hv⟩
      · exact .inr (.inr ⟨rest, rfl, hrest⟩)
    · rcases h.overlap hv with rfl | ⟨rest, rfl, hrest⟩
      · exact .inl ⟨by simp, (List.append_cancel_left hv).symm⟩
      · exact .inr (.inl ⟨rest, rfl, hrest⟩)
  · rintro (⟨rfl, rfl⟩ | ⟨rest, rfl, rfl⟩ | ⟨rest, rfl, rfl⟩)
    · rfl
    · simp
    · simp

end Text

namespace Http

def versionMark : String := "/chat/completions?api-version="

def deploymentAddress (base name version : String) : String :=
  base ++ "/openai/deployments/" ++ name ++ versionMark ++ version

theorem unbordered_versionMark : Text.Unbordered versionMark.toList := by
  have hall : ∀ t ∈ versionMark.toList.inits, t <:+ versionMark.toList → t = [] ∨ t = versionMark.toList := by
    decide +kernel
  intro t hbeginning
  exact hall t ((List.mem_inits t _).mpr hbeginning)

theorem deploymentAddress_eq_iff (base name name' version version' : String) :
    deploymentAddress base name version = deploymentAddress base name' version' ↔
      (name = name' ∧ version = version') ∨
        (∃ rest, name = name' ++ versionMark ++ rest ∧ version' = rest ++ versionMark ++ version) ∨
          ∃ rest, name' = name ++ versionMark ++ rest ∧ version = rest ++ versionMark ++ version' := by
  have hrest (s t u v : String) :
      (∃ rest, s = t ++ versionMark ++ rest ∧ u = rest ++ versionMark ++ v) ↔
        ∃ rest, s.toList = t.toList ++ (versionMark.toList ++ rest) ∧
          u.toList = rest ++ (versionMark.toList ++ v.toList) := by
    constructor
    · rintro ⟨rest, rfl, rfl⟩
      exact ⟨rest.toList, by simp, by simp⟩
    · rintro ⟨rest, hs, hu⟩
      refine ⟨String.ofList rest, ?_, ?_⟩
      · simp [← String.toList_inj, hs]
      · simp [← String.toList_inj, hu]
  calc
    deploymentAddress base name version = deploymentAddress base name' version'
    _ ↔ name.toList ++ (versionMark.toList ++ version.toList) =
          name'.toList ++ (versionMark.toList ++ version'.toList) := by
      rw [← String.toList_inj]
      simp only [deploymentAddress, String.toList_append, List.append_assoc, List.append_cancel_left_eq]
    _ ↔ _ := unbordered_versionMark.append_eq_iff _ _ _ _
    _ ↔ _ := by rw [hrest, hrest, String.toList_inj, String.toList_inj]

end Http

namespace Binding

open Http (address baseText BareBase deploymentAddress versionMark)

def version (b : Binding) : String := b.apiVersion.getD "2022-12-01"

/-- The address is whole, its path leads to the deployment of the binding as one segment, and its query gives the
version of the binding and nothing else. -/
structure Designated (b : Binding) (text : String) : Prop where
  whole : '#' ∉ text.toList
  path : ∃ endpoint base, b.endpoint = some endpoint ∧ BareBase endpoint base ∧
    text.toList.takeWhile (· != '?') = (base ++ "/openai/deployments/" ++ b.modelId ++ "/chat/completions").toList
  segment : '/' ∉ b.modelId.toList
  query : text.toList.dropWhile (· != '?') = ("?api-version=" ++ b.version).toList
  pair : '&' ∉ b.version.toList

structure Confined (b : Binding) : Prop where
  modelId : '/' ∉ b.modelId.toList ∧ '?' ∉ b.modelId.toList ∧ '#' ∉ b.modelId.toList
  version : '&' ∉ b.version.toList ∧ '#' ∉ b.version.toList

/-- The name of one binding goes on after the name of the other as an address does, up to where the version of the
other goes on. -/
def Overruns (b b' : Binding) : Prop :=
  ∃ rest, b.modelId = b'.modelId ++ versionMark ++ rest ∧ b'.version = rest ++ versionMark ++ b.version

theorem Confined.not_overruns {b : Binding} (h : b.Confined) (b' : Binding) : ¬b.Overruns b' := by
  rintro ⟨rest, hname, -⟩
  apply h.modelId.2.1
  rw [hname]
  simp [versionMark]

theorem address_of_isAzure {b : Binding} (hazure : b.dialect.isAzure) {e : String} (he : b.endpoint = some e)
    {messages : List Message} {settings : ChatSettings} {streamed : Bool} {r : ChatRequest}
    (hrequest : ChatRequest.make? b messages settings streamed = .ok r) :
    address r = .ok (deploymentAddress (baseText e) b.modelId b.version) := by
  obtain ⟨-, -, hr⟩ := bind_eq_ok hrequest
  cases hr
  have hroute : b.route = .deployment b.modelId := by simp [route, hazure]
  have hmark : "/chat/completions?api-version=" = versionMark := rfl
  simp only [address, hroute, connection, he, hmark]
  rfl

theorem takeWhile_dropWhile_address {base name : String} (hbase : '?' ∉ base.toList) (hname : '?' ∉ name.toList)
    (version : String) :
    (deploymentAddress base name version).toList.takeWhile (· != '?') =
        (base ++ "/openai/deployments/" ++ name ++ "/chat/completions").toList ∧
      (deploymentAddress base name version).toList.dropWhile (· != '?') = ("?api-version=" ++ version).toList := by
  have hsplit : (deploymentAddress base name version).toList =
      (base ++ "/openai/deployments/" ++ name ++ "/chat/completions").toList ++ ("?api-version=" ++ version).toList := by
    simp [deploymentAddress, versionMark]
  have hpath : ∀ c ∈ (base ++ "/openai/deployments/" ++ name ++ "/chat/completions").toList, (c != '?') = true := by
    intro c hc
    rw [bne_iff_ne]
    rintro rfl
    simp [hbase, hname] at hc
  have hquery : ("?api-version=" ++ version).toList = '?' :: ("api-version=" ++ version).toList := by simp
  rw [hsplit, List.takeWhile_append_of_pos hpath, List.dropWhile_append_of_pos hpath, hquery,
    List.takeWhile_cons_of_neg (by simp), List.dropWhile_cons_of_neg (by simp), List.append_nil]
  exact ⟨rfl, rfl⟩

theorem Designated.mark_not_mem {b : Binding} {text : String} (h : b.Designated text) : '?' ∉ b.modelId.toList := by
  intro hmem
  obtain ⟨endpoint, base, -, -, hpath⟩ := h.path
  have hin : '?' ∈ text.toList.takeWhile (· != '?') := by
    rw [hpath]
    simp [hmem]
  simpa using List.mem_takeWhile_imp hin

theorem designated_iff {b : Binding} {e : String} (he : b.endpoint = some e) (hquery : '?' ∉ e.toList)
    (hfragment : '#' ∉ e.toList) :
    b.Designated (deploymentAddress (baseText e) b.modelId b.version) ↔ b.Confined := by
  have hbare := Http.bareBase_baseText e
  have hbase : ∀ c, c ∉ e.toList → c ∉ (baseText e).toList := by
    obtain ⟨n, hn⟩ := hbare.slashes
    intro c hc hmem
    rw [hn] at hc
    exact hc (List.mem_append_left _ hmem)
  have hwhole : '#' ∉ (deploymentAddress (baseText e) b.modelId b.version).toList ↔
      '#' ∉ b.modelId.toList ∧ '#' ∉ b.version.toList := by
    simp [deploymentAddress, versionMark, hbase '#' hfragment]
  constructor
  · intro h
    obtain ⟨hname, hversion⟩ := hwhole.mp h.whole
    exact ⟨⟨h.segment, h.mark_not_mem, hname⟩, h.pair, hversion⟩
  · rintro ⟨⟨hsegment, hmark, hname⟩, hpair, hversion⟩
    obtain ⟨hpath, hrest⟩ := takeWhile_dropWhile_address (hbase '?' hquery) hmark b.version
    exact
      { whole := hwhole.mpr ⟨hname, hversion⟩
        path := ⟨e, baseText e, he, hbare, hpath⟩
        segment := hsegment
        query := hrest
        pair := hpair }

/-- The address of a call designates the deployment and the version of its binding just if these are confined to
their places. Two bindings with one endpoint share an address only if they have both in common, or if the name of one
overruns the other, which no confined name does. -/
theorem designated_iff_confined {origin : Origin} {b : Binding} (hmake : origin.make = .ok b)
    (hazure : b.dialect.isAzure) (hplain : ∀ e ∈ b.endpoint, '?' ∉ e.toList ∧ '#' ∉ e.toList) {messages : List Message}
    {settings : ChatSettings} {streamed : Bool} {r : ChatRequest}
    (hrequest : ChatRequest.make? b messages settings streamed = .ok r) :
    ∃ text, address r = .ok text ∧ (b.Designated text ↔ b.Confined) ∧
      ∀ (b' : Binding) (messages' : List Message) (settings' : ChatSettings) (streamed' : Bool) (r' : ChatRequest),
        b'.dialect.isAzure → b'.endpoint = b.endpoint →
        ChatRequest.make? b' messages' settings' streamed' = .ok r' →
          (address r' = .ok text ↔ (b'.modelId = b.modelId ∧ b'.version = b.version) ∨ b'.Overruns b ∨ b.Overruns b') ∧
          (b.Confined → b'.Confined → address r' = .ok text → b'.modelId = b.modelId ∧ b'.version = b.version) := by
  obtain ⟨e, he⟩ := Option.isSome_iff_exists.mp ((Origin.sound_of_make hmake).endpoint_of_isAzure hazure)
  obtain ⟨hquery, hfragment⟩ := hplain e he
  refine ⟨_, address_of_isAzure hazure he hrequest, designated_iff he hquery hfragment, ?_⟩
  intro b' messages' settings' streamed' r' hazure' hendpoint hrequest'
  have hshared : address r' = .ok (deploymentAddress (baseText e) b.modelId b.version) ↔
      (b'.modelId = b.modelId ∧ b'.version = b.version) ∨ b'.Overruns b ∨ b.Overruns b' := by
    rw [address_of_isAzure hazure' (hendpoint.trans he) hrequest', Except.ok.injEq]
    exact Http.deploymentAddress_eq_iff _ _ _ _ _
  refine ⟨hshared, ?_⟩
  intro hconfined hconfined' haddress
  rcases hshared.mp haddress with hsame | hoverruns | hoverruns
  · exact hsame
  · exact absurd hoverruns (hconfined'.not_overruns b)
  · exact absurd hoverruns (hconfined.not_overruns b')

theorem spaced_name_designated :
    let b := deployed "de p%" "https://me.example/x//" "key" (some "v=1?+") true
    let b' := deployed "de p" "https://me.example/x//" "key" (some "v=1?+") true
    (Origin.azure " de p%" " https://me.example/x// " "key" (some "v=1?+") true).make = .ok b ∧
      ∃ text, address (greeting b) = .ok text ∧ b.Designated text ∧ address (greeting b') ≠ .ok text := by
  intro b b'
  have hmake : (Origin.azure " de p%" " https://me.example/x// " "key" (some "v=1?+") true).make = .ok b := by
    decide +kernel
  have hplain : ∀ e ∈ b.endpoint, '?' ∉ e.toList ∧ '#' ∉ e.toList := by
    rintro e ⟨⟩
    decide
  have hconfined : b.Confined := ⟨by decide, by decide⟩
  have hconfined' : b'.Confined := ⟨by decide, by decide⟩
  obtain ⟨text, haddress, hdesignated, hothers⟩ := designated_iff_confined hmake rfl hplain (make?_greeting b)
  obtain ⟨-, hsame⟩ := hothers b' _ _ _ _ rfl rfl (make?_greeting b')
  refine ⟨hmake, text, haddress, hdesignated.mpr hconfined, ?_⟩
  intro hshared
  have hname : "de p" = "de p%" := (hsame hconfined hconfined' hshared).1
  exact absurd hname (by decide)

theorem marked_name_shares_address :
    let b := deployed "a/chat/completions?api-version=b" "https://me.example" "key" (some "c") false
    let b' := deployed "a" "https://me.example" "key" (some "b/chat/completions?api-version=c") false
    (Origin.azure "a/chat/completions?api-version=b" "https://me.example" "key" (some "c") false).make = .ok b ∧
      (Origin.azure "a" "https://me.example" "key" (some "b/chat/completions?api-version=c") false).make = .ok b' ∧
      ∃ text, address (greeting b) = .ok text ∧ address (greeting b') = .ok text ∧ ¬b.Designated text ∧
        b.modelId ≠ b'.modelId ∧ b.version ≠ b'.version := by
  intro b b'
  refine ⟨by decide +kernel, by decide +kernel, _, rfl, by decide +kernel, ?_, by decide, by decide⟩
  intro h
  exact h.segment (by decide)

end Binding

end ChatGateway
