import ChatGateway.Proofs.Binding.Reading
import ChatGateway.Proofs.Json.Values
import ChatGateway.Proofs.Service.Requests

namespace ChatGateway

open Json (Reader Record Document)

namespace Candidate

def said (c : Candidate) : String := c.content.getD ""

abbrev Ascending (cs : List Candidate) : Prop := cs.Pairwise fun c d => c.index ≤ d.index

structure Ranked (given ranked : List Candidate) : Prop where
  perm : ranked.Perm given
  ascending : Ascending ranked
  steady : ∀ i : UInt64, ranked.filter (·.index = i) = given.filter (·.index = i)

theorem ranked_mergeSort (given : List Candidate) : Ranked given (given.mergeSort fun c d => c.index ≤ d.index) := by
  have htrans : ∀ c d e : Candidate, decide (c.index ≤ d.index) = true → decide (d.index ≤ e.index) = true →
      decide (c.index ≤ e.index) = true := by
    intro c d e hcd hde
    exact decide_eq_true (UInt64.le_trans (of_decide_eq_true hcd) (of_decide_eq_true hde))
  have htotal : ∀ c d : Candidate, (decide (c.index ≤ d.index) || decide (d.index ≤ c.index)) = true := by
    intro c d
    simpa using UInt64.le_total c.index d.index
  have hperm := List.mergeSort_perm given fun c d => c.index ≤ d.index
  refine ⟨hperm, ?_, ?_⟩
  · exact (List.pairwise_mergeSort htrans htotal given).imp of_decide_eq_true
  · intro i
    -- the candidates of one index are in order already, so that sorting keeps them as they stand
    have hsorted : (given.filter (·.index = i)).Pairwise fun c d => decide (c.index ≤ d.index) = true := by
      apply List.pairwise_of_forall_mem_list
      intro c hc d hd
      have hcd : c.index = d.index :=
        (of_decide_eq_true (List.mem_filter.mp hc).2).trans (of_decide_eq_true (List.mem_filter.mp hd).2).symm
      exact decide_eq_true (hcd ▸ UInt64.le_refl _)
    have hkept := (List.sublist_mergeSort htrans htotal hsorted List.filter_sublist).filter (·.index = i)
    simp only [List.filter_filter, Bool.and_self] at hkept
    exact (hkept.eq_of_length (hperm.filter _).length_eq.symm).symm

theorem eq_of_steady {cs ds : List Candidate} (hcs : Ascending cs) (hds : Ascending ds) (hperm : cs.Perm ds)
    (hsteady : ∀ i : UInt64, cs.filter (·.index = i) = ds.filter (·.index = i)) : cs = ds := by
  induction cs generalizing ds with
  | nil => exact hperm.nil_eq
  | cons c cs ih =>
    cases ds with
    | nil => exact absurd hperm.symm.nil_eq (by simp)
    | cons d ds =>
      obtain ⟨hc, hcs'⟩ := List.pairwise_cons.mp hcs
      obtain ⟨hd, hds'⟩ := List.pairwise_cons.mp hds
      have hindex : c.index = d.index := by
        apply UInt64.le_antisymm
        · rcases List.mem_cons.mp (hperm.mem_iff.mpr List.mem_cons_self) with rfl | hmem
          · exact UInt64.le_refl _
          · exact hc d hmem
        · rcases List.mem_cons.mp (hperm.mem_iff.mp List.mem_cons_self) with rfl | hmem
          · exact UInt64.le_refl _
          · exact hd c hmem
      -- the first candidate of the least index is the same on both sides
      obtain rfl : c = d := by
        have hfirst := hsteady d.index
        simp only [List.filter_cons, hindex, decide_true, if_true] at hfirst
        exact (List.cons.inj hfirst).1
      have hrest : ∀ i : UInt64, cs.filter (·.index = i) = ds.filter (·.index = i) := by
        intro i
        have hi := hsteady i
        simp only [List.filter_cons] at hi
        split at hi
        · exact (List.cons.inj hi).2
        · exact hi
      rw [ih hcs' hds' hperm.cons_inv hrest]

theorem Ranked.unique {given cs ds : List Candidate} (hcs : Ranked given cs) (hds : Ranked given ds) : cs = ds :=
  eq_of_steady hcs.ascending hds.ascending (hcs.perm.trans hds.perm.symm) fun i =>
    (hcs.steady i).trans (hds.steady i).symm

theorem length_filter_index_le {cs : List Candidate} (h : (cs.map (·.index)).Nodup) (i : UInt64) :
    (cs.filter (·.index = i)).length ≤ 1 := by
  have hnodup : ((cs.filter (·.index = i)).map (·.index)).Nodup := h.sublist (List.filter_sublist.map _)
  have hall : ∀ n ∈ (cs.filter (·.index = i)).map (·.index), n = i := by
    intro n hn
    obtain ⟨c, hc, rfl⟩ := List.mem_map.mp hn
    exact of_decide_eq_true (List.mem_filter.mp hc).2
  rw [List.eq_replicate_of_mem hall, List.nodup_replicate] at hnodup
  simpa using hnodup

theorem Ranked.of_perm {given given' ranked : List Candidate} (h : Ranked given ranked) (hperm : given'.Perm given)
    (hdistinct : (given.map (·.index)).Nodup) : Ranked given' ranked where
  perm := h.perm.trans hperm.symm
  ascending := h.ascending
  steady := by
    intro i
    rw [h.steady i]
    have hsame := hperm.symm.filter (·.index = i)
    have hshort := length_filter_index_le hdistinct i
    generalize given.filter (·.index = i) = here at hsame hshort
    rcases here with _ | ⟨c, _ | ⟨d, rest⟩⟩
    · exact hsame.nil_eq
    · exact (List.perm_singleton.mp hsame.symm).symm
    · simp at hshort

/-- What a choice in the body of an answer says: without an index it is the candidate of index 0, and a content that is
null is none. -/
inductive Shown : Json → Candidate → Prop
  | choice {v message : Json} {found inner : List (String × Json)} {c : Candidate}
      (holds : Json.Holds ["index", "message", "finish_reason"] v found)
      (tells : found.lookup "message" = some message) (within : Json.Holds ["role", "content"] message inner)
      (index : (found.lookup "index").elim (c.index = 0) fun i => Reader.uint64 "usize" i = .ok c.index)
      (content : c.content = (inner.lookup "content").bind Json.text?) : Shown v c

theorem content_of_message {v : Json} {role content : Option String} (h : message v = .ok (role, content)) :
    ∃ inner, Json.Holds ["role", "content"] v inner ∧ content = (inner.lookup "content").bind Json.text? := by
  obtain ⟨inner, hholds, hbuild⟩ := Record.exists_holds h
  obtain ⟨f, content', hrole, hcontent, hpair⟩ := Record.build_seq hbuild
  obtain ⟨role', -, rfl⟩ := Record.build_map hrole
  obtain ⟨rfl, rfl⟩ := Prod.mk.inj hpair
  refine ⟨inner, hholds, ?_⟩
  rcases Record.build_field? hcontent with ⟨hnone, rfl⟩ | ⟨u, hu, hread⟩
  · rw [hnone]
    rfl
  · rw [hu]
    rcases Reader.optional_text_eq_ok_iff.mp hread with ⟨rfl, rfl⟩ | ⟨t, ht, rfl⟩
    · rfl
    · exact ht.symm

theorem shown_of_reader {v : Json} {c : Candidate} (h : reader v = .ok c) : Shown v c := by
  obtain ⟨found, hholds, hbuild⟩ := Record.exists_holds h
  obtain ⟨two, finish, htwo, -, rfl⟩ := Record.build_seq hbuild
  obtain ⟨one, ⟨role, content⟩, hone, hmessage, rfl⟩ := Record.build_seq htwo
  obtain ⟨index, hindex, rfl⟩ := Record.build_map hone
  obtain ⟨m, hm, hread⟩ := Record.build_field hmessage
  obtain ⟨inner, hinner, hcontent⟩ := content_of_message hread
  change Shown v ⟨index, role, content, finish⟩
  refine .choice hholds hm hinner ?_ hcontent
  rcases Record.build_fieldD hindex with ⟨hnone, rfl⟩ | ⟨i, hi, hread⟩
  · rw [hnone]
    rfl
  · rw [hi]
    exact hread

end Candidate

def Completion.texts : Completion → List String
  | .single text => [text]
  | .multiple texts => texts

structure Completion.Ranks (c : Completion) (cs : List Candidate) : Prop where
  single : (∃ text, c = .single text) ↔ cs.length = 1
  texts : ∃ ranked, Candidate.Ranked cs ranked ∧ c.texts = ranked.map Candidate.said

theorem Completion.eq_of_texts {c d : Completion} (htexts : c.texts = d.texts)
    (hsingle : (∃ text, c = .single text) ↔ ∃ text, d = .single text) : c = d := by
  cases c with
  | single s =>
    obtain ⟨t, rfl⟩ := hsingle.mp ⟨s, rfl⟩
    rw [(List.cons.inj htexts).1]
  | multiple ss =>
    cases d with
    | single t => exact absurd (hsingle.mpr ⟨t, rfl⟩) (by simp)
    | multiple ts => exact congrArg _ htexts

namespace Completion.Ranks

variable {c d : Completion} {cs ds : List Candidate}

theorem unique (hc : c.Ranks cs) (hd : d.Ranks cs) : c = d := by
  obtain ⟨ranked, hranked, hctexts⟩ := hc.texts
  obtain ⟨ranked', hranked', hdtexts⟩ := hd.texts
  obtain rfl := hranked.unique hranked'
  exact eq_of_texts (hctexts.trans hdtexts.symm) (hc.single.trans hd.single.symm)

theorem of_perm (hc : c.Ranks cs) (hperm : ds.Perm cs) (hdistinct : (cs.map (·.index)).Nodup) : c.Ranks ds where
  single := by rw [hperm.length_eq, hc.single]
  texts := by
    obtain ⟨ranked, hranked, htexts⟩ := hc.texts
    exact ⟨ranked, hranked.of_perm hperm hdistinct, htexts⟩

end Completion.Ranks

namespace Reply

theorem texts_completion (r : Reply) : r.completion.texts = r.texts := by
  unfold completion
  split
  next text htext => exact htext.symm
  next => rfl

theorem ranks_completion (r : Reply) : r.completion.Ranks r.candidates where
  single := by
    have hlength : r.texts.length = r.candidates.length := by simp [texts]
    rw [← hlength, List.length_eq_one_iff]
    unfold completion
    split
    next text htext => simp [htext]
    next hmany => simpa using hmany
  texts := by
    refine ⟨_, Candidate.ranked_mergeSort r.candidates, ?_⟩
    rw [texts_completion]
    rfl

def Shows (text : String) (cs : List Candidate) : Prop :=
  ∃ root found choices, Document.parse text = ⟨root, true⟩ ∧ Json.Holds ["choices", "usage"] root found ∧
    found.lookup "choices" = some (.array choices true) ∧ List.Forall₂ Candidate.Shown choices cs

theorem shows_of_ofText {text : String} {r : Reply} (h : reader.ofText text = .ok r) : Shows text r.candidates := by
  obtain ⟨root, hparse, hread⟩ := Reader.ofText_eq_ok_iff.mp h
  obtain ⟨found, hholds, hbuild⟩ := Record.exists_holds hread
  obtain ⟨one, usage, hone, -, rfl⟩ := Record.build_seq hbuild
  obtain ⟨cs, hchoices, rfl⟩ := Record.build_map hone
  obtain ⟨v, hv, hlist⟩ := Record.build_field hchoices
  obtain ⟨choices, rfl, hitems⟩ := Reader.exists_items_of_list hlist
  exact ⟨root, found, choices, hparse, hholds, hv,
    (Reader.forall₂_of_mapM hitems).imp fun _ _ hread => Candidate.shown_of_reader hread⟩

end Reply

namespace Service

/-- A call that is answered gives the contents of all candidates in the order of their indices, a single text just if
there is one candidate. Where no two indices are the same, the candidates may come in any order. -/
theorem complete_ranks_candidates {s : Service} {call : Call} {request : ChatRequest} {reply : Reply}
    (hrequest : ChatRequest.make? s.binding call.messages call.settings false = .ok request)
    (hreply : (s.provider s.requests.length request).reply? = some (.ok reply)) :
    (∃ completion : Completion, (s.complete call).1 = some (.ok completion) ∧ completion.Ranks reply.candidates ∧
      ∀ (s' : Service) (call' : Call) (request' : ChatRequest) (reply' : Reply),
        ChatRequest.make? s'.binding call'.messages call'.settings false = .ok request' →
        (s'.provider s'.requests.length request').reply? = some (.ok reply') →
        reply'.candidates.Perm reply.candidates → (reply.candidates.map (·.index)).Nodup →
        (s'.complete call').1 = some (.ok completion)) ∧
    ∀ text, Reply.reader.ofText text = .ok reply → Reply.Shows text reply.candidates := by
  refine ⟨⟨reply.completion, complete_of_reply hrequest hreply, reply.ranks_completion, ?_⟩, ?_⟩
  · intro s' call' request' reply' hrequest' hreply' hperm hdistinct
    rw [complete_of_reply hrequest' hreply',
      reply'.ranks_completion.unique (reply.ranks_completion.of_perm hperm hdistinct)]
  · intro text
    exact Reply.shows_of_ofText

def replying (reply : Reply) : Service where
  binding := ⟨"gpt-4", "key", .openAI, none, none, none⟩
  provider _ _ := .reply (.ok reply)

def greeting : Call := ⟨[⟨.user, "Hello"⟩], .default⟩

theorem unordered_candidates_ranked :
    let reply : Reply := ⟨[⟨18446744073709551615, none, some "c", none⟩, ⟨7, none, some "b", none⟩,
      ⟨0, none, none, some "stop"⟩], none⟩
    Reply.reader.ofText ("\x7b\"choices\":[" ++
        "\x7b\"index\":18446744073709551615,\"message\":\x7b\"content\":\"c\"\x7d\x7d," ++
        "\x7b\"message\":\x7b\"content\":\"b\"\x7d,\"index\":7\x7d," ++
        "\x7b\"message\":\x7b\"content\":null\x7d,\"finish_reason\":\"stop\"\x7d]\x7d") = .ok reply ∧
      ((replying reply).complete greeting).1 = some (.ok (.multiple ["", "b", "c"])) ∧
      ((replying ⟨reply.candidates.reverse, none⟩).complete greeting).1 = some (.ok (.multiple ["", "b", "c"])) := by
  intro reply
  have hcompletion : reply.completion = .multiple ["", "b", "c"] := by
    simp [reply, Reply.completion, Reply.texts, List.mergeSort, List.MergeSort.Internal.splitInTwo]
  have hrequest : ChatRequest.make? (replying reply).binding greeting.messages greeting.settings false =
      .ok ⟨(replying reply).binding.route, (replying reply).binding.connection,
        .make greeting.messages greeting.settings false none⟩ := rfl
  have hreply : ∀ n r, ((replying reply).provider n r).reply? = some (.ok reply) := fun _ _ => rfl
  obtain ⟨⟨completion, hcompleted, hranks, hothers⟩, -⟩ := complete_ranks_candidates hrequest (hreply _ _)
  obtain rfl : completion = .multiple ["", "b", "c"] :=
    (hranks.unique reply.ranks_completion).trans hcompletion
  refine ⟨by decide +kernel, hcompleted, ?_⟩
  exact hothers (replying ⟨reply.candidates.reverse, none⟩) greeting _ _ rfl rfl (List.reverse_perm _) (by decide)

example : (⟨[⟨1, none, some "b", none⟩, ⟨0, none, none, none⟩, ⟨1, none, some "a", none⟩], none⟩ : Reply).texts =
    ["", "b", "a"] := by
  cbv

end Service

end ChatGateway
