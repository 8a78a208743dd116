import ChatGateway.Proofs.Backend.Moves
import Mathlib.Data.List.Induction

namespace ChatGateway.Backend

def received (i : Nat) (ds : List Delivery) : List Answer :=
  (ds.filter fun d => d.job = i).map Delivery.answer

theorem received_append (i : Nat) (ds ds' : List Delivery) :
    received i (ds ++ ds') = received i ds ++ received i ds' := by
  simp [received]

def Event.command? : Event → Option Command
  | .submit command => some command
  | _ => none

def Job.HungUp (j : Job) : Prop := j.attached = true ∧ j.sent = [] ∧ j.isDone = true

namespace State

def takes (s : State) : Event → List Nat
  | .move (.take channel) => (s.jobs.findIdx? fun j => j.isQueued && j.command.channel == channel).toList
  | _ => []

def sends (s : State) : Event → List Nat
  | .move (.begin i) =>
    match s.jobs[i]?.map (Job.request? s.service.binding) with
    | some (.ok _) => [i]
    | _ => []
  | _ => []

def logged (log : State → Event → List Nat) (s : State) : List Event → List Nat
  | [] => []
  | e :: es =>
    match s.happen e with
    | some (_, t) => log s e ++ logged log t es
    | none => []

def taken (s : State) (es : List Event) : List Nat := s.logged takes es

def sent (s : State) (es : List Event) : List Nat := s.logged sends es

variable {s t u : State} {e : Event} {es : List Event} {ds ds' : List Delivery}

theorem history_cons :
    s.history (e :: es) = some (ds, u) ↔
      ∃ ds₁ t ds₂, s.happen e = some (ds₁, t) ∧ t.history es = some (ds₂, u) ∧ ds = ds₁ ++ ds₂ := by
  simp only [history, Option.bind_eq_bind, Option.bind_eq_some_iff, Prod.exists, Option.pure_def, Option.some.injEq,
    Prod.mk.injEq]
  constructor
  · rintro ⟨ds₁, t, he, ds₂, u, hes, rfl, rfl⟩
    exact ⟨ds₁, t, ds₂, he, hes, rfl⟩
  · rintro ⟨ds₁, t, ds₂, he, hes, rfl⟩
    exact ⟨ds₁, t, he, ds₂, u, hes, rfl, rfl⟩

theorem history_concat :
    s.history (es ++ [e]) = some (ds, u) ↔
      ∃ ds₁ t ds₂, s.history es = some (ds₁, t) ∧ t.happen e = some (ds₂, u) ∧ ds = ds₁ ++ ds₂ := by
  induction es generalizing s ds with
  | nil =>
    rw [List.nil_append, history_cons]
    simp only [history, Option.some.injEq, Prod.mk.injEq]
    constructor
    · rintro ⟨ds₁, t, ds₂, he, ⟨rfl, rfl⟩, rfl⟩
      exact ⟨[], s, ds₁, ⟨rfl, rfl⟩, he, by simp⟩
    · rintro ⟨ds₁, t, ds₂, ⟨rfl, rfl⟩, he, rfl⟩
      exact ⟨_, u, [], he, ⟨rfl, rfl⟩, by simp⟩
  | cons e' es ih =>
    simp only [List.cons_append, history_cons, ih]
    constructor
    · rintro ⟨ds₁, t, ds₂, he', ⟨ds₃, t', ds₄, hes, he, rfl⟩, rfl⟩
      exact ⟨ds₁ ++ ds₃, t', ds₄, ⟨ds₁, t, ds₃, he', hes, rfl⟩, he, by simp⟩
    · rintro ⟨ds₁, t, ds₂, ⟨ds₃, t', ds₄, he', hes, rfl⟩, he, rfl⟩
      exact ⟨ds₃, t', ds₄ ++ ds₂, he', ⟨ds₄, t, ds₂, hes, he, rfl⟩, by simp⟩

theorem logged_concat {log : State → Event → List Nat} (h : s.history es = some (ds, t))
    (he : t.happen e = some (ds', u)) : s.logged log (es ++ [e]) = s.logged log es ++ log t e := by
  induction es generalizing s ds with
  | nil =>
    obtain ⟨rfl, rfl⟩ := Prod.mk.inj (Option.some.inj h)
    simp [logged, he]
  | cons e' es ih =>
    obtain ⟨ds₁, t₁, ds₂, he', hes, rfl⟩ := history_cons.mp h
    simp [logged, he', ih hes]

theorem map_command_set {jobs : List Job} {i : Nat} {j j' : Job} (hj : jobs[i]? = some j)
    (h : j'.command = j.command) : (jobs.set i j').map Job.command = jobs.map Job.command := by
  refine List.ext_getElem? fun k => ?_
  have hi := (List.getElem?_eq_some_iff.mp hj).1
  rw [List.getElem?_map, List.getElem?_map]
  by_cases hne : i = k
  · subst hne
    rw [List.getElem?_set_self hi, hj, Option.map_some, Option.map_some, h]
  · rw [List.getElem?_set_ne hne]

theorem map_command_happen (h : s.happen e = some (ds, t)) :
    t.jobs.map Job.command = s.jobs.map Job.command ++ e.command?.toList := by
  cases s.happens h with
  | take _ _ hj => exact (map_command_set hj (by rfl)).trans (List.append_nil _).symm
  | task hj step => exact (map_command_set hj step.command_eq).trans (List.append_nil _).symm
  | receive hj => exact (map_command_set hj (by rfl)).trans (List.append_nil _).symm
  | shutDown =>
    have hsame : (Job.command ∘ fun j : Job => if j.isQueued then j.moved .lost else j) = Job.command := by
      funext j
      simp only [Function.comp_apply]
      split <;> rfl
    simp [Event.command?, hsame]
  | submit => simp [Event.command?]
  | @detach i =>
    refine List.ext_getElem? fun k => ?_
    simp only [detach, Event.command?, Option.toList_none, List.append_nil, List.getElem?_map, List.getElem?_modify]
    by_cases hne : i = k <;> cases s.jobs[k]? <;> simp [hne]
  | _ => simp [Event.command?, dropHandle]

theorem history_induction {P : List Event → List Delivery → State → Prop} (start : P [] [] s)
    (step : ∀ es ds t e ds' u, s.history es = some (ds, t) → t.happen e = some (ds', u) → P es ds t →
      P (es ++ [e]) (ds ++ ds') u)
    (h : s.history es = some (ds, t)) : P es ds t := by
  induction es using List.reverseRecOn generalizing ds t with
  | nil =>
    obtain ⟨rfl, rfl⟩ := Prod.mk.inj (Option.some.inj h)
    exact start
  | append_singleton es e ih =>
    obtain ⟨ds₁, t₁, ds₂, hes, he, rfl⟩ := history_concat.mp h
    exact step _ _ _ _ _ _ hes he (ih hes)

end State

namespace TaskStep

variable {s : State} {j j' : Job} {act : Nat → Move} {now : Service}

theorem takes_eq (h : TaskStep s.service j act now j') (i : Nat) : s.takes (.move (act i)) = [] := by
  cases h <;> rfl

theorem sends_eq (h : TaskStep s.service j act now j') {i : Nat} (hj : s.jobs[i]? = some j) :
    s.sends (.move (act i)) = [] ∧ now.requests = s.service.requests ∨
      s.sends (.move (act i)) = [i] ∧ ∃ request, j.stage = .taken ∧ j.request? s.service.binding = .ok request ∧
        now.requests = s.service.requests ++ [request] ∧
        j' = j.moved (.calling (s.service.provider s.service.requests.length request)) := by
  cases h with
  | request taken made => exact .inr ⟨by simp [State.sends, hj, made], _, taken, made, rfl, rfl⟩
  | refuseStream _ made => exact .inl ⟨by simp [State.sends, hj, made], rfl⟩
  | refuse _ made => exact .inl ⟨by simp [State.sends, hj, made], rfl⟩
  | conclude _ _ concluded => exact .inl ⟨rfl, (Service.conclude_frame concluded).2.2.1⟩
  | _ => exact .inl ⟨rfl, rfl⟩

end TaskStep

end ChatGateway.Backend
