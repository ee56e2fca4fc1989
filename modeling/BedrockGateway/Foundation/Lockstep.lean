/-
# Two programs in lockstep

Two programs run in lockstep if they ask related questions and, given related
answers, go on in lockstep until both return, with related values. The relations
are parameters: what an observer may tell apart is related by equality, what has
to stay invisible by nothing at all. The rules are those of a relational program
logic, one for each way of composing programs.

A thread's own moments are its answered questions with the states around them.
Two runs of a machine that start a thread each in agreeing states then ask
related questions all along, provided that the parts of the world which are not
under the programs' control behave alike.
-/

import BedrockGateway.Foundation.Scheduler

namespace Foundation

universe u v w x

namespace Program

variable {Q : Type u} {A : Q → Type v} {α α' β β' ε : Type v}

/-- Related questions, related continuations under related answers, related values. -/
def Lockstep (Asked : Q → Q → Prop) (Told : Event A → Event A → Prop) (post : α → α' → Prop) :
    Program Q A α → Program Q A α' → Prop
  | .ret value, .ret value' => post value value'
  | .ask q resume, .ask q' resume' => Asked q q' ∧ ∀ answer answer',
      Told ⟨q, answer⟩ ⟨q', answer'⟩ → Lockstep Asked Told post (resume answer) (resume' answer')
  | .ret _, .ask _ _ => False
  | .ask _ _, .ret _ => False

variable {Asked : Q → Q → Prop} {Told : Event A → Event A → Prop}

theorem Lockstep.ret {post : α → α' → Prop} {value : α} {value' : α'} (h : post value value') :
    Lockstep Asked Told post (.ret value : Program Q A α) (.ret value') := h

theorem Lockstep.bind {mid : α → α' → Prop} {post : β → β' → Prop} {p : Program Q A α}
    {p' : Program Q A α'} {f : α → Program Q A β} {f' : α' → Program Q A β'}
    (hp : Lockstep Asked Told mid p p')
    (hf : ∀ value value', mid value value' → Lockstep Asked Told post (f value) (f' value')) :
    Lockstep Asked Told post (p.bind f) (p'.bind f') := by
  induction p generalizing p' with
  | ret value =>
      cases p' with
      | ret value' => exact hf value value' hp
      | ask q' resume' => exact hp.elim
  | ask q resume ih =>
      cases p' with
      | ret value' => exact hp.elim
      | ask q' resume' =>
          obtain ⟨hasked, hnext⟩ := hp
          exact ⟨hasked, fun answer answer' htold => ih answer (hnext answer answer' htold)⟩

theorem Lockstep.mono {post post' : α → α' → Prop} {p : Program Q A α} {p' : Program Q A α'}
    (hp : Lockstep Asked Told post p p') (himp : ∀ value value', post value value' →
      post' value value') : Lockstep Asked Told post' p p' := by
  induction p generalizing p' with
  | ret value =>
      cases p' with
      | ret value' => exact himp value value' hp
      | ask q' resume' => exact hp.elim
  | ask q resume ih =>
      cases p' with
      | ret value' => exact hp.elim
      | ask q' resume' =>
          obtain ⟨hasked, hnext⟩ := hp
          exact ⟨hasked, fun answer answer' htold => ih answer (hnext answer answer' htold)⟩

/-- A program is in lockstep with itself if related answers to its questions are equal. -/
theorem Lockstep.of_only {C : Q → Prop} {p : Program Q A α} (hp : p.Only C)
    (hC : ∀ q, C q → Asked q q ∧ ∀ answer answer' : A q, Told ⟨q, answer⟩ ⟨q, answer'⟩ →
      answer = answer') : Lockstep Asked Told Eq p p := by
  induction p with
  | ret value => exact rfl
  | ask q resume ih =>
      obtain ⟨hasked, hequal⟩ := hC q hp.1
      refine ⟨hasked, fun answer answer' htold => ?_⟩
      rw [hequal answer answer' htold]
      exact ih answer' (hp.2 answer')

end Program

/-! ## Programs that can raise -/

namespace Fallible

open Program

variable {Q : Type u} {A : Q → Type v} {α α' β β' ε : Type v}
variable {Asked : Q → Q → Prop} {Told : Event A → Event A → Prop}

/-- Related values, or the same exception. -/
def Both (post : α → α' → Prop) : Except ε α → Except ε α' → Prop
  | .ok value, .ok value' => post value value'
  | .error exn, .error exn' => exn = exn'
  | .ok _, .error _ => False
  | .error _, .ok _ => False

theorem Both.refl {post : α → α → Prop} (hpost : ∀ value, post value value)
    (outcome : Except ε α) : Both post outcome outcome := by
  cases outcome with
  | ok value => exact hpost value
  | error exn => exact rfl

/-- Two fallible programs in lockstep, raising the same exceptions. -/
abbrev InStep (Asked : Q → Q → Prop) (Told : Event A → Event A → Prop) (post : α → α' → Prop)
    (x : Fallible Q A ε α) (x' : Fallible Q A ε α') : Prop :=
  Lockstep Asked Told (Both post) x.run x'.run

theorem InStep.pure {post : α → α' → Prop} {value : α} {value' : α'} (h : post value value') :
    InStep Asked Told post (Pure.pure value : Fallible Q A ε α) (Pure.pure value') := h

theorem InStep.throw {post : α → α' → Prop} (exn : ε) :
    InStep Asked Told post (MonadExcept.throw exn : Fallible Q A ε α) (MonadExcept.throw exn) :=
  Lockstep.ret (show Both post (.error exn) (.error exn) from rfl)

theorem InStep.bind {mid : α → α' → Prop} {post : β → β' → Prop} {x : Fallible Q A ε α}
    {x' : Fallible Q A ε α'} {f : α → Fallible Q A ε β} {f' : α' → Fallible Q A ε β'}
    (hx : InStep Asked Told mid x x')
    (hf : ∀ value value', mid value value' → InStep Asked Told post (f value) (f' value')) :
    InStep Asked Told post (x >>= f) (x' >>= f') := by
  unfold InStep
  rw [run_bind, run_bind]
  refine Lockstep.bind hx fun outcome outcome' houtcome => ?_
  cases outcome with
  | ok value =>
      cases outcome' with
      | ok value' => exact hf value value' houtcome
      | error exn' => exact houtcome.elim
  | error exn =>
      cases outcome' with
      | ok value' => exact houtcome.elim
      | error exn' => exact houtcome

/-- A question each. -/
theorem InStep.ask {q q' : Q} {post : A q → A q' → Prop} (hasked : Asked q q')
    (htold : ∀ answer answer', Told ⟨q, answer⟩ ⟨q', answer'⟩ → post answer answer') :
    InStep Asked Told post (Fallible.ask q : Fallible Q A ε (A q)) (Fallible.ask q') :=
  ⟨hasked, htold⟩

/-- A question each, then the rest. -/
theorem InStep.call {q q' : Q} {post : β → β' → Prop} {f : A q → Fallible Q A ε β}
    {f' : A q' → Fallible Q A ε β'} (hasked : Asked q q')
    (hf : ∀ answer answer', Told ⟨q, answer⟩ ⟨q', answer'⟩ →
      InStep Asked Told post (f answer) (f' answer')) :
    InStep Asked Told post (Fallible.ask q >>= f) (Fallible.ask q' >>= f') := by
  unfold InStep
  rw [run_bind, run_bind]
  exact ⟨hasked, hf⟩

/-- Two `try` statements hand on related outcomes. -/
theorem InStep.attempt {post : Except ε α → Except ε α' → Prop} {x : Fallible Q A ε α}
    {x' : Fallible Q A ε α'} (hx : Lockstep Asked Told post x.run x'.run) :
    InStep Asked Told post (attempt x) (attempt x') :=
  Lockstep.bind hx fun _ _ houtcome => houtcome

/-- A program is in step with itself if related answers to its questions are equal. -/
theorem InStep.of_only {C : Q → Prop} {x : Fallible Q A ε α} (hx : Only C x.run)
    (hC : ∀ q, C q → Asked q q ∧ ∀ answer answer' : A q, Told ⟨q, answer⟩ ⟨q, answer'⟩ →
      answer = answer') : InStep Asked Told Eq x x := by
  refine (Lockstep.of_only hx hC).mono fun outcome outcome' heq => ?_
  subst heq
  exact Both.refl (fun _ => rfl) outcome

end Fallible

/-! ## Two runs of a machine -/

namespace Machine

variable {Q : Type u} {A : Q → Type v} {σ : Type w} {J : Type x} {R : Type v}

/-- An answered question of a thread, with the states around it. -/
structure Moment (A : Q → Type v) (σ : Type w) where
  before : σ
  event : Event A
  after : σ

/-- The moment an entry records, if it is about a question. -/
def Moment.ofEntry (entry : Entry A σ J R) : Option (Moment A σ) :=
  entry.action.event?.map fun event => ⟨entry.before, event, entry.after⟩

/-- The moments of one thread, in order. -/
def momentsOf (tid : ℕ) (log : List (Entry A σ J R)) : List (Moment A σ) :=
  (log.filter fun entry => entry.tid = tid).filterMap Moment.ofEntry

theorem momentsOf_append (tid : ℕ) (first second : List (Entry A σ J R)) :
    momentsOf tid (first ++ second) = momentsOf tid first ++ momentsOf tid second := by
  simp [momentsOf]

theorem momentsOf_eq_nil {tid : ℕ} {log : List (Entry A σ J R)}
    (h : ∀ entry ∈ log, entry.tid ≠ tid) : momentsOf tid log = [] := by
  have hfilter : (log.filter fun entry => entry.tid = tid) = [] := by simpa using h
  rw [momentsOf, hfilter, List.filterMap_nil]

theorem momentsOf_did {tid : ℕ} {before after : σ} {event : Event A}
    {log : List (Entry A σ J R)} :
    momentsOf tid (⟨tid, .did event, before, after⟩ :: log) =
      ⟨before, event, after⟩ :: momentsOf tid log := by
  simp [momentsOf, Moment.ofEntry, Action.event?]

theorem momentsOf_start {tid : ℕ} {before after : σ} {job : J} {log : List (Entry A σ J R)} :
    momentsOf tid (⟨tid, .start job, before, after⟩ :: log) = momentsOf tid log := by
  simp [momentsOf, List.filterMap_cons, Moment.ofEntry, Action.event?]

theorem momentsOf_finish {tid : ℕ} {before after : σ} {result : R}
    {log : List (Entry A σ J R)} :
    momentsOf tid (⟨tid, .finish result, before, after⟩ :: log) = momentsOf tid log := by
  simp [momentsOf, List.filterMap_cons, Moment.ofEntry, Action.event?]

/-- Without the states, the moments are the trace. -/
theorem map_event_momentsOf (tid : ℕ) (log : List (Entry A σ J R)) :
    (momentsOf tid log).map Moment.event = traceOf tid log := by
  simp only [momentsOf, traceOf, actionsOf, List.map_filterMap, List.filterMap_map]
  congr 1
  funext entry
  simp only [Moment.ofEntry, Option.map_map, Function.comp_apply]
  exact Option.map_id'

variable (M : Machine Q A σ J R)

/-- From a state on, only time passes between two moments, unless control was
given up, and every question is answered as the machine answers. -/
def Unbroken : σ → List (Moment A σ) → Prop
  | _, [] => True
  | s, m :: moments => (¬ M.yields m.event.query → M.passes s m.before) ∧
      M.sem m.before m.event.query m.event.answer m.after ∧ Unbroken m.after moments

variable {M}

/-- Where control was given up, moments may be put together. -/
theorem Unbroken.resume {s : σ} {m : Moment A σ} {first second : List (Moment A σ)}
    (hfirst : M.Unbroken s first) (hyields : M.yields m.event.query)
    (answered : M.sem m.before m.event.query m.event.answer m.after)
    (hsecond : M.Unbroken m.after second) : M.Unbroken s (first ++ m :: second) := by
  induction first generalizing s with
  | nil => exact ⟨fun h => absurd hyields h, answered, hsecond⟩
  | cons head first ih => exact ⟨hfirst.1, hfirst.2.1, ih hfirst.2.2⟩

theorem Stretch.unbroken {tid : ℕ} {s s' : σ} {p rest : Program Q A R}
    {entries : List (Entry A σ J R)} (h : M.Stretch tid s p entries s' rest) :
    M.Unbroken s (momentsOf tid entries) := by
  induction h with
  | finish time =>
      rw [momentsOf_finish]
      trivial
  | suspend hyields => trivial
  | step hyields time answered _ ih =>
      rw [momentsOf_did]
      exact ⟨fun _ => time, answered, ih⟩

/-- A thread is started once. -/
theorem Stretch.not_start {tid : ℕ} {s s' : σ} {p rest : Program Q A R}
    {entries : List (Entry A σ J R)} (h : M.Stretch tid s p entries s' rest) :
    ∀ entry ∈ entries, ∀ job, entry.action ≠ .start job := by
  induction h with
  | finish time => simp
  | suspend hyields => simp
  | step hyields time answered _ ih => simpa using ih

/-- Entries of other threads do not matter. -/
theorem momentsOf_append_others {tid : ℕ} {log block : List (Entry A σ J R)}
    (h : ∀ entry ∈ block, entry.tid ≠ tid) : momentsOf tid (log ++ block) = momentsOf tid log := by
  rw [momentsOf_append, momentsOf_eq_nil h, List.append_nil]

/-- **A thread's moments are unbroken from its start.** -/
theorem Reachable.unbroken {init : σ} {c : Config A σ J R} (h : M.Reachable init c) {tid : ℕ}
    {job : J} {s : σ} (hstart : ⟨tid, .start job, s, s⟩ ∈ c.log) :
    M.Unbroken s (momentsOf tid c.log) := by
  induction h with
  | init => simp [initial] at hstart
  | @step c _ reached moved ih =>
      obtain ⟨acting, head, entries, hblock, hacting, _⟩ := moved.block reached
      by_cases htid : acting = tid
      case neg =>
        have hothers : ∀ entry ∈ head :: entries, entry.tid ≠ tid := by
          intro entry hmem
          rw [hacting entry hmem]
          exact htid
        rw [hblock] at hstart ⊢
        rw [momentsOf_append_others hothers]
        rcases List.mem_append.mp hstart with hold | hnew
        · exact ih hold
        · exact absurd rfl (hothers _ hnew)
      case pos =>
        subst htid
        cases moved with
        | @spawn tid job' s₀ s₁ entries' rest fresh time run =>
            obtain ⟨rfl, rfl⟩ := List.cons.inj (List.append_cancel_left hblock)
            obtain rfl : tid = acting := hacting _ List.mem_cons_self
            have hnone : ∀ entry ∈ c.log, entry.tid ≠ tid := by
              intro entry hmem heq
              obtain ⟨thread, hthread⟩ := reached.thread_of_mem hmem
              rw [heq, fresh] at hthread
              cases hthread
            rw [momentsOf_append, momentsOf_eq_nil hnone, List.nil_append, momentsOf_start]
            rcases List.mem_append.mp hstart with hold | hnew
            · exact absurd rfl (hnone _ hold)
            · rcases List.mem_cons.mp hnew with heq | hmem
              · cases heq
                exact run.unbroken
              · exact absurd rfl (run.not_start _ hmem job)
        | @resume tid job' q resume answer s₀ s₁ s₂ entries' rest suspended time answered run =>
            obtain ⟨rfl, rfl⟩ := List.cons.inj (List.append_cancel_left hblock)
            obtain rfl : tid = acting := hacting _ List.mem_cons_self
            rw [momentsOf_append, momentsOf_did]
            have hold : ⟨tid, .start job, s, s⟩ ∈ c.log := by
              rcases List.mem_append.mp hstart with hold | hnew
              · exact hold
              · rcases List.mem_cons.mp hnew with heq | hmem
                · cases heq
                · exact absurd rfl (run.not_start _ hmem job)
            exact (ih hold).resume (reached.yields suspended) answered run.unbroken

/-- The entry that starts a thread names its job. -/
theorem Reachable.thread_of_start {init : σ} {c : Config A σ J R} (h : M.Reachable init c)
    {entry : Entry A σ J R} {job : J} (hmem : entry ∈ c.log)
    (haction : entry.action = .start job) :
    ∃ rest, c.threads entry.tid = some ⟨job, rest⟩ := by
  obtain ⟨⟨started, rest⟩, hthread⟩ := h.thread_of_mem hmem
  have hfollows := h.follows entry.tid
  simp only [Follows, hthread] at hfollows
  obtain ⟨trace, _, hactions⟩ := hfollows
  have hstarted : Action.start job ∈ actionsOf entry.tid c.log := by
    rw [← haction]
    exact List.mem_map_of_mem (by simp [hmem])
  rw [hactions] at hstarted
  rcases List.mem_cons.mp hstarted with heq | hrest
  · cases heq
    exact ⟨rest, hthread⟩
  · rcases List.mem_append.mp hrest with hdid | hclosing
    · simp at hdid
    · cases rest <;> simp [closing] at hclosing

/-! ### Indistinguishable runs -/

/-- What makes two runs of lockstep programs go on together: `Agree` relates the
states, `Alike` says of two moments that whatever the programs do not control
behaves alike at both. -/
structure Indistinct (M : Machine Q A σ J R) (Asked : Q → Q → Prop)
    (Told : Event A → Event A → Prop) (Agree : σ → σ → Prop)
    (Alike : Moment A σ → Moment A σ → Prop) : Prop where
  /-- Passing time does not disturb the agreement. -/
  passes : ∀ {s s' s₀ s₀'}, Agree s s' → M.passes s s₀ → M.passes s' s₀' → Agree s₀ s₀'
  /-- Related questions give up control together. -/
  yields : ∀ {q q'}, Asked q q' → (M.yields q ↔ M.yields q')
  /-- When control comes back, the others have left agreeing states behind. -/
  resumes : ∀ {m m'}, Alike m m' → M.yields m.event.query → Agree m.before m'.before
  /-- Related questions in agreeing states have related answers, and leave agreeing states. -/
  answers : ∀ {m m'}, Asked m.event.query m'.event.query → Agree m.before m'.before →
    Alike m m' → M.sem m.before m.event.query m.event.answer m.after →
    M.sem m'.before m'.event.query m'.event.answer m'.after →
    Told m.event m'.event ∧ Agree m.after m'.after

variable {Asked : Q → Q → Prop} {Told : Event A → Event A → Prop} {Agree : σ → σ → Prop}
variable {Alike : Moment A σ → Moment A σ → Prop} {α α' : Type v} {post : α → α' → Prop}

/-- **Lockstep in two runs.** From agreeing states, with everything else alike at
corresponding moments with related questions, all corresponding questions are related,
and if both programs have returned, they have asked the same number of questions. -/
theorem Indistinct.asked (hM : Indistinct M Asked Told Agree Alike) {p rest : Program Q A α}
    {p' rest' : Program Q A α'} {s s' : σ} {moments moments' : List (Moment A σ)}
    (hp : Program.Lockstep Asked Told post p p')
    (hreaches : p.Reaches (moments.map Moment.event) rest)
    (hreaches' : p'.Reaches (moments'.map Moment.event) rest')
    (hunbroken : M.Unbroken s moments) (hunbroken' : M.Unbroken s' moments')
    (hagree : Agree s s')
    (halike : ∀ pair ∈ moments.zip moments', Asked pair.1.event.query pair.2.event.query →
      Alike pair.1 pair.2) :
    (∀ pair ∈ moments.zip moments', Asked pair.1.event.query pair.2.event.query) ∧
      ((∃ value, rest = .ret value) → (∃ value, rest' = .ret value) →
        moments.length = moments'.length) := by
  induction moments generalizing p p' s s' moments' with
  | nil =>
      refine ⟨by simp, fun ⟨value, hrest⟩ _ => ?_⟩
      rw [List.map_nil, Program.reaches_nil_iff] at hreaches
      rw [← hreaches, hrest] at hp
      cases p' with
      | ret value' =>
          obtain ⟨hnil, _⟩ := Program.reaches_ret_iff.mp hreaches'
          rw [List.map_eq_nil_iff.mp hnil]
      | ask q' resume' => exact hp.elim
  | cons m moments ih =>
      cases p with
      | ret value =>
          obtain ⟨hnil, _⟩ := Program.reaches_ret_iff.mp hreaches
          cases hnil
      | ask q resume =>
          cases p' with
          | ret value' => exact hp.elim
          | ask q' resume' =>
              cases moments' with
              | nil =>
                  refine ⟨by simp, fun _ ⟨value, hrest⟩ => ?_⟩
                  rw [List.map_nil, Program.reaches_nil_iff, hrest] at hreaches'
                  cases hreaches'
              | cons m' moments' =>
                  obtain ⟨hasked, hnext⟩ := hp
                  rw [List.map_cons, Program.reaches_ask_cons_iff] at hreaches hreaches'
                  obtain ⟨answer, hevent, htail⟩ := hreaches
                  obtain ⟨answer', hevent', htail'⟩ := hreaches'
                  have hquery : Asked m.event.query m'.event.query := by
                    rw [hevent, hevent']
                    exact hasked
                  have hhead : Alike m m' := halike ⟨m, m'⟩ (by simp) hquery
                  -- The states before the two answers agree: control was given up in
                  -- both runs or in neither.
                  have hbefore : Agree m.before m'.before := by
                    by_cases hyields : M.yields m.event.query
                    · exact hM.resumes hhead hyields
                    · have hyields' := mt (hM.yields hquery).mpr hyields
                      exact hM.passes hagree (hunbroken.1 hyields) (hunbroken'.1 hyields')
                  obtain ⟨htold, hafter⟩ :=
                    hM.answers hquery hbefore hhead hunbroken.2.1 hunbroken'.2.1
                  rw [hevent, hevent'] at htold
                  obtain ⟨hrest, hlength⟩ := ih (hnext answer answer' htold) htail htail'
                    hunbroken.2.2 hunbroken'.2.2 hafter
                    fun pair hmem => halike pair (by simp [hmem])
                  constructor
                  · intro pair hmem
                    rcases List.mem_cons.mp hmem with rfl | hmem
                    · exact hquery
                    · exact hrest pair hmem
                  · intro hend hend'
                    simp [hlength hend hend']

end Machine

/-! ## What an observer sees -/

/-- Two sequences that look the same at corresponding positions look the same, as
far as the shorter one goes. -/
theorem filterMap_comparable {α β : Type u} {f : α → Option β} {xs ys : List α}
    (h : ∀ pair ∈ xs.zip ys, f pair.1 = f pair.2) :
    xs.filterMap f <+: ys.filterMap f ∨ ys.filterMap f <+: xs.filterMap f := by
  induction xs generalizing ys with
  | nil => exact .inl List.nil_prefix
  | cons x xs ih =>
      cases ys with
      | nil => exact .inr List.nil_prefix
      | cons y ys =>
          have hhead : f x = f y := h ⟨x, y⟩ (by simp)
          have hrest : ∀ pair ∈ xs.zip ys, f pair.1 = f pair.2 :=
            fun pair hmem => h pair (by simp [hmem])
          have htail := ih hrest
          simp only [List.filterMap_cons, ← hhead]
          cases f x with
          | none => exact htail
          | some seen => simpa [List.cons_prefix_cons] using htail

/-- Sequences of the same length that look the same at every position look the same. -/
theorem filterMap_eq_of_zip {α β : Type u} {f : α → Option β} {xs ys : List α}
    (h : ∀ pair ∈ xs.zip ys, f pair.1 = f pair.2) (hlength : xs.length = ys.length) :
    xs.filterMap f = ys.filterMap f := by
  induction xs generalizing ys with
  | nil => rw [List.length_eq_zero_iff.mp hlength.symm]
  | cons x xs ih =>
      cases ys with
      | nil => cases hlength
      | cons y ys =>
          have hhead : f x = f y := h ⟨x, y⟩ (by simp)
          have htail := ih (fun pair hmem => h pair (by simp [hmem])) (Nat.succ.inj hlength)
          simp only [List.filterMap_cons, hhead, htail]

end Foundation
