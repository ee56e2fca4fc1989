/-
# Interleaved runs of many programs

A machine gives the questions of a program a meaning over a shared state: what
an answer may be and how answering changes the state. It also says which
questions give up control. Between two such questions a thread runs alone, in
one stretch; at them any other thread may run. With no yielding question inside
an operation the operation is atomic, as under a cooperative event loop; with
every question yielding, threads interleave at every access to the shared state.
Both readings share the theory below.

Time, or whatever else changes the state without a thread, passes before each
action. A configuration carries the log of everything that happened in the run
that led to it, so a property of runs is a property of reachable configurations.
-/

import BedrockGateway.Foundation.Program
import Mathlib.Logic.Function.Basic

namespace Foundation

universe u v w x

/-- The meaning of questions over a shared state, and the programs that may run. -/
structure Machine (Q : Type u) (A : Q → Type v) (σ : Type w) (J : Type x) (R : Type v) where
  /-- How the state may change while no thread acts. -/
  passes : σ → σ → Prop
  /-- The answers a question may receive, and the state afterwards. -/
  sem : σ → (q : Q) → A q → σ → Prop
  /-- The questions at which a thread gives up control. -/
  yields : Q → Prop
  /-- What a job runs. -/
  program : J → Program Q A R

/-- What a thread did. -/
inductive Action {Q : Type u} (A : Q → Type v) (J : Type x) (R : Type v)
  | /-- The thread was started on a job. -/
    start (job : J)
  | /-- A question of the thread was answered. -/
    did (event : Event A)
  | /-- The thread's program returned. -/
    finish (result : R)

/-- The question and answer of an action that is one. -/
def Action.event? {Q : Type u} {A : Q → Type v} {J : Type x} {R : Type v} :
    Action A J R → Option (Event A)
  | .did event => some event
  | _ => none

/-- One line of the log of a run. -/
structure Entry {Q : Type u} (A : Q → Type v) (σ : Type w) (J : Type x) (R : Type v) where
  /-- Who acted. -/
  tid : ℕ
  /-- What was done. -/
  action : Action A J R
  /-- The shared state just before. -/
  before : σ
  /-- The shared state just after. -/
  after : σ

/-- A thread: the job it was started on and what it still has to run. -/
structure Thread (Q : Type u) (A : Q → Type v) (J : Type x) (R : Type v) where
  job : J
  rest : Program Q A R

/-- A configuration of a machine. -/
structure Config {Q : Type u} (A : Q → Type v) (σ : Type w) (J : Type x) (R : Type v) where
  state : σ
  threads : ℕ → Option (Thread Q A J R)
  log : List (Entry A σ J R)

variable {Q : Type u} {A : Q → Type v} {σ : Type w} {J : Type x} {R : Type v}

/-- What one thread did, in order. -/
def actionsOf (tid : ℕ) (log : List (Entry A σ J R)) : List (Action A J R) :=
  (log.filter fun entry => entry.tid = tid).map Entry.action

/-- The questions and answers of one thread, in order. -/
def traceOf (tid : ℕ) (log : List (Entry A σ J R)) : List (Event A) :=
  (actionsOf tid log).filterMap Action.event?

theorem actionsOf_append (tid : ℕ) (first second : List (Entry A σ J R)) :
    actionsOf tid (first ++ second) = actionsOf tid first ++ actionsOf tid second := by
  simp [actionsOf]

theorem actionsOf_eq_nil {tid : ℕ} {log : List (Entry A σ J R)}
    (h : ∀ entry ∈ log, entry.tid ≠ tid) : actionsOf tid log = [] := by
  simpa [actionsOf] using h

theorem actionsOf_cons_self {tid : ℕ} {entry : Entry A σ J R} (htid : entry.tid = tid)
    (log : List (Entry A σ J R)) :
    actionsOf tid (entry :: log) = entry.action :: actionsOf tid log := by
  simp [actionsOf, htid]

theorem traceOf_append (tid : ℕ) (first second : List (Entry A σ J R)) :
    traceOf tid (first ++ second) = traceOf tid first ++ traceOf tid second := by
  simp [traceOf, actionsOf_append]

theorem filterMap_event?_did (trace : List (Event A)) :
    (trace.map (Action.did (J := J) (R := R))).filterMap Action.event? = trace := by
  induction trace with
  | nil => rfl
  | cons event trace ih => simp [Action.event?, ih]

/-- Events of a thread's trace are entries of the log. -/
theorem mem_traceOf_iff {tid : ℕ} {log : List (Entry A σ J R)} {event : Event A} :
    event ∈ traceOf tid log ↔
      ∃ entry ∈ log, entry.tid = tid ∧ entry.action = .did event := by
  simp only [traceOf, actionsOf, List.mem_filterMap, List.mem_map, List.mem_filter,
    decide_eq_true_eq]
  constructor
  · rintro ⟨action, ⟨entry, ⟨hmem, htid⟩, rfl⟩, hevent⟩
    refine ⟨entry, hmem, htid, ?_⟩
    cases haction : entry.action with
    | start job => simp [haction, Action.event?] at hevent
    | did other =>
        rw [haction] at hevent
        cases hevent
        rfl
    | finish result => simp [haction, Action.event?] at hevent
  · rintro ⟨entry, hmem, htid, haction⟩
    exact ⟨entry.action, ⟨entry, ⟨hmem, htid⟩, rfl⟩, by rw [haction]; rfl⟩

/-- An event of a thread's trace cuts the log at its entry. -/
theorem exists_entry_of_traceOf {tid : ℕ} {log : List (Entry A σ J R)}
    {before after : List (Event A)} {event : Event A}
    (h : traceOf tid log = before ++ event :: after) :
    ∃ past entry future, log = past ++ entry :: future ∧ entry.tid = tid ∧
      entry.action = .did event ∧ traceOf tid past = before ∧ traceOf tid future = after := by
  induction log generalizing before with
  | nil => simp [traceOf, actionsOf] at h
  | cons head log ih =>
      have hcons : traceOf tid (head :: log) = traceOf tid [head] ++ traceOf tid log :=
        traceOf_append tid [head] log
      have hskip : traceOf tid [head] = [] → ∃ past entry future,
          head :: log = past ++ entry :: future ∧ entry.tid = tid ∧ entry.action = .did event ∧
            traceOf tid past = before ∧ traceOf tid future = after := by
        intro hnil
        rw [hcons, hnil, List.nil_append] at h
        obtain ⟨past, entry, future, rfl, htid, haction, hpast, hfuture⟩ := ih h
        refine ⟨head :: past, entry, future, rfl, htid, haction, ?_, hfuture⟩
        rw [← List.singleton_append, traceOf_append, hnil, List.nil_append, hpast]
      by_cases htid : head.tid = tid
      · cases haction : head.action with
        | start job => exact hskip (by simp [traceOf, actionsOf, htid, haction, Action.event?])
        | finish result => exact hskip (by simp [traceOf, actionsOf, htid, haction, Action.event?])
        | did first =>
            have hhead : traceOf tid [head] = [first] := by
              simp [traceOf, actionsOf, htid, haction, Action.event?]
            rw [hcons, hhead, List.singleton_append] at h
            cases before with
            | nil =>
                obtain ⟨rfl, hrest⟩ := List.cons.inj h
                exact ⟨[], head, log, rfl, htid, haction, rfl, hrest⟩
            | cons second before =>
                obtain ⟨rfl, hrest⟩ := List.cons.inj h
                obtain ⟨past, entry, future, rfl, htid', haction', hpast, hfuture⟩ := ih hrest
                refine ⟨head :: past, entry, future, rfl, htid', haction', ?_, hfuture⟩
                rw [← List.singleton_append, traceOf_append, hhead, hpast]
                rfl
      · exact hskip (by simp [traceOf, actionsOf, htid])

namespace Machine

variable (M : Machine Q A σ J R)

/-! ## Running -/

/-- A thread runs without interruption until it gives up control or returns. -/
inductive Stretch (tid : ℕ) : σ → Program Q A R → List (Entry A σ J R) → σ →
    Program Q A R → Prop
  | /-- The program has returned. -/
    finish {s s₀ : σ} {result : R} (time : M.passes s s₀) :
      Stretch tid s (.ret result) [⟨tid, .finish result, s₀, s₀⟩] s₀ (.ret result)
  | /-- The next question gives up control. -/
    suspend {s : σ} {q : Q} {resume : A q → Program Q A R} (hyields : M.yields q) :
      Stretch tid s (.ask q resume) [] s (.ask q resume)
  | /-- The next question is answered on the spot. -/
    step {s s₀ s₁ s₂ : σ} {q : Q} {resume : A q → Program Q A R} {answer : A q}
      {entries : List (Entry A σ J R)} {rest : Program Q A R}
      (hyields : ¬ M.yields q) (time : M.passes s s₀) (answered : M.sem s₀ q answer s₁)
      (tail : Stretch tid s₁ (resume answer) entries s₂ rest) :
      Stretch tid s (.ask q resume) (⟨tid, .did ⟨q, answer⟩, s₀, s₁⟩ :: entries) s₂ rest

/-- One step of the scheduler: a new thread runs its first stretch, or a
suspended thread has its question answered and runs its next stretch. -/
inductive Step : Config A σ J R → Config A σ J R → Prop
  | spawn {c : Config A σ J R} {tid : ℕ} {job : J} {s₀ s₁ : σ}
      {entries : List (Entry A σ J R)} {rest : Program Q A R}
      (fresh : c.threads tid = none) (time : M.passes c.state s₀)
      (run : M.Stretch tid s₀ (M.program job) entries s₁ rest) :
      Step c ⟨s₁, Function.update c.threads tid (some ⟨job, rest⟩),
        c.log ++ ⟨tid, .start job, s₀, s₀⟩ :: entries⟩
  | resume {c : Config A σ J R} {tid : ℕ} {job : J} {q : Q} {resume : A q → Program Q A R}
      {answer : A q} {s₀ s₁ s₂ : σ} {entries : List (Entry A σ J R)} {rest : Program Q A R}
      (suspended : c.threads tid = some ⟨job, .ask q resume⟩) (time : M.passes c.state s₀)
      (answered : M.sem s₀ q answer s₁)
      (run : M.Stretch tid s₁ (resume answer) entries s₂ rest) :
      Step c ⟨s₂, Function.update c.threads tid (some ⟨job, rest⟩),
        c.log ++ ⟨tid, .did ⟨q, answer⟩, s₀, s₁⟩ :: entries⟩

/-- The configuration in which nothing has happened. -/
def initial (s : σ) : Config A σ J R := ⟨s, fun _ => none, []⟩

/-- The configurations that some run from `s` passes through. -/
inductive Reachable (s : σ) : Config A σ J R → Prop
  | init : Reachable s (initial s)
  | step {c c' : Config A σ J R} (reached : Reachable s c) (moved : M.Step c c') :
      Reachable s c'

/-! ## The log replays the run -/

/-- An entry records a move the machine allows. -/
def Valid (entry : Entry A σ J R) : Prop :=
  match entry.action with
  | .did event => M.sem entry.before event.query event.answer entry.after
  | _ => entry.after = entry.before

/-- The log leads from one state to another, time passing between its entries. -/
def Replay : σ → List (Entry A σ J R) → σ → Prop
  | s, [], s' => s' = s
  | s, entry :: log, s' =>
      M.passes s entry.before ∧ M.Valid entry ∧ Replay entry.after log s'

variable {M}

theorem Replay.append {s s₁ s₂ : σ} {first second : List (Entry A σ J R)}
    (hfirst : M.Replay s first s₁) (hsecond : M.Replay s₁ second s₂) :
    M.Replay s (first ++ second) s₂ := by
  induction first generalizing s with
  | nil =>
      simp only [Replay] at hfirst
      exact hfirst ▸ hsecond
  | cons entry first ih => exact ⟨hfirst.1, hfirst.2.1, ih hfirst.2.2⟩

/-- A replay may be cut anywhere. -/
theorem Replay.split {s s' : σ} {first second : List (Entry A σ J R)}
    (h : M.Replay s (first ++ second) s') :
    ∃ middle, M.Replay s first middle ∧ M.Replay middle second s' := by
  induction first generalizing s with
  | nil => exact ⟨s, rfl, h⟩
  | cons entry first ih =>
      obtain ⟨middle, hfirst, hsecond⟩ := ih h.2.2
      exact ⟨middle, ⟨h.1, h.2.1, hfirst⟩, hsecond⟩

theorem Stretch.replay {tid : ℕ} {s s' : σ} {p rest : Program Q A R}
    {entries : List (Entry A σ J R)} (h : M.Stretch tid s p entries s' rest) :
    M.Replay s entries s' := by
  induction h with
  | finish time => exact ⟨time, rfl, rfl⟩
  | suspend _ => exact rfl
  | step _ time answered _ ih => exact ⟨time, answered, ih⟩

/-- The log of a reachable configuration replays the whole run. -/
theorem Reachable.replay {s : σ} {c : Config A σ J R} (h : M.Reachable s c) :
    M.Replay s c.log c.state := by
  induction h with
  | init => exact rfl
  | step _ moved ih =>
      cases moved with
      | spawn fresh time run => exact ih.append ⟨time, rfl, run.replay⟩
      | resume suspended time answered run => exact ih.append ⟨time, answered, run.replay⟩

/-- **Invariants of the log.** A predicate of the history and the state, kept
while time passes and by every entry, holds before every entry and at the end.
An entry may be assumed to belong to the log, so its thread's whole trace is
available to the proof. -/
theorem Replay.invariant {I : List (Entry A σ J R) → σ → Prop} {s s' : σ}
    {log : List (Entry A σ J R)} (hreplay : M.Replay s log s') (hinit : I [] s)
    (htime : ∀ past s s₀, I past s → M.passes s s₀ → I past s₀)
    (hentry : ∀ past entry future, log = past ++ entry :: future →
      I past entry.before → M.Valid entry → I (past ++ [entry]) entry.after) :
    I log s' ∧ ∀ past entry future, log = past ++ entry :: future → I past entry.before := by
  suffices h : ∀ past future s, log = past ++ future → I past s → M.Replay s future s' →
      I log s' ∧ ∀ more entry later, future = more ++ entry :: later →
        I (past ++ more) entry.before by
    obtain ⟨hend, hmid⟩ := h [] log s rfl hinit hreplay
    exact ⟨hend, fun past entry future heq => by simpa using hmid past entry future heq⟩
  intro past future
  induction future generalizing past with
  | nil =>
      intro s hlog hI hrest
      simp only [Replay] at hrest
      refine ⟨by rw [hlog, List.append_nil, hrest]; exact hI, fun more entry later heq => ?_⟩
      simp at heq
  | cons entry future ih =>
      intro s hlog hI hrest
      have hbefore := htime past s entry.before hI hrest.1
      have hafter := hentry past entry future hlog hbefore hrest.2.1
      obtain ⟨hend, hmid⟩ := ih (past ++ [entry]) entry.after (by simp [hlog]) hafter hrest.2.2
      refine ⟨hend, fun more other later heq => ?_⟩
      cases more with
      | nil =>
          obtain ⟨rfl, rfl⟩ := List.cons.inj heq
          simpa using hbefore
      | cons head more =>
          obtain ⟨rfl, htail⟩ := List.cons.inj heq
          simpa using hmid more other later htail

/-- **Invariants of a stretch of the log**: what time and each of its entries keep
holds before every entry and at the end. -/
theorem Replay.preserves {P : σ → Prop} {s s' : σ} {log : List (Entry A σ J R)}
    (hreplay : M.Replay s log s') (hinit : P s) (htime : ∀ s s₀, P s → M.passes s s₀ → P s₀)
    (hentry : ∀ entry ∈ log, P entry.before → M.Valid entry → P entry.after) :
    P s' ∧ ∀ entry ∈ log, P entry.before := by
  induction log generalizing s with
  | nil =>
      simp only [Replay] at hreplay
      exact ⟨hreplay ▸ hinit, by simp⟩
  | cons entry log ih =>
      have hbefore := htime s entry.before hinit hreplay.1
      have hafter := hentry entry List.mem_cons_self hbefore hreplay.2.1
      obtain ⟨hend, hmid⟩ := ih hreplay.2.2 hafter fun other hmem =>
        hentry other (List.mem_cons_of_mem _ hmem)
      refine ⟨hend, fun other hmem => ?_⟩
      rcases List.mem_cons.mp hmem with rfl | hrest
      · exact hbefore
      · exact hmid other hrest

/-- From any of its entries on, a log replays the rest of the run. -/
theorem Replay.suffix {s s' : σ} {past future : List (Entry A σ J R)} {entry : Entry A σ J R}
    (hreplay : M.Replay s (past ++ entry :: future) s') :
    M.Valid entry ∧ M.Replay entry.after future s' := by
  induction past generalizing s with
  | nil => exact ⟨hreplay.2.1, hreplay.2.2⟩
  | cons head past ih => exact ih hreplay.2.2

/-- Every entry of the log of a run is a move the machine allows. -/
theorem Replay.valid {s s' : σ} {log : List (Entry A σ J R)} (hreplay : M.Replay s log s')
    {entry : Entry A σ J R} (hmem : entry ∈ log) : M.Valid entry := by
  induction log generalizing s with
  | nil => simp at hmem
  | cons head log ih =>
      rcases List.mem_cons.mp hmem with rfl | hrest
      · exact hreplay.2.1
      · exact ih hreplay.2.2 hrest

/-! ## Threads follow their programs -/

/-- The closing entry of a thread whose program has returned. -/
def closing : Program Q A R → List (Action A J R)
  | .ret result => [.finish result]
  | .ask _ _ => []

/-- A stretch that has not returned stops at a question giving up control. -/
theorem Stretch.yields {tid : ℕ} {s s' : σ} {p rest : Program Q A R}
    {entries : List (Entry A σ J R)} (h : M.Stretch tid s p entries s' rest) {q : Q}
    {resume : A q → Program Q A R} (hrest : rest = .ask q resume) : M.yields q := by
  induction h with
  | finish _ => cases hrest
  | suspend hyields =>
      cases hrest
      exact hyields
  | step _ _ _ _ ih => exact ih hrest

/-- Every thread that has not returned is suspended at such a question. -/
theorem Reachable.yields {s : σ} {c : Config A σ J R} (h : M.Reachable s c) {tid : ℕ} {job : J}
    {q : Q} {resume : A q → Program Q A R} (hthread : c.threads tid = some ⟨job, .ask q resume⟩) :
    M.yields q := by
  induction h with
  | init => simp [initial] at hthread
  | step _ moved ih =>
      cases moved with
      | @spawn acting _ _ _ _ _ _ _ run =>
          by_cases htid : tid = acting
          · subst htid
            simp only [Function.update_self, Option.some.injEq, Thread.mk.injEq] at hthread
            exact run.yields hthread.2
          · simp only [Function.update_of_ne htid] at hthread
            exact ih hthread
      | @resume acting _ _ _ _ _ _ _ _ _ _ _ _ run =>
          by_cases htid : tid = acting
          · subst htid
            simp only [Function.update_self, Option.some.injEq, Thread.mk.injEq] at hthread
            exact run.yields hthread.2
          · simp only [Function.update_of_ne htid] at hthread
            exact ih hthread

theorem Stretch.tid_eq {tid : ℕ} {s s' : σ} {p rest : Program Q A R}
    {entries : List (Entry A σ J R)} (h : M.Stretch tid s p entries s' rest) :
    ∀ entry ∈ entries, entry.tid = tid := by
  induction h with
  | finish time => simp
  | suspend _ => simp
  | step _ _ _ _ ih =>
      intro entry hentry
      rcases List.mem_cons.mp hentry with rfl | hmem
      · rfl
      · exact ih entry hmem

theorem Stretch.actions {tid : ℕ} {s s' : σ} {p rest : Program Q A R}
    {entries : List (Entry A σ J R)} (h : M.Stretch tid s p entries s' rest) :
    ∃ trace, p.Reaches trace rest ∧
      actionsOf tid entries = trace.map .did ++ closing rest := by
  induction h with
  | finish time => exact ⟨[], .refl _, by simp [actionsOf, closing]⟩
  | suspend _ => exact ⟨[], .refl _, rfl⟩
  | @step _ _ _ _ q _ answer _ _ _ _ _ _ ih =>
      obtain ⟨trace, hreaches, hactions⟩ := ih
      refine ⟨⟨q, answer⟩ :: trace, .step answer hreaches, ?_⟩
      rw [actionsOf_cons_self (by rfl), hactions]
      rfl

/-- **A thread's entries are its program's path**: started once, then the
questions and answers leading to what is left, then, if nothing is left, the
result. -/
def Follows (M : Machine Q A σ J R) (c : Config A σ J R) (tid : ℕ) : Prop :=
  match c.threads tid with
  | none => actionsOf tid c.log = []
  | some thread => ∃ trace, (M.program thread.job).Reaches trace thread.rest ∧
      actionsOf tid c.log = .start thread.job :: (trace.map .did ++ closing thread.rest)

/-- A stretch of one thread leaves the entries of the others alone. -/
private theorem actionsOf_other {tid other : ℕ} (hne : other ≠ tid)
    (log : List (Entry A σ J R)) {entries : List (Entry A σ J R)}
    (hentries : ∀ entry ∈ entries, entry.tid = tid) :
    actionsOf other (log ++ entries) = actionsOf other log := by
  have hnil : actionsOf other entries = [] := actionsOf_eq_nil fun entry hentry heq =>
    hne (heq.symm.trans (hentries entry hentry))
  rw [actionsOf_append, hnil, List.append_nil]

theorem Reachable.follows {s : σ} {c : Config A σ J R} (h : M.Reachable s c) (tid : ℕ) :
    M.Follows c tid := by
  induction h with
  | init => exact rfl
  | @step c _ _ moved ih =>
      cases moved with
      | @spawn acting job s₀ s₁ entries rest fresh time run =>
          by_cases htid : tid = acting
          · subst htid
            have hnone : actionsOf tid c.log = [] := by simpa [Follows, fresh] using ih
            obtain ⟨trace, hreaches, hactions⟩ := run.actions
            simp only [Follows, Function.update_self]
            refine ⟨trace, hreaches, ?_⟩
            rw [actionsOf_append, hnone, List.nil_append, ← hactions]
            exact actionsOf_cons_self rfl entries
          · have hentries : ∀ entry ∈ (⟨acting, .start job, s₀, s₀⟩ :: entries :
                List (Entry A σ J R)), entry.tid = acting := by simpa using run.tid_eq
            have hsame := actionsOf_other htid c.log hentries
            simpa only [Follows, Function.update_of_ne htid, hsame] using ih
      | @resume acting job q resume answer s₀ s₁ s₂ entries rest suspended time answered run =>
          by_cases htid : tid = acting
          · subst htid
            simp only [Follows, suspended] at ih
            obtain ⟨past, hpast, hlog⟩ := ih
            obtain ⟨trace, hreaches, hactions⟩ := run.actions
            simp only [Follows, Function.update_self]
            refine ⟨past ++ ⟨q, answer⟩ :: trace, hpast.trans (.step answer hreaches), ?_⟩
            rw [actionsOf_append, hlog, actionsOf_cons_self (by rfl), hactions]
            simp [closing]
          · have hentries : ∀ entry ∈ (⟨acting, .did ⟨q, answer⟩, s₀, s₁⟩ :: entries :
                List (Entry A σ J R)), entry.tid = acting := by simpa using run.tid_eq
            have hsame := actionsOf_other htid c.log hentries
            simpa only [Follows, Function.update_of_ne htid, hsame] using ih

/-- A thread that has an entry in the log was started. -/
theorem Reachable.thread_of_mem {s : σ} {c : Config A σ J R} (h : M.Reachable s c)
    {entry : Entry A σ J R} (hmem : entry ∈ c.log) :
    ∃ thread, c.threads entry.tid = some thread := by
  have hfollows := h.follows entry.tid
  cases hthread : c.threads entry.tid with
  | some thread => exact ⟨thread, rfl⟩
  | none =>
      simp only [Follows, hthread] at hfollows
      have hentry : entry.action ∈ actionsOf entry.tid c.log :=
        List.mem_map_of_mem (List.mem_filter.mpr ⟨hmem, by simp⟩)
      simp [hfollows] at hentry

private theorem closing_filterMap (rest : Program Q A R) :
    (closing (J := J) rest).filterMap Action.event? = [] := by
  cases rest <;> rfl

/-- The trace of a thread is a path of its program. -/
theorem Reachable.reaches {s : σ} {c : Config A σ J R} (h : M.Reachable s c) {tid : ℕ}
    {thread : Thread Q A J R} (hthread : c.threads tid = some thread) :
    (M.program thread.job).Reaches (traceOf tid c.log) thread.rest := by
  have hfollows := h.follows tid
  simp only [Follows, hthread] at hfollows
  obtain ⟨trace, hreaches, hactions⟩ := hfollows
  have htrace : traceOf tid c.log = trace := by
    rw [traceOf, hactions, List.filterMap_cons_none (by rfl), List.filterMap_append,
      filterMap_event?_did, closing_filterMap, List.append_nil]
  rwa [htrace]

/-- A stretch leads along its own trace. -/
theorem Stretch.reaches {tid : ℕ} {s s' : σ} {p rest : Program Q A R}
    {entries : List (Entry A σ J R)} (h : M.Stretch tid s p entries s' rest) :
    p.Reaches (traceOf tid entries) rest := by
  obtain ⟨trace, hreaches, hactions⟩ := h.actions
  have htrace : traceOf tid entries = trace := by
    rw [traceOf, hactions, List.filterMap_append, filterMap_event?_did, closing_filterMap,
      List.append_nil]
  rwa [htrace]

/-- Where nothing gives up control, a stretch runs to the end. -/
theorem Stretch.returns {tid : ℕ} {s s' : σ} {p rest : Program Q A R}
    {entries : List (Entry A σ J R)} (h : M.Stretch tid s p entries s' rest)
    (hyields : ∀ q, ¬ M.yields q) : ∃ result, rest = .ret result := by
  cases hrest : rest with
  | ret result => exact ⟨result, rfl⟩
  | ask q resume => exact absurd (h.yields hrest) (hyields q)

theorem traceOf_split {tid : ℕ} {past future : List (Entry A σ J R)} {entry : Entry A σ J R}
    {event : Event A} (htid : entry.tid = tid) (haction : entry.action = .did event) :
    traceOf tid (past ++ entry :: future) = traceOf tid past ++ event :: traceOf tid future := by
  subst htid
  rw [traceOf_append]
  congr 1
  rw [traceOf, actionsOf_cons_self rfl, haction, List.filterMap_cons_some (by rfl)]
  rfl

/-- Around one of its entries, a thread's path runs through that entry's event. -/
theorem Reachable.reaches_split {s : σ} {c : Config A σ J R} (h : M.Reachable s c)
    {past future : List (Entry A σ J R)} {entry : Entry A σ J R} {event : Event A}
    (hlog : c.log = past ++ entry :: future) (haction : entry.action = .did event) :
    ∃ thread, c.threads entry.tid = some thread ∧
      (M.program thread.job).Reaches
        (traceOf entry.tid past ++ event :: traceOf entry.tid future) thread.rest := by
  have hmem : entry ∈ c.log := by simp [hlog]
  obtain ⟨thread, hthread⟩ := h.thread_of_mem hmem
  refine ⟨thread, hthread, ?_⟩
  have hreaches := h.reaches hthread
  rwa [hlog, traceOf_split rfl haction] at hreaches

/-- A thread has no entries before the one that starts it. -/
theorem Reachable.actionsOf_before_start {s : σ} {c : Config A σ J R} (h : M.Reachable s c)
    {past future : List (Entry A σ J R)} {entry : Entry A σ J R} {job : J}
    (hlog : c.log = past ++ entry :: future) (haction : entry.action = .start job) :
    actionsOf entry.tid past = [] := by
  have hfollows := h.follows entry.tid
  have hsplit : actionsOf entry.tid c.log =
      actionsOf entry.tid past ++ .start job :: actionsOf entry.tid future := by
    rw [hlog, actionsOf_append, actionsOf_cons_self rfl, haction]
  obtain ⟨thread, hthread⟩ := h.thread_of_mem (show entry ∈ c.log by simp [hlog])
  simp only [Follows, hthread] at hfollows
  obtain ⟨trace, _, hactions⟩ := hfollows
  rw [hsplit] at hactions
  cases hpast : actionsOf entry.tid past with
  | nil => rfl
  | cons head tail =>
      rw [hpast, List.cons_append, List.cons.injEq] at hactions
      have hmem : Action.start job ∈ trace.map Action.did ++ closing thread.rest := by
        rw [← hactions.2]
        simp
      rcases List.mem_append.mp hmem with hdid | hclosing
      · simp at hdid
      · cases hrest : thread.rest <;> simp [hrest, closing] at hclosing

/-- Before the entry that finishes it, a thread was started and ran its program to
the end. -/
theorem Reachable.actionsOf_before_finish {s : σ} {c : Config A σ J R} (h : M.Reachable s c)
    {past future : List (Entry A σ J R)} {entry : Entry A σ J R} {result : R}
    (hlog : c.log = past ++ entry :: future) (haction : entry.action = .finish result) :
    ∃ job trace, actionsOf entry.tid past = .start job :: trace.map .did ∧
      (M.program job).Exec trace result := by
  have hfollows := h.follows entry.tid
  have hsplit : actionsOf entry.tid c.log =
      actionsOf entry.tid past ++ .finish result :: actionsOf entry.tid future := by
    rw [hlog, actionsOf_append, actionsOf_cons_self rfl, haction]
  obtain ⟨thread, hthread⟩ := h.thread_of_mem (show entry ∈ c.log by simp [hlog])
  simp only [Follows, hthread] at hfollows
  obtain ⟨trace, hreaches, hactions⟩ := hfollows
  rw [hsplit, ← List.cons_append] at hactions
  have hne : ∀ action ∈ (Action.start thread.job :: trace.map Action.did : List (Action A J R)),
      action ≠ .finish result := by simp
  cases hrest : thread.rest with
  | ask q resume =>
      rw [hrest, closing, List.append_nil] at hactions
      exact absurd rfl (hne (.finish result) (by rw [← hactions]; simp))
  | ret value =>
      rw [hrest, closing] at hactions
      rcases List.append_eq_append_iff.mp hactions with ⟨gap, hgap, htail⟩ | ⟨gap, hgap, htail⟩
      · cases gap with
        | nil =>
            rw [List.append_nil] at hgap
            simp only [List.nil_append, List.cons.injEq, Action.finish.injEq] at htail
            refine ⟨thread.job, trace, hgap.symm, ?_⟩
            rw [htail.1, Program.Exec, ← hrest]
            exact hreaches
        | cons head gap =>
            rw [List.cons_append, List.cons.injEq] at htail
            exact absurd htail.1.symm (hne head (by rw [hgap]; simp))
      · cases gap with
        | nil =>
            rw [List.append_nil] at hgap
            simp only [List.nil_append, List.cons.injEq, Action.finish.injEq] at htail
            refine ⟨thread.job, trace, hgap, ?_⟩
            rw [← htail.1, Program.Exec, ← hrest]
            exact hreaches
        | cons head gap => simp at htail

/-! ## Stretches are not interrupted -/

/-- What one step adds to the log: entries of one thread, of which the first starts
it or answers the question at which it had given up control. -/
theorem Step.block {s : σ} {c c' : Config A σ J R} (reached : M.Reachable s c)
    (moved : M.Step c c') :
    ∃ acting head entries, c'.log = c.log ++ head :: entries ∧
      (∀ entry ∈ head :: entries, entry.tid = acting) ∧
      ((∀ entry ∈ c.log, entry.tid ≠ acting) ∨
        ∃ event, head.action = .did event ∧ M.yields event.query) := by
  cases moved with
  | @spawn acting job s₀ s₁ entries rest fresh time run =>
      refine ⟨acting, _, _, rfl, by simpa using run.tid_eq, .inl fun entry hmem htid => ?_⟩
      obtain ⟨thread, hthread⟩ := reached.thread_of_mem hmem
      rw [htid, fresh] at hthread
      cases hthread
  | @resume acting job q resume answer s₀ s₁ s₂ entries rest suspended time answered run =>
      exact ⟨acting, _, _, rfl, by simpa using run.tid_eq,
        .inr ⟨_, rfl, reached.yields suspended⟩⟩

/-- **A thread that does not give up control is not interrupted**: between two of
its entries, the second reached without giving up control, all entries are its own. -/
theorem Reachable.uninterrupted {s : σ} {c : Config A σ J R} (h : M.Reachable s c)
    {past middle future : List (Entry A σ J R)} {first last : Entry A σ J R}
    (hlog : c.log = past ++ first :: (middle ++ last :: future)) (htid : last.tid = first.tid)
    (hcoop : ∀ entry ∈ middle ++ [last], entry.tid = first.tid →
      ∀ event, entry.action = .did event → ¬ M.yields event.query) :
    ∀ entry ∈ middle, entry.tid = first.tid := by
  induction h generalizing future with
  | init => simp [initial] at hlog
  | @step c c' reached moved ih =>
      obtain ⟨acting, head, entries, hblock, hacting, hhead⟩ := moved.block reached
      have hcut : (past ++ first :: middle ++ [last]) ++ future = c.log ++ head :: entries := by
        rw [← hblock, hlog]
        simp
      rcases List.append_eq_append_iff.mp hcut with ⟨more, hold, _⟩ | ⟨block, hold, hnew⟩
      · have hmore : c.log = past ++ first :: (middle ++ last :: more) := by simpa using hold
        exact ih hmore
      rcases List.eq_nil_or_concat block with rfl | ⟨block, final, rfl⟩
      · have hend : c.log = past ++ first :: (middle ++ last :: []) := by simpa using hold.symm
        exact ih hend
      -- The second entry is in the new block, so its thread is the one that acted.
      rw [List.concat_eq_append] at hold hnew
      rw [← List.append_assoc] at hold
      obtain ⟨hinit, hfinal⟩ := List.append_inj' hold rfl
      obtain rfl : last = final := by simpa using hfinal
      have hown : acting = first.tid := by
        rw [← htid]
        exact (hacting last (by rw [hnew]; simp)).symm
      have hblockTid : ∀ entry ∈ block, entry.tid = first.tid := fun entry hmem => by
        rw [← hown]
        exact hacting entry (by rw [hnew]; simp [hmem])
      rcases List.append_eq_append_iff.mp hinit with ⟨old, hpast, hmid⟩ | ⟨before, _, hmid⟩
      · cases old with
        | nil =>
            intro entry hmem
            refine hblockTid entry ?_
            rw [List.nil_append] at hmid
            exact hmid ▸ List.mem_cons_of_mem _ hmem
        | cons other old =>
            -- The first entry is in the old log, so the block resumes its thread, and
            -- resuming answers a question that gave up control.
            obtain ⟨rfl, hmiddle⟩ := List.cons.inj hmid
            have hheadMem : head ∈ middle ++ [last] := by
              cases block with
              | nil =>
                  obtain ⟨rfl, _⟩ := List.cons.inj hnew
                  simp
              | cons first' block =>
                  obtain ⟨rfl, _⟩ := List.cons.inj hnew
                  simp [hmiddle]
            rcases hhead with hfresh | ⟨event, hevent, hyields⟩
            · exact absurd hown.symm (hfresh first (by rw [hpast]; simp))
            · have htidHead : head.tid = first.tid :=
                (hacting head List.mem_cons_self).trans hown
              exact absurd hyields (hcoop head hheadMem htidHead event hevent)
      · intro entry hmem
        exact hblockTid entry (by rw [hmid]; simp [hmem])

end Machine

end Foundation
