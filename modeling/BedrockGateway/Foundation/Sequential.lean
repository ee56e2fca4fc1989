/-
# Programs that run alone

A component that nothing interrupts can be run on a state that answers its
questions. A trace fits a state if every answer in it is one the state may give,
the state changing along the way. Running a program on an answering state gives
such a trace.
-/

import BedrockGateway.Foundation.Program

namespace Foundation

universe u v w

namespace Program

variable {Q : Type u} {A : Q → Type v} {σ : Type w} {α : Type v}

/-- The trace leads from one state to the other, each answer given by the state it is
asked in. -/
def Threaded (sem : σ → (q : Q) → A q → σ → Prop) : σ → List (Event A) → σ → Prop
  | s, [], s' => s' = s
  | s, event :: trace, s' =>
      ∃ next, sem s event.query event.answer next ∧ Threaded sem next trace s'

variable {sem : σ → (q : Q) → A q → σ → Prop}

theorem threaded_append {s s' : σ} {first second : List (Event A)} :
    Threaded sem s (first ++ second) s' ↔
      ∃ middle, Threaded sem s first middle ∧ Threaded sem middle second s' := by
  induction first generalizing s with
  | nil => simp [Threaded]
  | cons event first ih =>
      simp only [List.cons_append, Threaded, ih]
      constructor
      · rintro ⟨next, hanswer, middle, hfirst, hsecond⟩
        exact ⟨middle, ⟨next, hanswer, hfirst⟩, hsecond⟩
      · rintro ⟨middle, ⟨next, hanswer, hfirst⟩, hsecond⟩
        exact ⟨next, hanswer, middle, hfirst, hsecond⟩

theorem threaded_single {s s' : σ} {event : Event A} :
    Threaded sem s [event] s' ↔ sem s event.query event.answer s' := by
  simp [Threaded]

/-- Run a program on a state that answers its questions: the trace, what it returns and
the state it leaves. -/
def runOn (respond : σ → (q : Q) → A q × σ) : Program Q A α → σ → List (Event A) × α × σ
  | .ret value, s => ([], value, s)
  | .ask q resume, s =>
      let answered := respond s q
      let rest := (resume answered.1).runOn respond answered.2
      (⟨q, answered.1⟩ :: rest.1, rest.2)

/-- A run is an execution. -/
theorem exec_runOn (respond : σ → (q : Q) → A q × σ) (p : Program Q A α) (s : σ) :
    p.Exec (p.runOn respond s).1 (p.runOn respond s).2.1 := by
  induction p generalizing s with
  | ret value => exact .refl _
  | ask q resume ih => exact .step (respond s q).1 (ih (respond s q).1 (respond s q).2)

/-- Its trace fits the states. -/
theorem threaded_runOn {respond : σ → (q : Q) → A q × σ}
    (hsem : ∀ s q, sem s q (respond s q).1 (respond s q).2) (p : Program Q A α) (s : σ) :
    Threaded sem s (p.runOn respond s).1 (p.runOn respond s).2.2 := by
  induction p generalizing s with
  | ret value => rfl
  | ask q resume ih =>
      exact ⟨(respond s q).2, hsem s q, ih (respond s q).1 (respond s q).2⟩

end Program

/-! ## Programs that can raise -/

namespace Fallible

open Program

variable {Q : Type u} {A : Q → Type v} {σ : Type w} {α β ε : Type v}

/-- The program runs from one state to the other, with this trace and this outcome. -/
def Ran (sem : σ → (q : Q) → A q → σ → Prop) (x : Fallible Q A ε α) (s : σ)
    (trace : List (Event A)) (outcome : Except ε α) (s' : σ) : Prop :=
  Exec x.run trace outcome ∧ Threaded sem s trace s'

variable {sem : σ → (q : Q) → A q → σ → Prop} {s s' : σ} {trace : List (Event A)}

theorem ran_pure_iff {value : α} {outcome : Except ε α} :
    Ran sem (pure value : Fallible Q A ε α) s trace outcome s' ↔
      trace = [] ∧ outcome = .ok value ∧ s' = s := by
  unfold Ran
  rw [exec_pure_iff]
  constructor
  · rintro ⟨⟨rfl, rfl⟩, hend⟩
    exact ⟨rfl, rfl, hend⟩
  · rintro ⟨rfl, rfl, rfl⟩
    exact ⟨⟨rfl, rfl⟩, rfl⟩

theorem ran_throw_iff {exn : ε} {outcome : Except ε α} :
    Ran sem (throw exn : Fallible Q A ε α) s trace outcome s' ↔
      trace = [] ∧ outcome = .error exn ∧ s' = s := by
  unfold Ran
  rw [exec_throw_iff]
  constructor
  · rintro ⟨⟨rfl, rfl⟩, hend⟩
    exact ⟨rfl, rfl, hend⟩
  · rintro ⟨rfl, rfl, rfl⟩
    exact ⟨⟨rfl, rfl⟩, rfl⟩

theorem ran_ask_iff {q : Q} {outcome : Except ε (A q)} :
    Ran sem (ask q : Fallible Q A ε (A q)) s trace outcome s' ↔
      ∃ answer, trace = [⟨q, answer⟩] ∧ outcome = .ok answer ∧ sem s q answer s' := by
  unfold Ran
  rw [exec_ask_iff]
  constructor
  · rintro ⟨⟨answer, rfl, rfl⟩, hthread⟩
    exact ⟨answer, rfl, rfl, threaded_single.mp hthread⟩
  · rintro ⟨answer, rfl, rfl, hanswer⟩
    exact ⟨⟨answer, rfl, rfl⟩, threaded_single.mpr hanswer⟩

/-- What follows a question runs from the state its answer leaves. -/
theorem ran_ask_bind_iff {q : Q} {f : A q → Fallible Q A ε β} {outcome : Except ε β} :
    Ran sem (ask q >>= f) s trace outcome s' ↔
      ∃ answer next tail, trace = ⟨q, answer⟩ :: tail ∧ sem s q answer next ∧
        Ran sem (f answer) next tail outcome s' := by
  constructor
  · rintro ⟨hexec, hthread⟩
    obtain ⟨answer, tail, rfl, hrest⟩ := Program.exec_ask_iff.mp hexec
    obtain ⟨next, hanswer, htail⟩ := hthread
    exact ⟨answer, next, tail, rfl, hanswer, hrest, htail⟩
  · rintro ⟨answer, next, tail, rfl, hanswer, hrest, htail⟩
    exact ⟨Program.exec_ask_iff.mpr ⟨answer, tail, rfl, hrest⟩, next, hanswer, htail⟩

/-- A composite program raised in its first part, or went on from the state that left. -/
theorem ran_bind_iff {x : Fallible Q A ε α} {f : α → Fallible Q A ε β} {outcome : Except ε β} :
    Ran sem (x >>= f) s trace outcome s' ↔
      (∃ exn, Ran sem x s trace (.error exn) s' ∧ outcome = .error exn) ∨
        ∃ first second value middle, trace = first ++ second ∧
          Ran sem x s first (.ok value) middle ∧ Ran sem (f value) middle second outcome s' := by
  unfold Ran
  rw [exec_bind_iff]
  constructor
  · rintro ⟨⟨exn, hraised, rfl⟩ | ⟨first, second, value, rfl, hfirst, hsecond⟩, hthread⟩
    · exact .inl ⟨exn, ⟨hraised, hthread⟩, rfl⟩
    · obtain ⟨middle, hthread, hthread'⟩ := threaded_append.mp hthread
      exact .inr ⟨first, second, value, middle, rfl, ⟨hfirst, hthread⟩, hsecond, hthread'⟩
  · rintro (⟨exn, ⟨hraised, hthread⟩, rfl⟩ |
      ⟨first, second, value, middle, rfl, ⟨hfirst, hthread⟩, hsecond, hthread'⟩)
    · exact ⟨.inl ⟨exn, hraised, rfl⟩, hthread⟩
    · exact ⟨.inr ⟨first, second, value, rfl, hfirst, hsecond⟩,
        threaded_append.mpr ⟨middle, hthread, hthread'⟩⟩

end Fallible

end Foundation
