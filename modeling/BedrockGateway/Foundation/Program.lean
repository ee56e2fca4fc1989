/-
# Programs that question their environment

A program is a tree: it has returned a value, or it is asking a question and
will go on once the question is answered. Nothing is said about who answers.
The components of a system, the outside world and the clock are all on the other
side of a question, so one program has one meaning under every scheduler and
every behaviour of its environment.

What a program does is the trace of questions and answers along a path through
its tree. `Reaches` follows a path for as long as one likes, `Exec` to its end.
Programs that can raise are programs returning `Except`, through the standard
exception transformer. The rules below read a trace of a composite program as
the traces of its parts, and `Only` bounds the questions a program may ask, which
is what lets a proof discard the parts that cannot have produced an event.
-/

import Mathlib.Data.List.Basic

namespace Foundation

universe u v

/-- A question together with the answer it received. -/
structure Event {Q : Type u} (A : Q → Type v) where
  /-- What was asked. -/
  query : Q
  /-- What came back. -/
  answer : A query

/-- A computation that may ask questions `q : Q`, each answered in `A q`. -/
inductive Program (Q : Type u) (A : Q → Type v) (α : Type v)
  | ret (value : α)
  | ask (query : Q) (resume : A query → Program Q A α)

namespace Program

variable {Q : Type u} {A : Q → Type v} {α β ε : Type v}

/-- Run one program, then the program chosen by its value. -/
def bind (p : Program Q A α) (f : α → Program Q A β) : Program Q A β :=
  match p with
  | .ret value => f value
  | .ask query resume => .ask query fun answer => (resume answer).bind f

instance : Monad (Program Q A) where
  pure := .ret
  bind := .bind

theorem bind_assoc {γ : Type v} (p : Program Q A α) (f : α → Program Q A β)
    (g : β → Program Q A γ) : (p.bind f).bind g = p.bind fun value => (f value).bind g := by
  induction p with
  | ret value => rfl
  | ask query resume ih =>
      simp only [bind]
      congr 1
      funext answer
      exact ih answer

/-- Ask one question and return its answer. -/
def query (q : Q) : Program Q A (A q) := .ask q .ret

/-- Answer every question by running a program that asks other questions. -/
def expand {Q' : Type u} {A' : Q' → Type v} (f : (q : Q) → Program Q' A' (A q)) :
    Program Q A α → Program Q' A' α
  | .ret value => .ret value
  | .ask query resume => (f query).bind fun answer => (resume answer).expand f

/-! ## Paths -/

/-- Answering the questions of `p` as in the trace leads to the remaining program. -/
inductive Reaches : Program Q A α → List (Event A) → Program Q A α → Prop
  | /-- No question has been answered yet. -/
    refl (p : Program Q A α) : Reaches p [] p
  | /-- One question is answered, then the rest of the trace. -/
    step {q : Q} {resume : A q → Program Q A α} {trace : List (Event A)}
      {rest : Program Q A α} (answer : A q) (tail : Reaches (resume answer) trace rest) :
      Reaches (.ask q resume) (⟨q, answer⟩ :: trace) rest

/-- The trace leads all the way to a returned value. -/
def Exec (p : Program Q A α) (trace : List (Event A)) (value : α) : Prop :=
  Reaches p trace (.ret value)

theorem reaches_nil_iff {p rest : Program Q A α} : Reaches p [] rest ↔ rest = p := by
  refine ⟨fun h => ?_, fun h => h ▸ .refl _⟩
  cases h
  rfl

theorem reaches_ret_iff {value : α} {trace : List (Event A)} {rest : Program Q A α} :
    Reaches (.ret value) trace rest ↔ trace = [] ∧ rest = .ret value := by
  refine ⟨fun h => ?_, fun ⟨htrace, hrest⟩ => htrace ▸ hrest ▸ .refl _⟩
  cases h
  exact ⟨rfl, rfl⟩

theorem reaches_ask_cons_iff {q : Q} {resume : A q → Program Q A α} {event : Event A}
    {trace : List (Event A)} {rest : Program Q A α} :
    Reaches (.ask q resume) (event :: trace) rest ↔
      ∃ answer, event = ⟨q, answer⟩ ∧ Reaches (resume answer) trace rest := by
  constructor
  · intro h
    cases h with
    | step answer tail => exact ⟨answer, rfl, tail⟩
  · rintro ⟨answer, rfl, tail⟩
    exact .step answer tail

theorem exec_ret_iff {value result : α} {trace : List (Event A)} :
    Exec (.ret value) trace result ↔ trace = [] ∧ result = value := by
  simp [Exec, reaches_ret_iff]

theorem exec_ask_iff {q : Q} {resume : A q → Program Q A α} {trace : List (Event A)}
    {result : α} :
    Exec (.ask q resume) trace result ↔
      ∃ answer tail, trace = ⟨q, answer⟩ :: tail ∧ Exec (resume answer) tail result := by
  constructor
  · intro h
    cases h with
    | step answer tail => exact ⟨answer, _, rfl, tail⟩
  · rintro ⟨answer, tail, rfl, h⟩
    exact .step answer h

/-- Paths compose. -/
theorem Reaches.trans {p middle rest : Program Q A α} {first second : List (Event A)}
    (hfirst : Reaches p first middle) (hsecond : Reaches middle second rest) :
    Reaches p (first ++ second) rest := by
  induction hfirst with
  | refl => exact hsecond
  | step answer _ ih => exact .step answer (ih hsecond)

/-- A path through a composite program is still inside the first part, or has
completed it and is inside the continuation. -/
theorem reaches_bind {p : Program Q A α} {f : α → Program Q A β} {trace : List (Event A)}
    {rest : Program Q A β} (h : Reaches (p.bind f) trace rest) :
    (∃ middle, Reaches p trace middle ∧ rest = middle.bind f) ∨
      ∃ first second value, trace = first ++ second ∧ Exec p first value ∧
        Reaches (f value) second rest := by
  induction p generalizing trace with
  | ret value => exact .inr ⟨[], trace, value, rfl, .refl _, h⟩
  | ask q resume ih =>
      cases h with
      | refl => exact .inl ⟨.ask q resume, .refl _, rfl⟩
      | step answer tail =>
          rcases ih answer tail with ⟨middle, hmiddle, hrest⟩ | ⟨first, second, value, rfl, hp, hf⟩
          · exact .inl ⟨middle, .step answer hmiddle, hrest⟩
          · exact .inr ⟨_ :: first, second, value, rfl, .step answer hp, hf⟩

theorem Reaches.bind {p middle : Program Q A α} {trace : List (Event A)}
    (h : Reaches p trace middle) (f : α → Program Q A β) :
    Reaches (p.bind f) trace (middle.bind f) := by
  induction h with
  | refl => exact .refl _
  | step answer _ ih => exact .step answer ih

theorem exec_bind_iff {p : Program Q A α} {f : α → Program Q A β} {trace : List (Event A)}
    {result : β} :
    Exec (p.bind f) trace result ↔
      ∃ first second value, trace = first ++ second ∧ Exec p first value ∧
        Exec (f value) second result := by
  constructor
  · intro h
    rcases reaches_bind h with ⟨middle, hmiddle, hrest⟩ | h
    · cases middle with
      | ret value => exact ⟨trace, [], value, (List.append_nil _).symm, hmiddle,
          reaches_nil_iff.mpr hrest⟩
      | ask q resume => cases hrest
    · exact h
  · rintro ⟨first, second, value, rfl, hp, hf⟩
    exact (hp.bind f).trans hf

/-! ## Footprints -/

/-- Every question on every path of the program satisfies `C`. -/
def Only (C : Q → Prop) : Program Q A α → Prop
  | .ret _ => True
  | .ask q resume => C q ∧ ∀ answer, (resume answer).Only C

theorem Only.bind {C : Q → Prop} {p : Program Q A α} {f : α → Program Q A β}
    (hp : p.Only C) (hf : ∀ value, (f value).Only C) : (p.bind f).Only C := by
  induction p with
  | ret value => exact hf value
  | ask q resume ih => exact ⟨hp.1, fun answer => ih answer (hp.2 answer)⟩

theorem Only.mono {C D : Q → Prop} {p : Program Q A α} (hp : p.Only C)
    (himp : ∀ q, C q → D q) : p.Only D := by
  induction p with
  | ret value => trivial
  | ask q resume ih => exact ⟨himp q hp.1, fun answer => ih answer (hp.2 answer)⟩

/-- A footprint bounds every trace and is inherited by what remains. -/
theorem Only.reaches {C : Q → Prop} {p rest : Program Q A α} {trace : List (Event A)}
    (hp : p.Only C) (h : Reaches p trace rest) :
    (∀ event ∈ trace, C event.query) ∧ rest.Only C := by
  induction h with
  | refl => exact ⟨by simp, hp⟩
  | step answer _ ih =>
      obtain ⟨htrace, hrest⟩ := ih (hp.2 answer)
      refine ⟨fun event hevent => ?_, hrest⟩
      rcases List.mem_cons.mp hevent with rfl | hmem
      · exact hp.1
      · exact htrace event hmem

end Program

/-! ## Programs that can raise -/

/-- A program that returns a value or raises an exception. -/
abbrev Fallible (Q : Type u) (A : Q → Type v) (ε α : Type v) : Type _ :=
  ExceptT ε (Program Q A) α

namespace Fallible

open Program

variable {Q : Type u} {A : Q → Type v} {α β ε : Type v}

/-- Ask a question whose answer is a plain value. -/
def ask (q : Q) : Fallible Q A ε (A q) :=
  ExceptT.mk (.ask q fun answer => .ret (.ok answer))

/-- Run a program to its outcome without letting its exception escape, so that
the caller can tell the two apart: the body of a `try` statement. -/
def attempt (x : Fallible Q A ε α) : Fallible Q A ε (Except ε α) :=
  ExceptT.mk (x.run.bind fun outcome => .ret (.ok outcome))

/-- The exception transformer's bind, spelled out: an exception skips the rest. -/
theorem run_bind (x : Fallible Q A ε α) (f : α → Fallible Q A ε β) :
    (x >>= f).run = x.run.bind fun
      | .ok value => (f value).run
      | .error exn => .ret (.error exn) := by
  show Program.bind x (ExceptT.bindCont f) = _
  congr 1
  funext outcome
  cases outcome <;> rfl

/-- What follows an attempt is handed its outcome. -/
theorem run_attempt_bind (x : Fallible Q A ε α) (f : Except ε α → Fallible Q A ε β) :
    (attempt x >>= f).run = x.run.bind fun outcome => (f outcome).run := by
  rw [run_bind]
  exact Program.bind_assoc _ _ _

theorem exec_pure_iff {value : α} {trace : List (Event A)} {result : Except ε α} :
    Exec (pure value : Fallible Q A ε α).run trace result ↔ trace = [] ∧ result = .ok value :=
  exec_ret_iff

theorem exec_throw_iff {exn : ε} {trace : List (Event A)} {result : Except ε α} :
    Exec (throw exn : Fallible Q A ε α).run trace result ↔ trace = [] ∧ result = .error exn :=
  exec_ret_iff

theorem exec_ask_iff {q : Q} {trace : List (Event A)} {result : Except ε (A q)} :
    Exec (ask q : Fallible Q A ε (A q)).run trace result ↔
      ∃ answer, trace = [⟨q, answer⟩] ∧ result = .ok answer := by
  constructor
  · intro h
    obtain ⟨answer, tail, rfl, htail⟩ := Program.exec_ask_iff.mp h
    obtain ⟨rfl, rfl⟩ := exec_ret_iff.mp htail
    exact ⟨answer, rfl, rfl⟩
  · rintro ⟨answer, rfl, rfl⟩
    exact .step answer (.refl _)

theorem exec_attempt_iff {x : Fallible Q A ε α} {trace : List (Event A)}
    {result : Except ε (Except ε α)} :
    Exec (attempt x).run trace result ↔ ∃ outcome, Exec x.run trace outcome ∧
      result = .ok outcome := by
  constructor
  · intro h
    obtain ⟨first, second, outcome, rfl, hx, hret⟩ := Program.exec_bind_iff.mp h
    obtain ⟨rfl, rfl⟩ := exec_ret_iff.mp hret
    exact ⟨outcome, by simpa using hx, rfl⟩
  · rintro ⟨outcome, hx, rfl⟩
    exact Program.exec_bind_iff.mpr ⟨trace, [], outcome, by simp, hx, .refl _⟩

/-- A completed composite program raised in its first part, or returned a value
from it and completed the continuation. -/
theorem exec_bind_iff {x : Fallible Q A ε α} {f : α → Fallible Q A ε β}
    {trace : List (Event A)} {result : Except ε β} :
    Exec (x >>= f).run trace result ↔
      (∃ exn, Exec x.run trace (.error exn) ∧ result = .error exn) ∨
        ∃ first second value, trace = first ++ second ∧ Exec x.run first (.ok value) ∧
          Exec (f value).run second result := by
  rw [run_bind, Program.exec_bind_iff]
  constructor
  · rintro ⟨first, second, outcome, rfl, hx, hrest⟩
    cases outcome with
    | error exn =>
        obtain ⟨rfl, rfl⟩ := exec_ret_iff.mp hrest
        exact .inl ⟨exn, by simpa using hx, rfl⟩
    | ok value => exact .inr ⟨first, second, value, rfl, hx, hrest⟩
  · rintro (⟨exn, hx, rfl⟩ | ⟨first, second, value, rfl, hx, hf⟩)
    · exact ⟨trace, [], .error exn, by simp, hx, .refl _⟩
    · exact ⟨first, second, .ok value, rfl, hx, hf⟩

theorem Only.pure {C : Q → Prop} (value : α) :
    Only C (pure value : Fallible Q A ε α).run := trivial

theorem Only.throw {C : Q → Prop} (exn : ε) :
    Only C (throw exn : Fallible Q A ε α).run := trivial

theorem Only.ask {C : Q → Prop} {q : Q} (hq : C q) :
    Only C (ask q : Fallible Q A ε (A q)).run := ⟨hq, fun _ => trivial⟩

theorem Only.bind {C : Q → Prop} {x : Fallible Q A ε α} {f : α → Fallible Q A ε β}
    (hx : Only C x.run) (hf : ∀ value, Only C (f value).run) : Only C (x >>= f).run := by
  rw [run_bind]
  refine Program.Only.bind hx fun outcome => ?_
  cases outcome with
  | ok value => exact hf value
  | error exn => trivial

/-- A value at hand is passed on. -/
theorem Only.pure_bind {C : Q → Prop} {value : α} {f : α → Fallible Q A ε β}
    (hf : Only C (f value).run) : Only C (Pure.pure value >>= f : Fallible Q A ε β).run := hf

theorem Only.attempt {C : Q → Prop} {x : Fallible Q A ε α} (hx : Only C x.run) :
    Only C (attempt x).run :=
  Program.Only.bind hx fun _ => trivial

end Fallible

end Foundation
