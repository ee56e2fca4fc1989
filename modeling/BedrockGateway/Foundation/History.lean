/-
# Obligations along the paths of a program

`Along` walks a program forwards with the history of its events. Every event owes
an obligation that may mention the history before it, and a returned value owes
one that may mention the whole history. A stage that asks only questions without
obligations is stepped over in one go, leaving behind what is known of its trace:
that it ran to its end, and that nothing outside its footprint happened.

The obligations then hold of every path, complete or not, and so of every thread
of every run.
-/

import BedrockGateway.Foundation.Scheduler

namespace Foundation

universe u v

namespace Program

variable {Q : Type u} {A : Q → Type v} {α β ε : Type v}

/-- From a history on, every event meets `Φ` and every returned value meets `post`. -/
def Along (Φ : List (Event A) → Event A → Prop) (post : List (Event A) → α → Prop) :
    Program Q A α → List (Event A) → Prop
  | .ret value, history => post history value
  | .ask q resume, history => ∀ answer, Φ history ⟨q, answer⟩ ∧
      Along Φ post (resume answer) (history ++ [⟨q, answer⟩])

variable {Φ : List (Event A) → Event A → Prop} {history : List (Event A)}

theorem Along.bind {p : Program Q A α} {f : α → Program Q A β}
    {post : List (Event A) → β → Prop}
    (h : Along Φ (fun history value => Along Φ post (f value) history) p history) :
    Along Φ post (p.bind f) history := by
  induction p generalizing history with
  | ret value => exact h
  | ask q resume ih =>
      intro answer
      obtain ⟨hΦ, htail⟩ := h answer
      exact ⟨hΦ, ih answer htail⟩

theorem Along.mono {p : Program Q A α} {post post' : List (Event A) → α → Prop}
    (h : Along Φ post p history)
    (himp : ∀ history value, post history value → post' history value) :
    Along Φ post' p history := by
  induction p generalizing history with
  | ret value => exact himp history value h
  | ask q resume ih =>
      intro answer
      obtain ⟨hΦ, htail⟩ := h answer
      exact ⟨hΦ, ih answer htail⟩

/-- A walk under a stricter obligation. -/
theorem Along.weaken {Ψ : List (Event A) → Event A → Prop} {p : Program Q A α}
    {post : List (Event A) → α → Prop} (h : Along Φ post p history)
    (himp : ∀ history event, Φ history event → Ψ history event) : Along Ψ post p history := by
  induction p generalizing history with
  | ret value => exact h
  | ask q resume ih =>
      intro answer
      obtain ⟨hΦ, htail⟩ := h answer
      exact ⟨himp _ _ hΦ, ih answer htail⟩

/-- **Keeping a property of the history.** A program whose events keep it walks within it. -/
theorem Along.keeping {C : Event A → Prop} {P : List (Event A) → Prop} {onEnd : α → Prop}
    {p : Program Q A α} (h : Along (fun _ event => C event) (fun _ value => onEnd value) p history)
    (hkeep : ∀ history event, P history → C event → P (history ++ [event])) (hP : P history) :
    Along (fun history event => P history ∧ C event)
      (fun history value => P history ∧ onEnd value) p history := by
  induction p generalizing history with
  | ret value => exact ⟨hP, h⟩
  | ask q resume ih =>
      intro answer
      obtain ⟨hC, htail⟩ := h answer
      exact ⟨⟨hP, hC⟩, ih answer htail (hkeep history ⟨q, answer⟩ hP hC)⟩

/-- A property every event keeps holds wherever the walk has come to. -/
theorem Along.reached {P : List (Event A) → Prop} {p rest : Program Q A α}
    {post : List (Event A) → α → Prop} {trace : List (Event A)}
    (h : Along (fun history event => P (history ++ [event])) post p history) (hP : P history)
    (hreaches : Reaches p trace rest) : P (history ++ trace) := by
  induction trace generalizing p history with
  | nil => rwa [List.append_nil]
  | cons head trace ih =>
      cases hreaches with
      | step answer tail => simpa using ih (h answer).2 (h answer).1 tail

/-- **Stepping over a stage.** -/
theorem Along.of_only {C : Q → Prop} {p : Program Q A α} {post : List (Event A) → α → Prop}
    (hp : p.Only C) (hΦ : ∀ q, C q → ∀ history answer, Φ history ⟨q, answer⟩)
    (hpost : ∀ trace value, Exec p trace value → (∀ event ∈ trace, C event.query) →
      post (history ++ trace) value) :
    Along Φ post p history := by
  induction p generalizing history with
  | ret value =>
      have hend := hpost [] value (.refl _) (by simp)
      rw [List.append_nil] at hend
      exact hend
  | ask q resume ih =>
      intro answer
      refine ⟨hΦ q hp.1 history answer, ih answer (hp.2 answer) fun trace value hexec hmem => ?_⟩
      have hcons : ∀ event ∈ (⟨q, answer⟩ :: trace : List (Event A)), C event.query := by
        intro event hevent
        rcases List.mem_cons.mp hevent with rfl | htrace
        · exact hp.1
        · exact hmem event htrace
      simpa using hpost (⟨q, answer⟩ :: trace) value (.step answer hexec) hcons

/-- A walk whose obligations are about questions alone, if there are answers to them. -/
theorem Along.only {C : Q → Prop} (world : (q : Q) → A q) {p : Program Q A α}
    {post : List (Event A) → α → Prop} (h : Along (fun _ event => C event.query) post p history) :
    p.Only C := by
  induction p generalizing history with
  | ret value => trivial
  | ask q resume ih => exact ⟨(h (world q)).1, fun answer => ih answer (h answer).2⟩

/-- A walk also knows the path it took. -/
theorem Along.traced {p : Program Q A α} {post : List (Event A) → α → Prop}
    (h : Along Φ post p history) :
    Along Φ (fun history' value => post history' value ∧
      ∃ trace, history' = history ++ trace ∧ Exec p trace value) p history := by
  induction p generalizing history with
  | ret value => exact ⟨h, [], (List.append_nil _).symm, .refl _⟩
  | ask q resume ih =>
      intro answer
      obtain ⟨hΦ, htail⟩ := h answer
      refine ⟨hΦ, (ih answer htail).mono fun history' value hend => ⟨hend.1, ?_⟩⟩
      obtain ⟨trace, rfl, hexec⟩ := hend.2
      exact ⟨⟨q, answer⟩ :: trace, by simp, .step answer hexec⟩

/-- The obligation of an event holds on every path through it. -/
theorem Along.reaches {p rest : Program Q A α} {post : List (Event A) → α → Prop}
    {before after : List (Event A)} {event : Event A} (h : Along Φ post p history)
    (hreaches : Reaches p (before ++ event :: after) rest) : Φ (history ++ before) event := by
  induction before generalizing p history with
  | nil =>
      cases hreaches with
      | step answer tail => simpa using (h answer).1
  | cons head before ih =>
      cases hreaches with
      | step answer tail =>
          have htail := ih (h answer).2 tail
          simpa using htail

/-- The obligation of a returned value holds at the end of every path. -/
theorem Along.exec {p : Program Q A α} {post : List (Event A) → α → Prop}
    {trace : List (Event A)} {value : α} (h : Along Φ post p history)
    (hexec : Exec p trace value) : post (history ++ trace) value := by
  induction trace generalizing p history with
  | nil =>
      cases hexec
      simpa [Along] using h
  | cons head trace ih =>
      cases hexec with
      | step answer tail => simpa using ih (h answer).2 tail

end Program

namespace Fallible

open Program

variable {Q : Type u} {A : Q → Type v} {α β ε : Type v}
variable {Φ : List (Event A) → Event A → Prop} {history : List (Event A)}

/-- A postcondition for programs that can raise, from one for each outcome. -/
def either (onValue : List (Event A) → α → Prop) (onExn : List (Event A) → ε → Prop)
    (history : List (Event A)) : Except ε α → Prop
  | .ok value => onValue history value
  | .error exn => onExn history exn

theorem Along.ask {q : Q} {post : List (Event A) → Except ε (A q) → Prop}
    (h : ∀ answer, Φ history ⟨q, answer⟩ ∧ post (history ++ [⟨q, answer⟩]) (.ok answer)) :
    Along Φ post (ask q : Fallible Q A ε (A q)).run history := h

/-- Sequencing: an exception goes straight to the postcondition. -/
theorem Along.bind {x : Fallible Q A ε α} {f : α → Fallible Q A ε β}
    {post : List (Event A) → Except ε β → Prop}
    (h : Along Φ (either (fun history value => Along Φ post (f value).run history)
      fun history exn => post history (.error exn)) x.run history) :
    Along Φ post (x >>= f).run history := by
  rw [run_bind]
  refine Program.Along.bind (h.mono fun history outcome hs => ?_)
  cases outcome with
  | ok value => exact hs
  | error exn => exact hs

/-- A question, then the rest. -/
theorem Along.call {q : Q} {f : A q → Fallible Q A ε β} {post : List (Event A) → Except ε β → Prop}
    (h : ∀ answer, Φ history ⟨q, answer⟩ ∧
      Along Φ post (f answer).run (history ++ [⟨q, answer⟩])) :
    Along Φ post (Fallible.ask q >>= f).run history :=
  Along.bind (Along.ask h)

/-- Sequencing after a stage that is stepped over. -/
theorem Along.bind_of_only {C : Q → Prop} {x : Fallible Q A ε α} {f : α → Fallible Q A ε β}
    {post : List (Event A) → Except ε β → Prop} (hx : Only C x.run)
    (hΦ : ∀ q, C q → ∀ history answer, Φ history ⟨q, answer⟩)
    (hok : ∀ trace value, Exec x.run trace (.ok value) → (∀ event ∈ trace, C event.query) →
      Along Φ post (f value).run (history ++ trace))
    (herror : ∀ trace exn, Exec x.run trace (.error exn) → (∀ event ∈ trace, C event.query) →
      post (history ++ trace) (.error exn)) :
    Along Φ post (x >>= f).run history := by
  refine Along.bind (Along.of_only hx hΦ fun trace outcome hexec hmem => ?_)
  cases outcome with
  | ok value => exact hok trace value hexec hmem
  | error exn => exact herror trace exn hexec hmem

/-- A `try` hands the outcome of its body on. -/
theorem Along.attempt {x : Fallible Q A ε α}
    {post : List (Event A) → Except ε (Except ε α) → Prop}
    (h : Along Φ (fun history outcome => post history (.ok outcome)) x.run history) :
    Along Φ post (attempt x).run history :=
  Program.Along.bind h

end Fallible

/-! ## In runs -/

namespace Machine

universe w x

variable {Q : Type u} {A : Q → Type v} {σ : Type w} {J : Type x} {R : Type v}
variable {M : Machine Q A σ J R} {Φ : List (Event A) → Event A → Prop}
variable {post : List (Event A) → R → Prop} {s : σ} {c : Config A σ J R}

/-- Every entry of a thread has met its obligation. -/
theorem Reachable.meets (h : M.Reachable s c) {past future : List (Entry A σ J R)}
    {entry : Entry A σ J R} {event : Event A} (hlog : c.log = past ++ entry :: future)
    (haction : entry.action = .did event) {thread : Thread Q A J R}
    (hthread : c.threads entry.tid = some thread)
    (halong : Program.Along Φ post (M.program thread.job) []) :
    Φ (traceOf entry.tid past) event := by
  obtain ⟨thread', hthread', hreaches⟩ := h.reaches_split hlog haction
  obtain rfl := Option.some.inj (hthread.symm.trans hthread')
  simpa using halong.reaches hreaches

/-- Every thread that has returned has met its postcondition. -/
theorem Reachable.ends (h : M.Reachable s c) {tid : ℕ} {job : J} {result : R}
    (hthread : c.threads tid = some ⟨job, .ret result⟩)
    (halong : Program.Along Φ post (M.program job) []) : post (traceOf tid c.log) result := by
  simpa using halong.exec (h.reaches hthread)

end Machine

end Foundation
