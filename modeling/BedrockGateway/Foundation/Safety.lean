/-
# Invariants at the points where control is given up

A stretch of one thread may break an invariant as long as it restores it before
giving up control. `Keeps` is the rule for proving this program by program: the
invariant may be assumed whenever control comes back, must hold whenever control
is given up, and every answered question meets an obligation that may mention
the states around it. It is a recursion on the program, so it composes with
sequencing, and a program whose questions all preserve the invariant needs no
further argument.

The invariant then holds in every reachable configuration, and the obligation
at every entry of its log, whatever the threads and the schedule.
-/

import BedrockGateway.Foundation.Scheduler

namespace Foundation.Machine

universe u v w x

variable {Q : Type u} {A : Q → Type v} {σ : Type w} {J : Type x} {R α β ε : Type v}

/-- Run from a state, the program keeps `I` where it gives up control, meets `Φ`
at every answered question, and returns only into `post`. -/
def Keeps (M : Machine Q A σ J R) (I : σ → Prop) (Φ : σ → Event A → σ → Prop)
    (post : α → σ → Prop) : Program Q A α → σ → Prop
  | .ret value, s => post value s
  | .ask q resume, s =>
      (M.yields q → I s ∧ ∀ s₀ answer s₁, I s₀ → M.sem s₀ q answer s₁ →
        Φ s₀ ⟨q, answer⟩ s₁ ∧ Keeps M I Φ post (resume answer) s₁) ∧
      (¬ M.yields q → ∀ s₀ answer s₁, M.passes s s₀ → M.sem s₀ q answer s₁ →
        Φ s₀ ⟨q, answer⟩ s₁ ∧ Keeps M I Φ post (resume answer) s₁)

variable {M : Machine Q A σ J R} {I : σ → Prop} {Φ : σ → Event A → σ → Prop}

theorem Keeps.bind {p : Program Q A α} {f : α → Program Q A β} {post : β → σ → Prop} {s : σ}
    (h : M.Keeps I Φ (fun value s => M.Keeps I Φ post (f value) s) p s) :
    M.Keeps I Φ post (p.bind f) s := by
  induction p generalizing s with
  | ret value => exact h
  | ask q resume ih =>
      refine ⟨fun hy => ?_, fun hy s₀ answer s₁ time answered => ?_⟩
      · obtain ⟨hI, hnext⟩ := h.1 hy
        refine ⟨hI, fun s₀ answer s₁ hI₀ answered => ?_⟩
        obtain ⟨hΦ, htail⟩ := hnext s₀ answer s₁ hI₀ answered
        exact ⟨hΦ, ih answer htail⟩
      · obtain ⟨hΦ, htail⟩ := h.2 hy s₀ answer s₁ time answered
        exact ⟨hΦ, ih answer htail⟩

theorem Keeps.mono {p : Program Q A α} {post post' : α → σ → Prop} {s : σ}
    (h : M.Keeps I Φ post p s) (himp : ∀ value s, post value s → post' value s) :
    M.Keeps I Φ post' p s := by
  induction p generalizing s with
  | ret value => exact himp value s h
  | ask q resume ih =>
      refine ⟨fun hy => ?_, fun hy s₀ answer s₁ time answered => ?_⟩
      · obtain ⟨hI, hnext⟩ := h.1 hy
        refine ⟨hI, fun s₀ answer s₁ hI₀ answered => ?_⟩
        obtain ⟨hΦ, htail⟩ := hnext s₀ answer s₁ hI₀ answered
        exact ⟨hΦ, ih answer htail⟩
      · obtain ⟨hΦ, htail⟩ := h.2 hy s₀ answer s₁ time answered
        exact ⟨hΦ, ih answer htail⟩

/-- A program all of whose questions preserve the invariant keeps it. -/
theorem Keeps.of_only {C : Q → Prop} {p : Program Q A α} {s : σ} (hp : p.Only C)
    (htime : ∀ s s₀, I s → M.passes s s₀ → I s₀)
    (hC : ∀ q, C q → ∀ s answer s', I s → M.sem s q answer s' → Φ s ⟨q, answer⟩ s' ∧ I s')
    (hI : I s) : M.Keeps I Φ (fun _ s => I s) p s := by
  induction p generalizing s with
  | ret value => exact hI
  | ask q resume ih =>
      have hstep : ∀ s₀ answer s₁, I s₀ → M.sem s₀ q answer s₁ →
          Φ s₀ ⟨q, answer⟩ s₁ ∧ M.Keeps I Φ (fun _ s => I s) (resume answer) s₁ := by
        intro s₀ answer s₁ hI₀ answered
        obtain ⟨hΦ, hI₁⟩ := hC q hp.1 s₀ answer s₁ hI₀ answered
        exact ⟨hΦ, ih answer (hp.2 answer) hI₁⟩
      exact ⟨fun _ => ⟨hI, hstep⟩, fun _ s₀ answer s₁ time answered =>
        hstep s₀ answer s₁ (htime s s₀ hI time) answered⟩

/-- Sequencing for programs that can raise: an exception goes straight to the
postcondition. -/
theorem Keeps.fallible_bind {x : Fallible Q A ε α} {f : α → Fallible Q A ε β}
    {post : Except ε β → σ → Prop} {s : σ}
    (h : M.Keeps I Φ (fun outcome s => match outcome with
      | .ok value => M.Keeps I Φ post (f value).run s
      | .error exn => post (.error exn) s) x.run s) :
    M.Keeps I Φ post (x >>= f).run s := by
  rw [Fallible.run_bind]
  refine Keeps.bind (h.mono fun outcome s hs => ?_)
  cases outcome with
  | ok value => exact hs
  | error exn => exact hs

/-- A `try` hands the outcome of its body to the continuation. -/
theorem Keeps.attempt {x : Fallible Q A ε α} {post : Except ε (Except ε α) → σ → Prop} {s : σ}
    (h : M.Keeps I Φ (fun outcome s => post (.ok outcome) s) x.run s) :
    M.Keeps I Φ post (Fallible.attempt x).run s :=
  Keeps.bind h

/-- One question that does not give up control. -/
theorem Keeps.ask {q : Q} {post : Except ε (A q) → σ → Prop} {s : σ} (hq : ¬ M.yields q)
    (h : ∀ s₀ answer s₁, M.passes s s₀ → M.sem s₀ q answer s₁ →
      Φ s₀ ⟨q, answer⟩ s₁ ∧ post (.ok answer) s₁) :
    M.Keeps I Φ post (Fallible.ask q : Fallible Q A ε (A q)).run s :=
  ⟨fun hy => absurd hy hq, fun _ => h⟩

/-- A stretch of a program that keeps the invariant meets every obligation and
ends with the invariant in place and the rest of the program ready to go on. -/
theorem Stretch.keeps {tid : ℕ} {s s' : σ} {p rest : Program Q A R}
    {entries : List (Entry A σ J R)} (h : M.Stretch tid s p entries s' rest)
    (htime : ∀ s s₀, I s → M.passes s s₀ → I s₀)
    (hp : M.Keeps I Φ (fun _ s => I s) p s) :
    I s' ∧ M.Keeps I Φ (fun _ s => I s) rest s' ∧
      ∀ entry ∈ entries, ∀ event, entry.action = .did event →
        Φ entry.before event entry.after := by
  induction h with
  | finish time =>
      have hI := htime _ _ hp time
      refine ⟨hI, hI, fun entry hentry event haction => ?_⟩
      rw [List.mem_singleton.mp hentry] at haction
      cases haction
  | suspend hy => exact ⟨(hp.1 hy).1, hp, by simp⟩
  | step hy time answered _ ih =>
      obtain ⟨hΦ, htail⟩ := hp.2 hy _ _ _ time answered
      obtain ⟨hI, hrest, hentries⟩ := ih htail
      refine ⟨hI, hrest, fun entry hentry event haction => ?_⟩
      rcases List.mem_cons.mp hentry with rfl | hmem
      · cases haction
        exact hΦ
      · exact hentries entry hmem event haction

/-- **Invariants of cooperative runs.** If every job keeps the invariant, it
holds in every reachable configuration, and every logged answer has met its
obligation. -/
theorem Reachable.keeps {s : σ} {c : Config A σ J R} (h : M.Reachable s c)
    (htime : ∀ s s₀, I s → M.passes s s₀ → I s₀) (hinit : I s)
    (hjobs : ∀ job s, I s → M.Keeps I Φ (fun _ s => I s) (M.program job) s) :
    I c.state ∧ ∀ entry ∈ c.log, ∀ event, entry.action = .did event →
      Φ entry.before event entry.after := by
  suffices hall : I c.state ∧ (∀ entry ∈ c.log, ∀ event, entry.action = .did event →
      Φ entry.before event entry.after) ∧
      ∀ tid thread, c.threads tid = some thread →
        ∃ s, M.Keeps I Φ (fun _ s => I s) thread.rest s from ⟨hall.1, hall.2.1⟩
  induction h with
  | init => exact ⟨hinit, by simp [initial], by simp [initial]⟩
  | @step c _ reached moved ih =>
      obtain ⟨hI, hlog, hthreads⟩ := ih
      cases moved with
      | @spawn acting job s₀ s₁ entries rest fresh time run =>
          have hI₀ := htime _ _ hI time
          obtain ⟨hI₁, hrest, hentries⟩ := run.keeps htime (hjobs job s₀ hI₀)
          refine ⟨hI₁, fun entry hentry event haction => ?_, fun tid thread hthread => ?_⟩
          · rcases List.mem_append.mp hentry with hold | hnew
            · exact hlog entry hold event haction
            · rcases List.mem_cons.mp hnew with rfl | hmem
              · cases haction
              · exact hentries entry hmem event haction
          · by_cases htid : tid = acting
            · subst htid
              simp only [Function.update_self, Option.some.injEq] at hthread
              exact ⟨s₁, hthread ▸ hrest⟩
            · simp only [Function.update_of_ne htid] at hthread
              exact hthreads tid thread hthread
      | @resume acting job q resume answer s₀ s₁ s₂ entries rest suspended time answered run =>
          -- A suspended thread sits at a question that gives up control, so what
          -- it keeps was proved from any state satisfying the invariant.
          obtain ⟨s, hsuspended⟩ := hthreads acting _ suspended
          have hnext := (hsuspended.1 (reached.yields suspended)).2 s₀ answer s₁
            (htime _ _ hI time) answered
          obtain ⟨hI₂, hrest, hentries⟩ := run.keeps htime hnext.2
          refine ⟨hI₂, fun entry hentry event haction => ?_, fun tid thread hthread => ?_⟩
          · rcases List.mem_append.mp hentry with hold | hnew
            · exact hlog entry hold event haction
            · rcases List.mem_cons.mp hnew with rfl | hmem
              · cases haction
                exact hnext.1
              · exact hentries entry hmem event haction
          · by_cases htid : tid = acting
            · subst htid
              simp only [Function.update_self, Option.some.injEq] at hthread
              exact ⟨s₂, hthread ▸ hrest⟩
            · simp only [Function.update_of_ne htid] at hthread
              exact hthreads tid thread hthread

end Foundation.Machine
