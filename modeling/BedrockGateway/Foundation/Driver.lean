/-
# Playing a run

A driver makes a machine executable: it decides which questions give up control,
answers the others from the state and an oracle for the outside world, and lets
a chosen amount of time pass. Given a list of moves it computes a configuration,
log included, and that configuration is reachable. A concrete run is then a list
of moves, and what holds of it can be computed.
-/

import BedrockGateway.Foundation.Scheduler

namespace Foundation

universe u v w x

/-- An executable machine. Delays are natural numbers of time units. -/
structure Driver {Q : Type u} {A : Q → Type v} {σ : Type w} {J : Type x} {R : Type v}
    (M : Machine Q A σ J R) where
  yields : Q → Bool
  yields_iff : ∀ q, yields q = true ↔ M.yields q
  /-- Answer one question, consulting the oracle where the state does not decide. -/
  respond : ((q : Q) → A q) → σ → (q : Q) → A q × σ
  respond_sem : ∀ oracle s q, M.sem s q (respond oracle s q).1 (respond oracle s q).2
  wait : ℕ → σ → σ
  wait_passes : ∀ delay s, M.passes s (wait delay s)
  passes_refl : ∀ s, M.passes s s

/-- Answer all questions of a program from an oracle. -/
def Program.answerAll {Q : Type u} {A : Q → Type v} {α : Type v} (oracle : (q : Q) → A q) :
    Program Q A α → List (Event A) × α
  | .ret value => ([], value)
  | .ask q resume =>
      let (trace, value) := (resume (oracle q)).answerAll oracle
      (⟨q, oracle q⟩ :: trace, value)

theorem Program.exec_answerAll {Q : Type u} {A : Q → Type v} {α : Type v}
    (oracle : (q : Q) → A q) (p : Program Q A α) :
    p.Exec (p.answerAll oracle).1 (p.answerAll oracle).2 := by
  induction p with
  | ret value => exact .refl _
  | ask q resume ih => exact .step (oracle q) (ih (oracle q))

namespace Driver

variable {Q : Type u} {A : Q → Type v} {σ : Type w} {J : Type x} {R : Type v}
variable {M : Machine Q A σ J R}

/-- One move of a run: wait, then start a thread or answer a suspended one. -/
structure Move (A : Q → Type v) (J : Type x) where
  tid : ℕ
  /-- The job of a new thread; none to answer a suspended one. -/
  job : Option J := none
  delay : ℕ := 0
  oracle : (q : Q) → A q

/-- Run one stretch. -/
def stretch (d : Driver M) (oracle : (q : Q) → A q) (tid : ℕ) :
    Program Q A R → σ → List (Entry A σ J R) × σ × Program Q A R
  | .ret result, s => ([⟨tid, .finish result, s, s⟩], s, .ret result)
  | .ask q resume, s =>
      if d.yields q then ([], s, .ask q resume)
      else
        let (answer, s₁) := d.respond oracle s q
        let (entries, s₂, rest) := d.stretch oracle tid (resume answer) s₁
        (⟨tid, .did ⟨q, answer⟩, s, s₁⟩ :: entries, s₂, rest)

theorem stretch_spec (d : Driver M) (oracle : (q : Q) → A q) (tid : ℕ) (p : Program Q A R)
    (s : σ) :
    M.Stretch tid s p (d.stretch oracle tid p s).1 (d.stretch oracle tid p s).2.1
      (d.stretch oracle tid p s).2.2 := by
  induction p generalizing s with
  | ret result => exact .finish (d.passes_refl s)
  | ask q resume ih =>
      by_cases hyields : d.yields q = true
      · simp only [stretch, if_pos hyields]
        exact .suspend ((d.yields_iff q).mp hyields)
      · simp only [stretch, if_neg hyields]
        exact .step (fun h => hyields ((d.yields_iff q).mpr h)) (d.passes_refl s)
          (d.respond_sem oracle s q) (ih _ _)

/-- Make one move; a move that is not possible changes nothing. -/
def move (d : Driver M) (c : Config A σ J R) (m : Move A J) : Config A σ J R :=
  let s := d.wait m.delay c.state
  match m.job, c.threads m.tid with
  | some job, none =>
      let (entries, s₁, rest) := d.stretch m.oracle m.tid (M.program job) s
      ⟨s₁, Function.update c.threads m.tid (some ⟨job, rest⟩),
        c.log ++ ⟨m.tid, .start job, s, s⟩ :: entries⟩
  | none, some ⟨job, .ask q resume⟩ =>
      let (answer, s₁) := d.respond m.oracle s q
      let (entries, s₂, rest) := d.stretch m.oracle m.tid (resume answer) s₁
      ⟨s₂, Function.update c.threads m.tid (some ⟨job, rest⟩),
        c.log ++ ⟨m.tid, .did ⟨q, answer⟩, s, s₁⟩ :: entries⟩
  | _, _ => c

/-- Make a list of moves. -/
def play (d : Driver M) (c : Config A σ J R) (moves : List (Move A J)) : Config A σ J R :=
  moves.foldl d.move c

theorem move_reachable (d : Driver M) {s : σ} {c : Config A σ J R} (h : M.Reachable s c)
    (m : Move A J) : M.Reachable s (d.move c m) := by
  unfold move
  split
  · rename_i job _ hthread
    exact h.step (.spawn hthread (d.wait_passes _ _) (d.stretch_spec _ _ _ _))
  · rename_i job q resume _ hthread
    exact h.step
      (.resume hthread (d.wait_passes _ _) (d.respond_sem _ _ _) (d.stretch_spec _ _ _ _))
  · exact h

/-- A played run is a run. -/
theorem play_reachable (d : Driver M) (s : σ) (moves : List (Move A J)) :
    M.Reachable s (d.play (Machine.initial s) moves) := by
  suffices h : ∀ c, M.Reachable s c → M.Reachable s (d.play c moves) from h _ .init
  induction moves with
  | nil => exact fun _ hc => hc
  | cons m moves ih => exact fun c hc => ih (d.move c m) (d.move_reachable hc m)

/-- A move only adds to the log. -/
theorem mem_move (d : Driver M) {c : Config A σ J R} {entry : Entry A σ J R}
    (h : entry ∈ c.log) (m : Move A J) : entry ∈ (d.move c m).log := by
  unfold move
  split
  · exact List.mem_append_left _ h
  · exact List.mem_append_left _ h
  · exact h

theorem mem_play (d : Driver M) {c : Config A σ J R} {entry : Entry A σ J R}
    (h : entry ∈ c.log) (moves : List (Move A J)) : entry ∈ (d.play c moves).log := by
  induction moves generalizing c with
  | nil => exact h
  | cons m moves ih => exact ih (d.mem_move h m)

/-- A run that begins by starting a thread says so. -/
theorem start_mem_play (d : Driver M) (s : σ) {m : Move A J} {job : J} (hjob : m.job = some job)
    (moves : List (Move A J)) : ⟨m.tid, .start job, d.wait m.delay s, d.wait m.delay s⟩ ∈
      (d.play (Machine.initial s) (m :: moves)).log := by
  apply d.mem_play (c := d.move (Machine.initial s) m)
  obtain ⟨tid, _, delay, oracle⟩ := m
  obtain rfl : _ = some job := hjob
  exact List.mem_cons_self

/-- Every answer is one of the driver's to this oracle. -/
def Responds (d : Driver M) (oracle : (q : Q) → A q) (log : List (Entry A σ J R)) : Prop :=
  ∀ entry ∈ log, ∀ event, entry.action = .did event →
    event.answer = (d.respond oracle entry.before event.query).1

theorem stretch_responds (d : Driver M) (oracle : (q : Q) → A q) (tid : ℕ) (p : Program Q A R)
    (s : σ) : d.Responds oracle (d.stretch oracle tid p s).1 := by
  induction p generalizing s with
  | ret result => simp [Responds, stretch]
  | ask q resume ih =>
      by_cases hyields : d.yields q = true
      · simp [Responds, stretch, hyields]
      · simp only [stretch, if_neg hyields]
        intro entry hmem event haction
        rcases List.mem_cons.mp hmem with rfl | hrest
        · cases haction
          rfl
        · exact ih _ _ entry hrest event haction

theorem move_responds (d : Driver M) {oracle : (q : Q) → A q} {c : Config A σ J R}
    (hc : d.Responds oracle c.log) {m : Move A J} (hm : m.oracle = oracle) :
    d.Responds oracle (d.move c m).log := by
  subst hm
  unfold move
  split
  · intro entry hmem event haction
    rcases List.mem_append.mp hmem with hold | hnew
    · exact hc entry hold event haction
    · rcases List.mem_cons.mp hnew with rfl | hrest
      · cases haction
      · exact d.stretch_responds _ _ _ _ entry hrest event haction
  · intro entry hmem event haction
    rcases List.mem_append.mp hmem with hold | hnew
    · exact hc entry hold event haction
    · rcases List.mem_cons.mp hnew with rfl | hrest
      · cases haction
        rfl
      · exact d.stretch_responds _ _ _ _ entry hrest event haction
  · exact hc

/-- A run played with one oracle is answered by it. -/
theorem play_responds (d : Driver M) {oracle : (q : Q) → A q} {moves : List (Move A J)}
    (hmoves : ∀ m ∈ moves, m.oracle = oracle) (s : σ) :
    d.Responds oracle (d.play (Machine.initial s) moves).log := by
  suffices h : ∀ c, d.Responds oracle c.log → d.Responds oracle (d.play c moves).log by
    apply h
    intro entry hmem
    cases hmem
  induction moves with
  | nil => exact fun _ hc => hc
  | cons m moves ih =>
      obtain ⟨hm, hmoves⟩ := List.forall_mem_cons.mp hmoves
      exact fun c hc => ih hmoves (d.move c m) (d.move_responds hc hm)

end Driver

/-- A position cuts a list in two. -/
theorem eq_take_append_one {α : Type u} {l : List α} {i : ℕ} (hi : i < l.length) :
    l = l.take i ++ l[i] :: l.drop (i + 1) := by
  rw [← List.drop_eq_getElem_cons hi, List.take_append_drop]

/-- Two positions cut a list in three. -/
theorem eq_take_append_two {α : Type u} {l : List α} {i j : ℕ} (hij : i < j) (hj : j < l.length) :
    l = l.take i ++ l[i] :: ((l.drop (i + 1)).take (j - i - 1) ++ l[j] :: l.drop (j + 1)) := by
  have hi : i < l.length := Nat.lt_trans hij hj
  have hgap : (l.drop (i + 1)).drop (j - i - 1) = l[j] :: l.drop (j + 1) := by
    rw [List.drop_drop, show i + 1 + (j - i - 1) = j by omega, List.drop_eq_getElem_cons hj]
  rw [← hgap, List.take_append_drop, ← List.drop_eq_getElem_cons hi, List.take_append_drop]

/-- What stands between two positions is in between. -/
theorem getElem_mem_between {α : Type u} {l : List α} {i j k : ℕ} (hij : i < j) (hjk : j < k)
    (hk : k < l.length) : l[j] ∈ (l.drop (i + 1)).take (k - i - 1) := by
  refine List.mem_iff_getElem?.mpr ⟨j - i - 1, ?_⟩
  rw [List.getElem?_take_of_lt (by omega), List.getElem?_drop,
    show i + 1 + (j - i - 1) = j by omega, List.getElem?_eq_getElem]

/-- Four positions cut a list in five. -/
theorem eq_take_append_four {α : Type u} {l : List α} {i j k m : ℕ} (hij : i < j) (hjk : j < k)
    (hkm : k < m) (hm : m < l.length) :
    l = l.take i ++ l[i] :: ((l.drop (i + 1)).take (j - i - 1) ++ l[j] ::
      ((l.drop (j + 1)).take (k - j - 1) ++ l[k] ::
        ((l.drop (k + 1)).take (m - k - 1) ++ l[m] :: l.drop (m + 1)))) := by
  have hj : j < l.length := by omega
  have hk : k < l.length := by omega
  have htail : (l.drop (j + 1)).take (k - j - 1) ++ l[k] ::
      ((l.drop (k + 1)).take (m - k - 1) ++ l[m] :: l.drop (m + 1)) = l.drop (j + 1) := by
    have hgap : (l.drop (k + 1)).drop (m - k - 1) = l[m] :: l.drop (m + 1) := by
      rw [List.drop_drop, show k + 1 + (m - k - 1) = m by omega, List.drop_eq_getElem_cons hm]
    have hrest : (l.drop (j + 1)).drop (k - j - 1) = l[k] :: l.drop (k + 1) := by
      rw [List.drop_drop, show j + 1 + (k - j - 1) = k by omega, List.drop_eq_getElem_cons hk]
    rw [← hgap, List.take_append_drop, ← hrest, List.take_append_drop]
  rw [htail]
  exact eq_take_append_two hij hj

end Foundation
