/-
# Patterns with word boundaries

Regular expressions built from character classes, word boundaries, sequences and
optional parts. A match covers a span of a text and sees of its surroundings only
the character before and the character after. Matching enumerates the ends a
match may have, in the order in which a backtracking matcher prefers them, and
searching looks for a match anywhere.
-/

import Mathlib.Data.List.Infix

namespace Foundation

universe u

variable {α : Type u}

/-- The character before the place reached by reading a span. -/
def lastOf (before : Option α) : List α → Option α
  | [] => before
  | c :: span => lastOf (some c) span

/-- The character a span begins with, or what follows an empty one. -/
def nextOf (span : List α) (after : Option α) : Option α := span.head?.or after

@[simp]
theorem lastOf_nil (before : Option α) : lastOf before [] = before := rfl

@[simp]
theorem lastOf_cons (before : Option α) (c : α) (span : List α) :
    lastOf before (c :: span) = lastOf (some c) span := rfl

theorem lastOf_append (before : Option α) (first second : List α) :
    lastOf before (first ++ second) = lastOf (lastOf before first) second := by
  induction first generalizing before with
  | nil => rfl
  | cons c first ih => exact ih (some c)

/-- What comes before a span does not show behind it. -/
theorem lastOf_of_ne_nil {span : List α} (hspan : span ≠ []) (before before' : Option α) :
    lastOf before span = lastOf before' span := by
  cases span with
  | nil => exact absurd rfl hspan
  | cons c span => rfl

theorem head?_append_eq_nextOf (span rest : List α) :
    (span ++ rest).head? = nextOf span rest.head? := by
  cases span <;> simp [nextOf]

theorem nextOf_of_ne_nil {span : List α} (hspan : span ≠ []) (after : Option α) :
    nextOf span after = span.head? := by
  cases span with
  | nil => exact absurd rfl hspan
  | cons c span => rfl

/-- A place in a text: the character before it and what follows. -/
structure Cursor (α : Type u) where
  last : Option α
  rest : List α

/-- A pattern. -/
inductive Pattern (α : Type u)
  | /-- One character of a class. -/
    one (isIn : α → Bool)
  | /-- As many characters of a class as possible. -/
    many (isIn : α → Bool)
  | /-- A word begins or ends here. -/
    boundary
  | /-- One after the other. -/
    seq (first second : Pattern α)
  | /-- Once if possible. -/
    optional (pattern : Pattern α)

namespace Pattern

/-- A number of repetitions, then the rest. -/
def times (pattern : Pattern α) : ℕ → Pattern α → Pattern α
  | 0, rest => rest
  | count + 1, rest => seq pattern (times pattern count rest)

variable (isWord : α → Bool)

/-- Exactly one of the neighbours belongs to a word. -/
def atBoundary (before after : Option α) : Bool := before.any isWord != after.any isWord

/-! ## Matches -/

/-- The pattern matches the span between these neighbours. -/
def Matches : Pattern α → Option α → List α → Option α → Prop
  | one isIn, _, span, _ => ∃ c, span = [c] ∧ isIn c = true
  | many isIn, _, span, _ => ∀ c ∈ span, isIn c = true
  | boundary, before, span, after => span = [] ∧ atBoundary isWord before after = true
  | seq first second, before, span, after => ∃ front back, span = front ++ back ∧
      Matches first before front (nextOf back after) ∧
      Matches second (lastOf before front) back after
  | optional pattern, before, span, after => span = [] ∨ Matches pattern before span after

variable {isWord} {p q : Pattern α} {before before' after after' : Option α} {span : List α}

/-- Of its neighbours a match sees only whether they belong to words. -/
theorem Matches.congr (h : Matches isWord p before span after)
    (hbefore : before.any isWord = before'.any isWord)
    (hafter : after.any isWord = after'.any isWord) : Matches isWord p before' span after' := by
  induction p generalizing before before' after after' span with
  | one isIn => exact h
  | many isIn => exact h
  | boundary =>
      obtain ⟨hspan, hboundary⟩ := h
      refine ⟨hspan, ?_⟩
      rwa [atBoundary, ← hbefore, ← hafter]
  | seq first second ihFirst ihSecond =>
      obtain ⟨front, back, rfl, hfirst, hsecond⟩ := h
      refine ⟨front, back, rfl, ihFirst hfirst hbefore ?_, ihSecond hsecond ?_ hafter⟩
      · cases back with
        | nil => exact hafter
        | cons c back => rfl
      · cases front with
        | nil => exact hbefore
        | cons c front => rfl
  | optional pattern ih =>
      rcases h with hnone | hsome
      · exact .inl hnone
      · exact .inr (ih hsome hbefore hafter)

/-- The characters a pattern can read. -/
def reads : Pattern α → α → Bool
  | one isIn, c => isIn c
  | many isIn, c => isIn c
  | boundary, _ => false
  | seq first second, c => first.reads c || second.reads c
  | optional pattern, c => pattern.reads c

theorem Matches.reads (h : Matches isWord p before span after) {c : α} (hc : c ∈ span) :
    p.reads c = true := by
  induction p generalizing before after span with
  | one isIn =>
      obtain ⟨d, rfl, hin⟩ := h
      obtain rfl := List.mem_singleton.mp hc
      exact hin
  | many isIn => exact h c hc
  | boundary =>
      obtain ⟨rfl, _⟩ := h
      cases hc
  | seq first second ihFirst ihSecond =>
      obtain ⟨front, back, rfl, hfirst, hsecond⟩ := h
      rw [Pattern.reads, Bool.or_eq_true]
      rcases List.mem_append.mp hc with hfront | hback
      · exact .inl (ihFirst hfirst hfront)
      · exact .inr (ihSecond hsecond hback)
  | optional pattern ih =>
      rcases h with rfl | hsome
      · cases hc
      · exact ih hsome hc

/-! ### Anchors -/

/-- Every match ends at a word boundary. -/
def EndsAtBoundary (isWord : α → Bool) (p : Pattern α) : Prop :=
  ∀ ⦃before span after⦄, Matches isWord p before span after →
    atBoundary isWord (lastOf before span) after = true

theorem EndsAtBoundary.boundary : EndsAtBoundary isWord .boundary := by
  rintro before _ after ⟨rfl, h⟩
  exact h

theorem EndsAtBoundary.seq (hq : EndsAtBoundary isWord q) : EndsAtBoundary isWord (.seq p q) := by
  rintro before _ after ⟨front, back, rfl, _, hback⟩
  rw [lastOf_append]
  exact hq hback

theorem EndsAtBoundary.times (hq : EndsAtBoundary isWord q) (count : ℕ) :
    EndsAtBoundary isWord (p.times count q) := by
  induction count with
  | zero => exact hq
  | succ count ih => exact EndsAtBoundary.seq ih

/-- Every match is of some text, which begins and ends at word boundaries. -/
structure Anchored (isWord : α → Bool) (p : Pattern α) : Prop where
  ne_nil : ∀ ⦃before span after⦄, Matches isWord p before span after → span ≠ []
  starts : ∀ ⦃before span after⦄, Matches isWord p before span after →
    atBoundary isWord before span.head? = true
  ends : EndsAtBoundary isWord p

/-- A pattern of the form `\b…\b` is anchored, unless it matches the empty text. -/
theorem Anchored.of_seq (hnonempty : ∀ ⦃before span after⦄, Matches isWord p before span after →
    span ≠ []) (hends : EndsAtBoundary isWord p) : Anchored isWord (.seq .boundary p) where
  ne_nil := by
    rintro before _ after ⟨front, back, rfl, _, hback⟩
    exact fun h => hnonempty hback (List.append_eq_nil_iff.mp h).2
  starts := by
    rintro before _ after ⟨front, back, rfl, ⟨rfl, hboundary⟩, hback⟩
    rwa [nextOf_of_ne_nil (hnonempty hback)] at hboundary
  ends := hends.seq

/-! ## Matching -/

/-- The ends of the runs of a class, longest first. -/
def runs (isIn : α → Bool) (last : Option α) : List α → List (Cursor α)
  | [] => [⟨last, []⟩]
  | c :: rest => (if isIn c then runs isIn (some c) rest else []) ++ [⟨last, c :: rest⟩]

/-- The places a match that starts here may end at, in order of preference. -/
def ends (isWord : α → Bool) : Pattern α → Cursor α → List (Cursor α)
  | one isIn, ⟨_, c :: rest⟩ => if isIn c then [⟨some c, rest⟩] else []
  | one _, ⟨_, []⟩ => []
  | many isIn, ⟨last, rest⟩ => runs isIn last rest
  | boundary, cursor => if atBoundary isWord cursor.last cursor.rest.head? then [cursor] else []
  | seq first second, cursor => (first.ends isWord cursor).flatMap (second.ends isWord)
  | optional pattern, cursor => pattern.ends isWord cursor ++ [cursor]

theorem mem_runs_iff {isIn : α → Bool} {last : Option α} {text : List α} {place : Cursor α} :
    place ∈ runs isIn last text ↔ ∃ span, text = span ++ place.rest ∧
      place.last = lastOf last span ∧ ∀ c ∈ span, isIn c = true := by
  induction text generalizing last with
  | nil =>
      simp only [runs, List.mem_singleton]
      constructor
      · rintro rfl
        exact ⟨[], rfl, rfl, by simp⟩
      · rintro ⟨span, htext, hlast, _⟩
        obtain ⟨last', rest'⟩ := place
        obtain ⟨rfl, hrest⟩ := List.append_eq_nil_iff.mp htext.symm
        obtain rfl : rest' = [] := hrest
        obtain rfl : last' = last := hlast
        rfl
  | cons c rest ih =>
      rw [runs, List.mem_append, List.mem_singleton]
      constructor
      · rintro (hlonger | rfl)
        · split at hlonger
          case isFalse => cases hlonger
          case isTrue hin =>
            obtain ⟨span, htext, hlast, hspan⟩ := ih.mp hlonger
            exact ⟨c :: span, by rw [htext]; rfl, hlast, by simpa [hin] using hspan⟩
        · exact ⟨[], rfl, rfl, by simp⟩
      · rintro ⟨span, htext, hlast, hspan⟩
        cases span with
        | nil =>
            obtain ⟨last', rest'⟩ := place
            obtain rfl : c :: rest = rest' := htext
            obtain rfl : last' = last := hlast
            exact .inr rfl
        | cons d span =>
            obtain ⟨rfl, hrest⟩ := List.cons.inj htext
            left
            rw [if_pos (hspan c List.mem_cons_self)]
            exact ih.mpr ⟨span, hrest, hlast, fun d hd => hspan d (List.mem_cons_of_mem _ hd)⟩

/-- **The matcher finds the matches**, and nothing else. -/
theorem mem_ends_iff {cursor place : Cursor α} :
    place ∈ p.ends isWord cursor ↔ ∃ span, cursor.rest = span ++ place.rest ∧
      place.last = lastOf cursor.last span ∧
      Matches isWord p cursor.last span place.rest.head? := by
  induction p generalizing cursor place with
  | one isIn =>
      obtain ⟨last, text⟩ := cursor
      obtain ⟨last', rest'⟩ := place
      cases text with
      | nil =>
          simp only [ends, List.not_mem_nil, false_iff]
          rintro ⟨_, htext, _, c, rfl, _⟩
          cases htext
      | cons c rest =>
          simp only [ends]
          constructor
          · intro hmem
            split at hmem
            case isFalse => cases hmem
            case isTrue hin =>
              cases List.mem_singleton.mp hmem
              exact ⟨[c], rfl, rfl, c, rfl, hin⟩
          · rintro ⟨_, htext, hlast, d, rfl, hin⟩
            simp only [List.cons_append, List.nil_append, List.cons.injEq] at htext
            obtain ⟨rfl, rfl⟩ := htext
            simp only [lastOf_cons, lastOf_nil] at hlast
            simp [hin, hlast]
  | many isIn => exact mem_runs_iff
  | boundary =>
      simp only [ends]
      constructor
      · intro hmem
        split at hmem
        case isFalse => cases hmem
        case isTrue hboundary =>
          cases List.mem_singleton.mp hmem
          exact ⟨[], rfl, rfl, rfl, hboundary⟩
      · rintro ⟨_, htext, hlast, rfl, hboundary⟩
        obtain ⟨last, text⟩ := cursor
        obtain ⟨last', rest'⟩ := place
        simp only [List.nil_append, lastOf_nil] at htext hlast
        subst htext hlast
        simp [hboundary]
  | seq first second ihFirst ihSecond =>
      simp only [ends, List.mem_flatMap]
      constructor
      · rintro ⟨middle, hfirst, hsecond⟩
        obtain ⟨front, htext, hlast, hmatch⟩ := ihFirst.mp hfirst
        obtain ⟨back, htext', hlast', hmatch'⟩ := ihSecond.mp hsecond
        refine ⟨front ++ back, ?_, ?_, front, back, rfl, ?_, ?_⟩
        · rw [htext, htext', List.append_assoc]
        · rw [hlast', hlast, lastOf_append]
        · rwa [htext', head?_append_eq_nextOf] at hmatch
        · rwa [hlast] at hmatch'
      · rintro ⟨_, htext, hlast, front, back, rfl, hmatch, hmatch'⟩
        refine ⟨⟨lastOf cursor.last front, back ++ place.rest⟩, ihFirst.mpr ?_, ihSecond.mpr ?_⟩
        · refine ⟨front, by rw [htext, List.append_assoc], rfl, ?_⟩
          rwa [head?_append_eq_nextOf]
        · exact ⟨back, rfl, by rw [hlast, lastOf_append], hmatch'⟩
  | optional pattern ih =>
      simp only [ends, List.mem_append, List.mem_singleton]
      constructor
      · rintro (hsome | rfl)
        · obtain ⟨span, htext, hlast, hmatch⟩ := ih.mp hsome
          exact ⟨span, htext, hlast, .inr hmatch⟩
        · exact ⟨[], rfl, rfl, .inl rfl⟩
      · rintro ⟨span, htext, hlast, rfl | hmatch⟩
        · obtain ⟨last, text⟩ := cursor
          obtain ⟨last', rest'⟩ := place
          obtain rfl : text = rest' := htext
          obtain rfl : last' = last := hlast
          exact .inr rfl
        · exact .inl (ih.mpr ⟨span, htext, hlast, hmatch⟩)

/-! ## Searching -/

/-- The pattern matches somewhere in the text. -/
def Occurs (isWord : α → Bool) (p : Pattern α) (before : Option α) (text : List α) : Prop :=
  ∃ front span back, text = front ++ (span ++ back) ∧
    Matches isWord p (lastOf before front) span back.head?

/-- A match starts here or at a later place. -/
def searchFrom (isWord : α → Bool) (p : Pattern α) (last : Option α) : List α → Bool
  | [] => !(p.ends isWord ⟨last, []⟩).isEmpty
  | c :: rest => !(p.ends isWord ⟨last, c :: rest⟩).isEmpty || searchFrom isWord p (some c) rest

/-- A match at the beginning, or one behind the first character. -/
theorem occurs_cons_iff {c : α} {rest : List α} :
    Occurs isWord p before (c :: rest) ↔
      (∃ span back, c :: rest = span ++ back ∧ Matches isWord p before span back.head?) ∨
        Occurs isWord p (some c) rest := by
  constructor
  · rintro ⟨front, span, back, htext, hmatch⟩
    cases front with
    | nil => exact .inl ⟨span, back, htext, hmatch⟩
    | cons d front =>
        obtain ⟨rfl, hrest⟩ := List.cons.inj htext
        exact .inr ⟨front, span, back, hrest, hmatch⟩
  · rintro (⟨span, back, htext, hmatch⟩ | ⟨front, span, back, rfl, hmatch⟩)
    · exact ⟨[], span, back, htext, hmatch⟩
    · exact ⟨c :: front, span, back, rfl, hmatch⟩

theorem ends_ne_nil_iff {last : Option α} {text : List α} :
    (!(p.ends isWord ⟨last, text⟩).isEmpty) = true ↔
      ∃ span back, text = span ++ back ∧ Matches isWord p last span back.head? := by
  rw [Bool.not_eq_true', List.isEmpty_eq_false_iff_exists_mem]
  constructor
  · rintro ⟨place, hplace⟩
    obtain ⟨span, htext, _, hmatch⟩ := mem_ends_iff.mp hplace
    exact ⟨span, place.rest, htext, hmatch⟩
  · rintro ⟨span, back, htext, hmatch⟩
    exact ⟨⟨lastOf last span, back⟩, mem_ends_iff.mpr ⟨span, htext, rfl, hmatch⟩⟩

/-- **Searching decides whether there is a match.** -/
theorem searchFrom_iff {last : Option α} {text : List α} :
    searchFrom isWord p last text = true ↔ Occurs isWord p last text := by
  induction text generalizing last with
  | nil =>
      rw [searchFrom, ends_ne_nil_iff]
      constructor
      · rintro ⟨span, back, htext, hmatch⟩
        exact ⟨[], span, back, htext, hmatch⟩
      · rintro ⟨front, span, back, htext, hmatch⟩
        obtain ⟨rfl, hrest⟩ := List.append_eq_nil_iff.mp htext.symm
        exact ⟨span, back, hrest.symm, hmatch⟩
  | cons c rest ih => rw [searchFrom, Bool.or_eq_true, ends_ne_nil_iff, ih, occurs_cons_iff]

/-- A match in a part is a match in the whole, if the part's new neighbours are of
no word like the old ones. -/
theorem Occurs.within {front text back : List α} (h : Occurs isWord p none text)
    (hfront : (lastOf before front).any isWord = false)
    (hback : back.head?.any isWord = false) :
    Occurs isWord p before (front ++ (text ++ back)) := by
  obtain ⟨lead, span, rest, rfl, hmatch⟩ := h
  refine ⟨front ++ lead, span, rest ++ back, by simp, hmatch.congr ?_ ?_⟩
  · rw [lastOf_append]
    cases lead with
    | nil => exact hfront.symm
    | cons c lead => rfl
  · cases rest with
    | nil => exact hback.symm
    | cons c rest => rfl

end Pattern

end Foundation
