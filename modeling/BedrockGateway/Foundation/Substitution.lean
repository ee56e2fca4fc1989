/-
# Substitution of anchored patterns

A substitution puts a token in place of the leftmost preferred matches that do not
overlap. Where the pattern is anchored at word boundaries and the token stands between
characters of no word, what the substitution leaves has no match of the pattern, and no
match of any other anchored pattern that the text had not.
-/

import BedrockGateway.Foundation.Pattern

namespace Foundation

universe u

variable {α : Type u}

namespace Pattern

/-! ## Substituting -/

/-- Replaces the matches of a pattern that matches no empty text, after skipping what is
left of the last match. -/
def subFrom (isWord : α → Bool) (p : Pattern α) (token : List α) :
    Option α → ℕ → List α → List α
  | _, _, [] => []
  | _, skip + 1, c :: rest => subFrom isWord p token (some c) skip rest
  | last, 0, c :: rest =>
      match (p.ends isWord ⟨last, c :: rest⟩).head? with
      | some place =>
          token ++ subFrom isWord p token (some c) (rest.length - place.rest.length) rest
      | none => c :: subFrom isWord p token (some c) 0 rest

/-- A match starts at the beginning of the text. -/
def Starts (isWord : α → Bool) (p : Pattern α) (before : Option α) (text : List α) : Prop :=
  ∃ span back, text = span ++ back ∧ Matches isWord p before span back.head?

/-- The second text is the first with a token in place of matches, and no match begins at
a character that is kept. -/
inductive Replaced (isWord : α → Bool) (p : Pattern α) (token : List α) :
    Option α → List α → List α → Prop
  | nil {before : Option α} : Replaced isWord p token before [] []
  | keep {before : Option α} {c : α} {text out : List α}
      (hnone : ¬Starts isWord p before (c :: text))
      (hrest : Replaced isWord p token (some c) text out) :
      Replaced isWord p token before (c :: text) (c :: out)
  | hit {before : Option α} {span text out : List α}
      (hmatch : Matches isWord p before span text.head?)
      (hrest : Replaced isWord p token (lastOf before span) text out) :
      Replaced isWord p token before (span ++ text) (token ++ out)

variable {isWord : α → Bool} {p x : Pattern α} {token : List α}
  {before before' : Option α} {span text out : List α}

theorem subFrom_skip (rest : List α) :
    subFrom isWord p token before span.length (span ++ rest) =
      subFrom isWord p token (lastOf before span) 0 rest := by
  induction span generalizing before with
  | nil => rfl
  | cons c span ih => exact ih

theorem starts_of_head? {place : Cursor α} (h : (p.ends isWord ⟨before, text⟩).head? = some place) :
    ∃ span, text = span ++ place.rest ∧ Matches isWord p before span place.rest.head? := by
  obtain ⟨span, htext, _, hmatch⟩ := mem_ends_iff.mp (List.mem_of_head? h)
  exact ⟨span, htext, hmatch⟩

theorem not_starts_of_head? (h : (p.ends isWord ⟨before, text⟩).head? = none) :
    ¬Starts isWord p before text := by
  intro hstarts
  have hsome := ends_ne_nil_iff.mpr hstarts
  rw [List.head?_eq_none_iff.mp h] at hsome
  cases hsome

/-- **Substituting replaces matches**, and leaves none out. -/
theorem replaced_subFrom (hnonempty : ∀ ⦃before span after⦄, Matches isWord p before span after →
    span ≠ []) (before : Option α) (text : List α) :
    Replaced isWord p token before text (subFrom isWord p token before 0 text) := by
  induction hlength : text.length using Nat.strong_induction_on generalizing before text with
  | h length ih =>
      cases text with
      | nil => exact .nil
      | cons c rest =>
          rw [subFrom]
          split
          case h_1 place hplace =>
              obtain ⟨span, htext, hmatch⟩ := starts_of_head? hplace
              cases span with
              | nil => exact absurd rfl (hnonempty hmatch)
              | cons d span =>
                  rw [List.cons_append] at htext
                  obtain ⟨rfl, rfl⟩ := List.cons.inj htext
                  have hskip : (span ++ place.rest).length - place.rest.length = span.length := by
                    rw [List.length_append, Nat.add_sub_cancel]
                  rw [hskip, subFrom_skip]
                  apply Replaced.hit hmatch
                  apply ih place.rest.length _ _ _ rfl
                  rw [← hlength, List.length_cons, List.length_append]
                  omega
          case h_2 hplace =>
              apply Replaced.keep (not_starts_of_head? hplace)
              exact ih rest.length (by rw [← hlength, List.length_cons]; omega) _ _ rfl

/-- A text without a match stays as it is. -/
theorem subFrom_of_not_occurs (h : ¬Occurs isWord p before text) :
    subFrom isWord p token before 0 text = text := by
  induction text generalizing before with
  | nil => rfl
  | cons c rest ih =>
      rw [occurs_cons_iff, not_or] at h
      have hnone : p.ends isWord ⟨before, c :: rest⟩ = [] := by
        by_contra hne
        exact h.1 (ends_ne_nil_iff.mp (by simpa using hne))
      rw [subFrom, hnone]
      exact congrArg (c :: ·) (ih h.2)

/-! ## Tokens -/

/-- A token between two characters that belong to no word. -/
structure Token (isWord : α → Bool) where
  opening : α
  inner : List α
  closing : α
  opening_not_word : isWord opening = false
  closing_not_word : isWord closing = false

/-- The characters of a token. -/
def Token.toList (t : Token isWord) : List α := t.opening :: (t.inner ++ [t.closing])

/-- No match has a part of the token in it. -/
structure Avoids (x : Pattern α) (t : Token isWord) : Prop where
  opening_not_read : x.reads t.opening = false
  closing_not_read : x.reads t.closing = false
  not_inner : ∀ ⦃before span after⦄, Matches isWord x before span after → ∃ c ∈ span, c ∉ t.inner

variable {t : Token isWord}

theorem Avoids.opening_not_mem {after : Option α} (hx : Avoids x t)
    (hmatch : Matches isWord x before span after) : t.opening ∉ span := by
  intro hmem
  have hread := hmatch.reads hmem
  rw [hx.opening_not_read] at hread
  cases hread

theorem Avoids.closing_not_mem {after : Option α} (hx : Avoids x t)
    (hmatch : Matches isWord x before span after) : t.closing ∉ span := by
  intro hmem
  have hread := hmatch.reads hmem
  rw [hx.closing_not_read] at hread
  cases hread

/-- A span without a character ends before the character comes. -/
theorem exists_eq_append_of_not_mem (front : List α) {back rest : List α} {c : α} (hc : c ∉ span)
    (h : span ++ back = front ++ c :: rest) : ∃ middle, front = span ++ middle := by
  rcases List.append_eq_append_iff.mp h with ⟨middle, hfront, _⟩ | ⟨middle, hspan, hrest⟩
  · exact ⟨middle, hfront⟩
  · cases middle with
    | nil => exact ⟨[], by rw [hspan, List.append_nil, List.append_nil]⟩
    | cons d middle =>
        obtain ⟨rfl, _⟩ := List.cons.inj hrest
        exact absurd (hspan ▸ List.mem_append_right front List.mem_cons_self) hc

/-- A match in the rest of a token and what follows is one behind the token. -/
theorem Avoids.occurs_inner (hx : Avoids x t) (hnonempty : ∀ ⦃before span after⦄,
    Matches isWord x before span after → span ≠ []) {inner : List α}
    (hinner : ∀ c ∈ inner, c ∈ t.inner)
    (h : Occurs isWord x before (inner ++ t.closing :: out)) :
    Occurs isWord x (some t.closing) out := by
  induction inner generalizing before with
  | nil =>
      rcases occurs_cons_iff.mp h with ⟨span, back, htext, hmatch⟩ | hout
      · obtain ⟨middle, hmiddle⟩ :=
          exists_eq_append_of_not_mem [] (hx.closing_not_mem hmatch) htext.symm
        exact absurd (List.append_eq_nil_iff.mp hmiddle.symm).1 (hnonempty hmatch)
      · exact hout
  | cons c inner ih =>
      rcases occurs_cons_iff.mp h with ⟨span, back, htext, hmatch⟩ | hrest
      · obtain ⟨middle, hmiddle⟩ :=
          exists_eq_append_of_not_mem (c :: inner) (hx.closing_not_mem hmatch) htext.symm
        obtain ⟨d, hd, hnot⟩ := hx.not_inner hmatch
        have hmem : d ∈ c :: inner := hmiddle ▸ List.mem_append_left middle hd
        exact absurd (hinner d hmem) hnot
      · exact ih (fun d hd => hinner d (List.mem_cons_of_mem c hd)) hrest

/-- **No match begins in a token.** -/
theorem Avoids.occurs_behind (hx : Avoids x t) (hnonempty : ∀ ⦃before span after⦄,
    Matches isWord x before span after → span ≠ [])
    (h : Occurs isWord x before (t.toList ++ out)) : Occurs isWord x (some t.closing) out := by
  have hshape : t.toList ++ out = t.opening :: (t.inner ++ t.closing :: out) := by
    simp [Token.toList]
  rw [hshape] at h
  rcases occurs_cons_iff.mp h with ⟨span, back, htext, hmatch⟩ | hrest
  · cases span with
    | nil => exact absurd rfl (hnonempty hmatch)
    | cons c span =>
        obtain ⟨rfl, _⟩ := List.cons.inj htext
        exact absurd List.mem_cons_self (hx.opening_not_mem hmatch)
  · exact hx.occurs_inner hnonempty (fun _ hc => hc) hrest

/-! ## What a substitution leaves -/

/-- What stands before a place in the text and in what was made of it: characters of the
same kind, or the end of a match and the end of its token. -/
def Compatible (isWord : α → Bool) (before before' : Option α) (text : List α) : Prop :=
  before.any isWord = before'.any isWord ∨
    (before'.any isWord = false ∧ atBoundary isWord before text.head? = true)

/-- Where an anchored match starts, the characters before are of the same kind. -/
theorem Compatible.any_eq (h : Compatible isWord before before' text)
    (hstarts : atBoundary isWord before' text.head? = true) :
    before.any isWord = before'.any isWord := by
  rcases h with hsame | ⟨hword', hboundary⟩
  · exact hsame
  · rw [atBoundary, hword'] at hstarts
    rw [hword']
    cases hnext : text.head?.any isWord with
    | false => rw [hnext] at hstarts; cases hstarts
    | true =>
        rw [atBoundary, hnext] at hboundary
        simpa using hboundary

/-- A span without the opening of a token has not been replaced. -/
theorem Replaced.of_span {back : List α} (h : Replaced isWord p t.toList before text (span ++ back))
    (hopening : t.opening ∉ span) :
    ∃ rest, text = span ++ rest ∧ Replaced isWord p t.toList (lastOf before span) rest back := by
  induction span generalizing before text with
  | nil => exact ⟨text, rfl, h⟩
  | cons c span ih =>
      rw [List.cons_append] at h
      generalize hout : c :: (span ++ back) = out at h
      cases h with
      | nil => cases hout
      | keep hnone hrest =>
          obtain ⟨rfl, rfl⟩ := List.cons.inj hout
          obtain ⟨rest, rfl, hback⟩ := ih hrest fun hmem => hopening (List.mem_cons_of_mem _ hmem)
          exact ⟨rest, rfl, hback⟩
      | hit hmatch hrest =>
          obtain ⟨rfl, _⟩ := List.cons.inj hout
          exact absurd List.mem_cons_self hopening

/-- Behind a word, what follows is of the same kind in the text and in what was made of it:
a replaced match starts at a boundary, and its token with a character of no word. -/
theorem Replaced.any_head? (hp : Anchored isWord p)
    (h : Replaced isWord p t.toList before text out)
    (hends : atBoundary isWord before out.head? = true) :
    out.head?.any isWord = text.head?.any isWord := by
  cases h with
  | nil => rfl
  | keep hnone hrest => rfl
  | hit hmatch hrest =>
      rename_i span text out
      have hopening : (t.toList ++ out).head?.any isWord = false := t.opening_not_word
      rw [atBoundary, hopening] at hends
      have hword : before.any isWord = true := by simpa using hends
      have hstarts := hp.starts hmatch
      rw [atBoundary, hword] at hstarts
      rw [hopening, head?_append_eq_nextOf, nextOf_of_ne_nil (hp.ne_nil hmatch)]
      simpa using hstarts.symm

/-- **A match in what a substitution leaves was a match in the text**, at a place where
no match of the pattern started. -/
theorem Replaced.occurs (hp : Anchored isWord p) (hx : Anchored isWord x) (havoids : Avoids x t)
    (h : Replaced isWord p t.toList before text out)
    (hbefore : Compatible isWord before before' text) (hoccurs : Occurs isWord x before' out) :
    ∃ front rest, text = front ++ rest ∧ Starts isWord x (lastOf before front) rest ∧
      ¬Starts isWord p (lastOf before front) rest := by
  induction h generalizing before' with
  | nil =>
      obtain ⟨front, span, back, htext, hmatch⟩ := hoccurs
      have hspan := (List.append_eq_nil_iff.mp (List.append_eq_nil_iff.mp htext.symm).2).1
      exact absurd hspan (hx.ne_nil hmatch)
  | @keep before c text out hnone hrest ih =>
      rcases occurs_cons_iff.mp hoccurs with ⟨span, back, hout, hmatch⟩ | hlater
      · have hkept : Replaced isWord p t.toList before (c :: text) (span ++ back) :=
          hout ▸ Replaced.keep hnone hrest
        obtain ⟨rest, htext, hback⟩ := hkept.of_span (havoids.opening_not_mem hmatch)
        have hsame : before.any isWord = before'.any isWord := by
          apply hbefore.any_eq
          have hstarts := hx.starts hmatch
          rwa [htext, head?_append_eq_nextOf, nextOf_of_ne_nil (hx.ne_nil hmatch)]
        have hends := hx.ends hmatch
        rw [lastOf_of_ne_nil (hx.ne_nil hmatch) before' before] at hends
        refine ⟨[], c :: text, rfl, ⟨span, rest, htext, ?_⟩, hnone⟩
        exact hmatch.congr hsame.symm (hback.any_head? hp hends)
      · obtain ⟨front, rest, htext, hstarts, hnot⟩ := ih (.inl rfl) hlater
        exact ⟨c :: front, rest, congrArg (c :: ·) htext, hstarts, hnot⟩
  | @hit before span text out hmatch hrest ih =>
      have hlater := havoids.occurs_behind hx.ne_nil hoccurs
      have hclosing : (some t.closing).any isWord = false := t.closing_not_word
      obtain ⟨front, rest, htext, hstarts, hnot⟩ :=
        ih (.inr ⟨hclosing, hp.ends hmatch⟩) hlater
      refine ⟨span ++ front, rest, ?_, ?_, ?_⟩
      · rw [htext, List.append_assoc]
      · rwa [lastOf_append]
      · rwa [lastOf_append]

theorem Starts.occurs {front rest : List α} (h : Starts isWord x (lastOf before front) rest) :
    Occurs isWord x before (front ++ rest) := by
  obtain ⟨span, back, rfl, hmatch⟩ := h
  exact ⟨front, span, back, rfl, hmatch⟩

/-- **A substitution is complete**: what it leaves has no match. -/
theorem not_occurs_subFrom (hp : Anchored isWord p) (havoids : Avoids p t) :
    ¬Occurs isWord p before (subFrom isWord p t.toList before 0 text) := by
  intro hoccurs
  obtain ⟨front, rest, _, hstarts, hnot⟩ :=
    (replaced_subFrom hp.ne_nil before text).occurs hp hp havoids (.inl rfl) hoccurs
  exact hnot hstarts

/-- **A substitution creates no match** of another anchored pattern. -/
theorem not_occurs_subFrom_of_not_occurs (hp : Anchored isWord p) (hx : Anchored isWord x)
    (havoids : Avoids x t) (h : ¬Occurs isWord x before text) :
    ¬Occurs isWord x before (subFrom isWord p t.toList before 0 text) := by
  intro hoccurs
  obtain ⟨front, rest, rfl, hstarts, _⟩ :=
    (replaced_subFrom hp.ne_nil before text).occurs hp hx havoids (.inl rfl) hoccurs
  exact h hstarts.occurs

/-! ## What every match has -/

/-- Every match has a character of a class. -/
def Needs (isWord : α → Bool) (p : Pattern α) (isKey : α → Bool) : Prop :=
  ∀ ⦃before span after⦄, Matches isWord p before span after → ∃ c ∈ span, isKey c = true

namespace Needs

variable {isKey isIn : α → Bool} {first second : Pattern α}

theorem one (h : ∀ c, isIn c = true → isKey c = true) : Needs isWord (.one isIn) isKey := by
  rintro before _ after ⟨c, rfl, hin⟩
  exact ⟨c, List.mem_singleton_self c, h c hin⟩

theorem seq_left (h : Needs isWord first isKey) : Needs isWord (.seq first second) isKey := by
  rintro before _ after ⟨front, back, rfl, hfront, _⟩
  obtain ⟨c, hc, hkey⟩ := h hfront
  exact ⟨c, List.mem_append_left back hc, hkey⟩

theorem seq_right (h : Needs isWord second isKey) : Needs isWord (.seq first second) isKey := by
  rintro before _ after ⟨front, back, rfl, _, hback⟩
  obtain ⟨c, hc, hkey⟩ := h hback
  exact ⟨c, List.mem_append_right front hc, hkey⟩

theorem ne_nil (h : Needs isWord p isKey) ⦃before : Option α⦄ ⦃span : List α⦄
    ⦃after : Option α⦄ (hmatch : Matches isWord p before span after) : span ≠ [] := by
  obtain ⟨c, hc, _⟩ := h hmatch
  exact List.ne_nil_of_mem hc

/-- A pattern of the form `\b…\b` is anchored if there is something its matches need. -/
theorem anchored (isKey : α → Bool) (h : Needs isWord p isKey) (hends : EndsAtBoundary isWord p) :
    Anchored isWord (.seq .boundary p) :=
  .of_seq h.ne_nil hends

/-- A token without such a character has no match in it. -/
theorem not_inner (h : Needs isWord p isKey) (hinner : ∀ c ∈ t.inner, isKey c = false)
    ⦃before : Option α⦄ ⦃span : List α⦄ ⦃after : Option α⦄
    (hmatch : Matches isWord p before span after) : ∃ c ∈ span, c ∉ t.inner := by
  obtain ⟨c, hc, hkey⟩ := h hmatch
  refine ⟨c, hc, fun hmem => ?_⟩
  rw [hinner c hmem] at hkey
  cases hkey

end Needs

end Pattern

end Foundation
