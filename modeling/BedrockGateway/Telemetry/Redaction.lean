/-
# Redaction

Before a conversation is captured for debugging, three substitutions in a row take out
what the guardrail's patterns of personal data match. The patterns are anchored at word
boundaries and need a digit or an at sign, and what replaces their matches is a label in
brackets. No substitution brings about a match of an earlier one, and so none is left.
-/

import BedrockGateway.Foundation.Substitution
import BedrockGateway.Guardrails.Basic
import BedrockGateway.Telemetry.DebugCapture

namespace BedrockGateway

open Foundation
open Foundation.Pattern

/-- `pattern.sub(replacement, text)` -/
def CharClasses.sub (classes : CharClasses) (pattern : Pattern Char) (replacement text : String) :
    String :=
  String.ofList (pattern.subFrom classes.isWord replacement.toList none 0 text.toList)

/-- `_REDACT_PATTERNS` -/
def redactPatterns (classes : CharClasses) : List (Pattern Char × String) := [
  (BasicGuardrail.ssn classes, "[REDACTED_SSN]"),
  (BasicGuardrail.creditCard classes, "[REDACTED_CARD]"),
  (BasicGuardrail.email, "[REDACTED_EMAIL]")]

/-- `redact` -/
def redact (classes : CharClasses) (text : String) : String :=
  (redactPatterns classes).foldl
    (fun text (pattern, replacement) => classes.sub pattern replacement text) text

/-! ## The patterns -/

namespace BasicGuardrail

variable {classes : CharClasses}

theorem needs_ssn : Needs classes.isWord (ssn classes) classes.isDecimal :=
  .seq_right (.seq_left (.one fun _ h => h))

theorem needs_creditCard : Needs classes.isWord (creditCard classes) classes.isDecimal :=
  .seq_right (.seq_left (.seq_left (.one fun _ h => h)))

theorem needs_email : Needs classes.isWord email (· == '@') :=
  .seq_right (.seq_right (.seq_right (.seq_left (.one fun _ h => h))))

theorem anchored_ssn : Anchored classes.isWord (ssn classes) := by
  apply Needs.anchored classes.isDecimal
  · exact .seq_left (.one fun _ h => h)
  · exact .times (.seq (.times (.seq (.times .boundary 4)) 2)) 3

theorem anchored_creditCard : Anchored classes.isWord (creditCard classes) := by
  apply Needs.anchored classes.isDecimal
  · exact .seq_left (.seq_left (.one fun _ h => h))
  · exact .times (.times .boundary 3) 13

theorem anchored_email : Anchored classes.isWord email := by
  apply Needs.anchored (· == '@')
  · exact .seq_right (.seq_right (.seq_left (.one fun _ h => h)))
  · exact .seq (.seq (.seq (.seq (.seq (.seq (.times (.seq .boundary) 2))))))

end BasicGuardrail

/-! ## The labels -/

/-- A label in brackets. -/
def label (classes : CharClasses) (name : List Char) : Token classes.isWord where
  opening := '['
  inner := name
  closing := ']'
  opening_not_word := by rw [classes.isWord_ascii _ (by decide)]; decide
  closing_not_word := by rw [classes.isWord_ascii _ (by decide)]; decide

/-- The characters of labels. -/
def isLabelChar (c : Char) : Bool := c.isUpper || c == '_'

theorem toNat_of_isLabelChar {c : Char} (h : isLabelChar c = true) :
    64 < c.toNat ∧ c.toNat < 128 := by
  rw [isLabelChar, Bool.or_eq_true, beq_iff_eq] at h
  rcases h with hupper | rfl
  · obtain ⟨hlow, hhigh⟩ : 65 ≤ c.toNat ∧ c.toNat ≤ 90 := of_decide_eq_true hupper
    omega
  · decide

theorem isDecimal_of_isLabelChar {classes : CharClasses} {c : Char} (h : isLabelChar c = true) :
    classes.isDecimal c = false := by
  obtain ⟨hlow, hhigh⟩ := toNat_of_isLabelChar h
  rw [classes.isDecimal_ascii c hhigh, Char.isDigit, Bool.and_eq_false_iff]
  right
  show decide (c.toNat ≤ 57) = false
  exact decide_eq_false (by omega)

theorem ne_at_of_isLabelChar {c : Char} (h : isLabelChar c = true) : (c == '@') = false := by
  rw [beq_eq_false_iff_ne]
  rintro rfl
  cases h

namespace BasicGuardrail

variable {classes : CharClasses} {name : List Char}

theorem avoids_ssn (hname : ∀ c ∈ name, isLabelChar c = true) :
    Avoids (ssn classes) (label classes name) where
  opening_not_read := by
    simp [label, ssn, times, reads, classes.isDecimal_ascii]
  closing_not_read := by
    simp [label, ssn, times, reads, classes.isDecimal_ascii]
  not_inner := needs_ssn.not_inner fun c hc => isDecimal_of_isLabelChar (hname c hc)

theorem avoids_creditCard (hname : ∀ c ∈ name, isLabelChar c = true) :
    Avoids (creditCard classes) (label classes name) where
  opening_not_read := by
    simp [label, creditCard, times, reads, classes.isDecimal_ascii]
  closing_not_read := by
    simp [label, creditCard, times, reads, classes.isDecimal_ascii]
  not_inner := needs_creditCard.not_inner fun c hc => isDecimal_of_isLabelChar (hname c hc)

theorem avoids_email (hname : ∀ c ∈ name, isLabelChar c = true) :
    Avoids email (label classes name) where
  opening_not_read := by
    show email.reads '[' = false
    decide
  closing_not_read := by
    show email.reads ']' = false
    decide
  not_inner := needs_email.not_inner fun c hc => ne_at_of_isLabelChar (hname c hc)

end BasicGuardrail

/-! ## Completeness -/

section Complete

variable {classes : CharClasses}

/-- The text puts a label in brackets. -/
def IsLabel (classes : CharClasses) (replacement : String) : Prop :=
  ∃ name, replacement.toList = (label classes name).toList ∧ ∀ c ∈ name, isLabelChar c = true

/-- A pattern that substitutions by labels can take out, and do not bring about. -/
structure Redactable (classes : CharClasses) (pattern : Pattern Char) : Prop where
  anchored : Anchored classes.isWord pattern
  avoids_label : ∀ name, (∀ c ∈ name, isLabelChar c = true) → Avoids pattern (label classes name)

theorem redactable {pattern : Pattern Char}
    (hmem : pattern ∈ (redactPatterns classes).map Prod.fst) : Redactable classes pattern := by
  simp only [redactPatterns, List.map_cons, List.map_nil, List.mem_cons, List.not_mem_nil,
    or_false] at hmem
  rcases hmem with rfl | rfl | rfl
  · exact ⟨BasicGuardrail.anchored_ssn, fun _ => BasicGuardrail.avoids_ssn⟩
  · exact ⟨BasicGuardrail.anchored_creditCard, fun _ => BasicGuardrail.avoids_creditCard⟩
  · exact ⟨BasicGuardrail.anchored_email, fun _ => BasicGuardrail.avoids_email⟩

theorem isLabel {replacement : String}
    (hmem : replacement ∈ (redactPatterns classes).map Prod.snd) : IsLabel classes replacement := by
  simp only [redactPatterns, List.map_cons, List.map_nil, List.mem_cons, List.not_mem_nil,
    or_false] at hmem
  rcases hmem with rfl | rfl | rfl
  · exact ⟨"REDACTED_SSN".toList, rfl, List.all_eq_true.mp rfl⟩
  · exact ⟨"REDACTED_CARD".toList, rfl, List.all_eq_true.mp rfl⟩
  · exact ⟨"REDACTED_EMAIL".toList, rfl, List.all_eq_true.mp rfl⟩

/-- The pattern matches nowhere in the text. -/
def Absent (classes : CharClasses) (pattern : Pattern Char) (text : String) : Prop :=
  ¬Occurs classes.isWord pattern none text.toList

theorem search_eq_false_iff {pattern : Pattern Char} {text : String} :
    classes.search pattern text = false ↔ Absent classes pattern text := by
  rw [← Bool.not_eq_true, CharClasses.search, searchFrom_iff]
  rfl

/-- A substitution takes its pattern out. -/
theorem absent_sub {pattern : Pattern Char} {replacement : String}
    (hpattern : Redactable classes pattern) (hlabel : IsLabel classes replacement) (text : String) :
    Absent classes pattern (classes.sub pattern replacement text) := by
  obtain ⟨name, hreplacement, hname⟩ := hlabel
  rw [Absent, CharClasses.sub, String.toList_ofList, hreplacement]
  exact not_occurs_subFrom hpattern.anchored (hpattern.avoids_label name hname)

/-- A substitution brings no other pattern about. -/
theorem Absent.sub {pattern other : Pattern Char} {replacement text : String}
    (h : Absent classes other text) (hpattern : Redactable classes pattern)
    (hother : Redactable classes other) (hlabel : IsLabel classes replacement) :
    Absent classes other (classes.sub pattern replacement text) := by
  obtain ⟨name, hreplacement, hname⟩ := hlabel
  rw [Absent, CharClasses.sub, String.toList_ofList, hreplacement]
  exact not_occurs_subFrom_of_not_occurs hpattern.anchored hother.anchored
    (hother.avoids_label name hname) h

/-- Without a match there is nothing to substitute. -/
theorem Absent.sub_eq {pattern : Pattern Char} {text : String} (h : Absent classes pattern text)
    (replacement : String) : classes.sub pattern replacement text = text := by
  rw [CharClasses.sub, subFrom_of_not_occurs h, String.ofList_toList]

variable {entries : List (Pattern Char × String)}

/-- What is absent stays absent through substitutions in a row. -/
theorem Absent.foldl {pattern : Pattern Char} {text : String} (h : Absent classes pattern text)
    (hpattern : Redactable classes pattern)
    (hentries : ∀ entry ∈ entries, Redactable classes entry.1 ∧ IsLabel classes entry.2) :
    Absent classes pattern (entries.foldl (fun text (p, r) => classes.sub p r text) text) := by
  induction entries generalizing text with
  | nil => exact h
  | cons entry entries ih =>
      obtain ⟨hentry, hlabel⟩ := hentries entry List.mem_cons_self
      apply ih
      · exact h.sub hentry hpattern hlabel
      · exact fun other hmem => hentries other (List.mem_cons_of_mem _ hmem)

/-- **Substitutions in a row leave none of their patterns.** -/
theorem absent_foldl (hentries : ∀ entry ∈ entries, Redactable classes entry.1 ∧
    IsLabel classes entry.2) (text : String) : ∀ entry ∈ entries,
    Absent classes entry.1 (entries.foldl (fun text (p, r) => classes.sub p r text) text) := by
  induction entries generalizing text with
  | nil => exact fun _ hmem => absurd hmem List.not_mem_nil
  | cons first entries ih =>
      obtain ⟨hfirst, hlabel⟩ := hentries first List.mem_cons_self
      have hothers : ∀ entry ∈ entries, Redactable classes entry.1 ∧ IsLabel classes entry.2 :=
        fun entry hmem => hentries entry (List.mem_cons_of_mem _ hmem)
      intro entry hmem
      rcases List.mem_cons.mp hmem with rfl | hmem
      · exact (absent_sub hfirst hlabel text).foldl hfirst hothers
      · exact ih hothers _ entry hmem

theorem foldl_eq_of_absent {text : String}
    (h : ∀ entry ∈ entries, Absent classes entry.1 text) :
    entries.foldl (fun text (p, r) => classes.sub p r text) text = text := by
  induction entries with
  | nil => rfl
  | cons entry entries ih =>
      show entries.foldl _ (classes.sub entry.1 entry.2 text) = text
      rw [(h entry List.mem_cons_self).sub_eq]
      exact ih fun other hmem => h other (List.mem_cons_of_mem _ hmem)

theorem absent_redact (text : String) {entry : Pattern Char × String}
    (hmem : entry ∈ redactPatterns classes) : Absent classes entry.1 (redact classes text) := by
  apply absent_foldl _ text entry hmem
  intro entry hmem
  exact ⟨redactable (List.mem_map_of_mem hmem), isLabel (List.mem_map_of_mem hmem)⟩

/-- **Redaction is idempotent.** -/
theorem redact_redact (text : String) :
    redact classes (redact classes text) = redact classes text :=
  foldl_eq_of_absent fun _ hmem => absent_redact text hmem

end Complete

/-! ## The debug capture -/

/-- A record of the capture shows texts that were redacted. -/
theorem capturedBy_redacted {app : App} {J R : Type} {entry : Entry Answer GatewayState J R}
    {record : DebugRecord} (h : capturedBy app entry = some record) :
    ∃ inputText outputText, record.redactedInput = app.redact inputText ∧
      record.redactedOutput = app.redact outputText := by
  unfold capturedBy at h
  split at h
  case h_1 inputText outputText _ _ =>
    obtain rfl := Option.some.inj h
    exact ⟨inputText, outputText, rfl, rfl⟩
  case h_2 => cases h

/-- **In every reachable state**, no record of the capture shows personal data. -/
theorem debugRecords_absent {app : App} {classes : CharClasses} {now : ℚ}
    {policies : PolicyStore} {c : Process} (hredact : app.redact = redact classes)
    (h : (eventLoop app).Reachable (.fresh now policies) c) {requestId : String}
    {record : DebugRecord} (hrecord : c.state.debugRecords.get? requestId = some record)
    {entry : Pattern Char × String} (hentry : entry ∈ redactPatterns classes) :
    Absent classes entry.1 record.redactedInput ∧ Absent classes entry.1 record.redactedOutput := by
  have hstore := (eventLoop_overGateway app).debugRecords_eq h.replay rfl requestId
  rw [hstore, lastCaptured] at hrecord
  obtain ⟨logged, _, hlogged⟩ := List.exists_of_findSome?_eq_some hrecord
  obtain ⟨hcaptured, _⟩ := Option.filter_eq_some_iff.mp hlogged
  obtain ⟨inputText, outputText, hinput, houtput⟩ := capturedBy_redacted hcaptured
  rw [hinput, houtput, hredact]
  exact ⟨absent_redact inputText hentry, absent_redact outputText hentry⟩

/-! ## The guardrail -/

namespace BasicGuardrail

/-- Where no pattern of personal data matches, the guardrail reports none. -/
theorem check_category_ne (text : PyText) {classes : CharClasses} {checked : String}
    (hssn : Absent classes (ssn classes) checked)
    (hcreditCard : Absent classes (creditCard classes) checked)
    (hemail : Absent classes email checked) :
    (check text classes checked).category ≠ some "PII" := by
  rw [← search_eq_false_iff] at hssn hcreditCard hemail
  simp only [check, hssn, hcreditCard, hemail, Bool.false_eq_true, if_false]
  split
  · simp [blockPhrase]
  · simp

end BasicGuardrail

/-- **Redaction is complete.** Nowhere in a redacted text does a pattern of personal data
match, redacting it again changes nothing, and the guardrail reports no personal data. -/
theorem redact_complete (text : PyText) (classes : CharClasses) (captured : String) :
    (∀ pattern ∈ [BasicGuardrail.ssn classes, BasicGuardrail.creditCard classes,
        BasicGuardrail.email],
      ¬Occurs classes.isWord pattern none (redact classes captured).toList) ∧
    redact classes (redact classes captured) = redact classes captured ∧
    (BasicGuardrail.check text classes (redact classes captured)).category ≠ some "PII" := by
  have habsent : ∀ entry ∈ redactPatterns classes,
      Absent classes entry.1 (redact classes captured) := fun _ => absent_redact captured
  refine ⟨?_, redact_redact captured, ?_⟩
  · intro pattern hmem
    obtain ⟨entry, hentry, rfl⟩ : ∃ entry ∈ redactPatterns classes, entry.1 = pattern := by
      simpa [redactPatterns, eq_comm] using hmem
    exact habsent entry hentry
  · apply BasicGuardrail.check_category_ne text
    · exact habsent (BasicGuardrail.ssn classes, "[REDACTED_SSN]") (by simp [redactPatterns])
    · exact habsent (BasicGuardrail.creditCard classes, "[REDACTED_CARD]")
        (by simp [redactPatterns])
    · exact habsent (BasicGuardrail.email, "[REDACTED_EMAIL]") (by simp [redactPatterns])

-- A separator behind the last digit belongs to the card.
example : redact .ascii "SSN 123-45-6789, card 4111 1111 1111 1111 of a.b@c.example.org." =
    "SSN [REDACTED_SSN], card [REDACTED_CARD]of [REDACTED_EMAIL]." := by decide +kernel

end BedrockGateway
