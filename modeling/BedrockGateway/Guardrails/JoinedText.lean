/-
# Checking messages together

The guardrail sees the messages joined by line breaks, the model sees them one by one. A
line break belongs to no word, has no case and is not ignored where case is decided, so
neither a pattern anchored at word boundaries nor the case mapping of a message notices
whether it stands next to one or at an end of the text.
-/

import BedrockGateway.Api.Routes
import BedrockGateway.Guardrails.Basic

namespace BedrockGateway

open Foundation

/-! ## Case mapping -/

/-- The tables behind `str.lower`. -/
structure CaseTables where
  /-- The lower case of every character but the capital sigma. -/
  lowerChar : Char → List Char
  isCased : Char → Bool
  isCaseIgnorable : Char → Bool
  lowerChar_newline : lowerChar '\n' = ['\n']
  isCased_newline : isCased '\n' = false
  isCaseIgnorable_newline : isCaseIgnorable '\n' = false

/-- The tables of a text in ASCII and capital Greek. -/
def CaseTables.ascii : CaseTables where
  lowerChar c := if 'Α' ≤ c ∧ c ≤ 'Ω' then [Char.ofNat (c.toNat + 32)] else [c.toLower]
  isCased c := c.isAlpha || ('Α' ≤ c && c ≤ 'Ω')
  isCaseIgnorable c := c == '\'' || c == '.' || c == ':'
  lowerChar_newline := by decide
  isCased_newline := by decide
  isCaseIgnorable_newline := by decide

namespace CaseTables

variable (tables : CaseTables)

/-- The first character that counts for a sigma is a cased one. -/
def nextIsCased (text : List Char) : Bool :=
  (text.dropWhile tables.isCaseIgnorable).head?.any tables.isCased

/-- The lower case of a character between what precedes it, read backwards, and what
follows. A capital sigma is a final one at the end of a word. -/
def lowerAt (before : List Char) (c : Char) (after : List Char) : List Char :=
  if c = 'Σ' then
    if tables.nextIsCased before && !tables.nextIsCased after then ['ς'] else ['σ']
  else tables.lowerChar c

/-- The lower case of a text behind another one, which is read backwards. -/
def lowerFrom (before : List Char) : List Char → List Char
  | [] => []
  | c :: text => tables.lowerAt before c text ++ lowerFrom (c :: before) text

/-- `str.lower` -/
def lower (text : String) : String := String.ofList (tables.lowerFrom [] text.toList)

/-- What comes first only adds to the lower case of what follows. -/
theorem exists_lowerFrom_append (before first second : List Char) :
    ∃ rest, tables.lowerFrom before (first ++ second) =
      rest ++ tables.lowerFrom (first.reverse ++ before) second := by
  induction first generalizing before with
  | nil => exact ⟨[], rfl⟩
  | cons c first ih =>
      obtain ⟨rest, hrest⟩ := ih (c :: before)
      refine ⟨tables.lowerAt before c (first ++ second) ++ rest, ?_⟩
      rw [List.cons_append, lowerFrom, hrest, List.append_assoc, List.reverse_cons,
        List.append_assoc]
      rfl

variable {tables}

/-- What stands next to a message: nothing, or a line break. -/
def Separated (neighbour : List Char) : Prop :=
  neighbour = [] ∨ neighbour.head? = some '\n'

theorem nextIsCased_of_separated {neighbour : List Char} (h : Separated neighbour) :
    tables.nextIsCased neighbour = false := by
  rcases h with rfl | hnewline
  · rfl
  · cases neighbour with
    | nil => rfl
    | cons c neighbour =>
        obtain rfl : c = '\n' := Option.some.inj hnewline
        simp [nextIsCased, tables.isCaseIgnorable_newline, tables.isCased_newline]

/-- Beyond an end of the message, a sigma sees no case. -/
theorem nextIsCased_append (text : List Char) {neighbour : List Char}
    (h : Separated neighbour) :
    tables.nextIsCased (text ++ neighbour) = tables.nextIsCased text := by
  induction text with
  | nil => exact nextIsCased_of_separated h
  | cons c text ih =>
      unfold nextIsCased at ih ⊢
      rw [List.cons_append, List.dropWhile_cons, List.dropWhile_cons]
      by_cases hignorable : tables.isCaseIgnorable c = true
      · rw [if_pos hignorable, if_pos hignorable]
        exact ih
      · rw [if_neg hignorable, if_neg hignorable]
        rfl

/-- **A message has the same lower case on its own** as next to line breaks. -/
theorem lowerFrom_append (before text : List Char) {front back : List Char}
    (hfront : Separated front) (hback : Separated back) :
    tables.lowerFrom (before ++ front) (text ++ back) =
      tables.lowerFrom before text ++ tables.lowerFrom (text.reverse ++ before ++ front) back := by
  induction text generalizing before with
  | nil => rfl
  | cons c text ih =>
      have hat : tables.lowerAt (before ++ front) c (text ++ back) =
          tables.lowerAt before c text := by
        unfold lowerAt
        rw [nextIsCased_append before hfront, nextIsCased_append text hback]
      rw [List.cons_append, lowerFrom, lowerFrom, hat, ← List.cons_append, ih (c :: before),
        List.append_assoc]
      simp

/-- The lower case of a message is part of the lower case of the whole. -/
theorem lower_within {front text back : List Char} (hfront : Separated front.reverse)
    (hback : Separated back) :
    tables.lowerFrom [] text <:+: tables.lowerFrom [] (front ++ (text ++ back)) := by
  obtain ⟨rest, hrest⟩ := tables.exists_lowerFrom_append [] front (text ++ back)
  rw [hrest, List.append_nil]
  have hmessage := @lowerFrom_append tables [] text _ _ hfront hback
  rw [List.nil_append] at hmessage
  rw [hmessage]
  exact ⟨rest, _, List.append_assoc _ _ _⟩

end CaseTables

/-! ## Joining -/

open CaseTables

/-- A joined list shows each of its texts between line breaks. -/
theorem intercalate_split {contents : List String} {content : String} (hmem : content ∈ contents) :
    ∃ front back, ("\n".intercalate contents).toList = front ++ (content.toList ++ back) ∧
      Separated front.reverse ∧ Separated back := by
  induction contents with
  | nil => cases hmem
  | cons first rest ih =>
      by_cases hrest : rest = []
      · subst hrest
        obtain rfl := List.mem_singleton.mp hmem
        exact ⟨[], [], by simp, .inl rfl, .inl rfl⟩
      have hjoined : ("\n".intercalate (first :: rest)).toList =
          first.toList ++ '\n' :: ("\n".intercalate rest).toList := by
        rw [String.intercalate_cons_of_ne_nil hrest]
        simp
      rw [hjoined]
      rcases List.mem_cons.mp hmem with rfl | hmem
      · exact ⟨[], _, rfl, .inl rfl, .inr rfl⟩
      · obtain ⟨front, back, hsplit, hfront, hback⟩ := ih hmem
        refine ⟨first.toList ++ '\n' :: front, back, by rw [hsplit]; simp, .inr ?_, hback⟩
        rcases hfront with hempty | hnewline
        · rw [List.reverse_eq_nil_iff.mp hempty]
          simp
        · cases hreverse : front.reverse with
          | nil => simp [hreverse] at hnewline
          | cons c others =>
              rw [hreverse] at hnewline
              simpa [hreverse] using hnewline

/-! ## The checks -/

namespace BasicGuardrail

variable {text : PyText} {classes : CharClasses}

/-- A text is allowed if none of the patterns and of the phrases occurs in it. -/
theorem check_allow_iff {checked : String} :
    (check text classes checked).action = .allow ↔
      classes.search (ssn classes) checked = false ∧
        classes.search (creditCard classes) checked = false ∧
        classes.search email checked = false ∧
        ∀ phrase ∈ promptInjectionPhrases, occursIn phrase (text.lower checked) = false := by
  unfold check
  cases hssn : classes.search (ssn classes) checked with
  | true => simp [blockPii]
  | false =>
      cases hcard : classes.search (creditCard classes) checked with
      | true => simp [blockPii]
      | false =>
          cases hemail : classes.search email checked with
          | true => simp [blockPii]
          | false =>
              simp only [Bool.false_eq_true, if_false, true_and]
              cases hphrase : promptInjectionPhrases.find? fun phrase =>
                  occursIn phrase (text.lower checked) with
              | none => simpa using hphrase
              | some phrase =>
                  have hmem := List.mem_of_find?_eq_some hphrase
                  have hoccurs : occursIn phrase (text.lower checked) = true := by
                    simpa using List.find?_some hphrase
                  constructor
                  · intro haction
                    cases haction
                  · intro hall
                    rw [hall phrase hmem] at hoccurs
                    cases hoccurs

/-- A line break belongs to no word. -/
theorem isWord_of_separated {neighbour : List Char} (h : Separated neighbour) :
    neighbour.head?.any classes.isWord = false := by
  rcases h with rfl | hnewline
  · rfl
  · rw [hnewline]
    exact classes.isWord_ascii '\n' (by decide)

theorem lastOf_none_eq (front : List Char) : lastOf none front = front.reverse.head? := by
  induction front using List.reverseRecOn with
  | nil => rfl
  | append_singleton front c _ => simp [lastOf_append]

/-- A pattern that occurs in a message occurs in the messages joined. -/
theorem search_joined {pattern : Pattern Char} {contents : List String} {content : String}
    (hmem : content ∈ contents) (h : classes.search pattern content = true) :
    classes.search pattern ("\n".intercalate contents) = true := by
  obtain ⟨front, back, hsplit, hfront, hback⟩ := intercalate_split hmem
  unfold CharClasses.search at h ⊢
  rw [Pattern.searchFrom_iff] at h ⊢
  rw [hsplit]
  apply h.within
  · rw [lastOf_none_eq]
    exact isWord_of_separated hfront
  · exact isWord_of_separated hback

/-- A phrase that occurs in a message in lower case does so in the messages joined. -/
theorem occursIn_joined {tables : CaseTables} {phrase content : String} {contents : List String}
    (hmem : content ∈ contents) (h : occursIn phrase (tables.lower content) = true) :
    occursIn phrase (tables.lower ("\n".intercalate contents)) = true := by
  obtain ⟨front, back, hsplit, hfront, hback⟩ := intercalate_split hmem
  have hphrase : phrase.toList <:+: tables.lowerFrom [] content.toList := by
    simpa [occursIn, lower] using h
  have hjoined := hphrase.trans (@lower_within tables _ _ _ hfront hback)
  rw [← hsplit] at hjoined
  simpa [occursIn, lower] using hjoined

/-- **Joining hides nothing**: when the guardrail allows the messages of a request joined,
as the chat handler has them checked, it would allow each message on its own. -/
theorem check_allow_of_joined {reprStr : String → String} {tables : CaseTables}
    {classes : CharClasses} {a : Accepted}
    (h : (check ⟨reprStr, tables.lower⟩ classes a.combinedInputText).action = .allow) :
    ∀ message ∈ a.chatRequest.messages,
      (check ⟨reprStr, tables.lower⟩ classes message.content).action = .allow := by
  intro message hmessage
  have hmem : message.content ∈ a.chatRequest.messages.map ChatMessage.content :=
    List.mem_map_of_mem hmessage
  have hquiet : ∀ {pattern : Pattern Char},
      classes.search pattern a.combinedInputText = false →
      classes.search pattern message.content = false := by
    intro pattern hjoined
    by_contra hfound
    rw [Accepted.combinedInputText, search_joined hmem (by simpa using hfound)] at hjoined
    cases hjoined
  obtain ⟨hssn, hcard, hemail, hphrases⟩ := check_allow_iff.mp h
  refine check_allow_iff.mpr ⟨hquiet hssn, hquiet hcard, hquiet hemail, ?_⟩
  intro phrase hphrase
  have hjoined := hphrases phrase hphrase
  by_contra hfound
  rw [Accepted.combinedInputText, occursIn_joined hmem (by simpa using hfound)] at hjoined
  cases hjoined

/-- Three messages whose digits would be a social security number without the breaks. -/
def splitDigits : ChatRequest where
  model := none
  messages := [⟨.user, "Σ 123", by decide⟩, ⟨.assistant, "-45-", by decide⟩,
    ⟨.user, "6789 ΣΑΣ", by decide⟩]
  maxTokens := 1
  temperature := zeroFloat
  stream := false
  maxTokensBounds := by decide
  temperatureBounds := by decide +kernel
  lastMessageIsUser := by decide

theorem check_allow_of_joined_splitDigits :
    (check ⟨id, CaseTables.ascii.lower⟩ .ascii "6789 ΣΑΣ").action = .allow :=
  check_allow_of_joined
    (a := ⟨⟨"r", ⟨"u", "t", "a", [], "jwt", none⟩, { tenantId := "t" }⟩, splitDigits, "m"⟩)
    (by decide +kernel) ⟨.user, "6789 ΣΑΣ", by decide⟩ (.tail _ (.tail _ (.head _)))

end BasicGuardrail

end BedrockGateway
