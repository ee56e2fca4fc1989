/-
# JSON values and their ASCII rendering

Values are rendered as Python's `json.dumps` renders them with its default ASCII
escaping: every character outside the printable ASCII range is written as one
`\u` escape, or as a surrogate pair of them, and quotes and backslashes are
escaped. Numbers are known by the literal that is printed for them.

The rendering is unambiguous, even followed by arbitrary text, as long as a
number is not followed by more characters of a number. Since a value inside a
document is always followed by a delimiter, equal documents come from equal
values.
-/

import BedrockGateway.Foundation.Dict
import Mathlib.Data.List.Basic
import Mathlib.Tactic.IntervalCases

namespace Foundation

/-- The characters a number literal consists of. -/
def isNumeric (c : Char) : Bool :=
  c.isDigit || c == '.' || c == 'e' || c == '+' || c == '-'

/-- A number, known by the literal printed for it. -/
structure NumLiteral where
  /-- The literal. -/
  text : List Char
  /-- A literal has at least one character. -/
  nonempty : text ≠ []
  /-- Nothing but the characters of a number occurs in it. -/
  numeric : ∀ c ∈ text, isNumeric c = true
  deriving DecidableEq

theorem NumLiteral.ext {m n : NumLiteral} (h : m.text = n.text) : m = n := by
  cases m
  cases n
  simpa using h

/-- The decimal literal of an integer. -/
def NumLiteral.ofInt : ℤ → NumLiteral
  | .ofNat n => ⟨Nat.toDigits 10 n, Nat.toDigits_ne_nil, fun c hc => by
      simp [isNumeric, Nat.isDigit_of_mem_toDigits (by norm_num) le_rfl hc]⟩
  | .negSucc n => ⟨'-' :: Nat.toDigits 10 (n + 1), by simp, fun c hc => by
      rcases List.mem_cons.mp hc with rfl | hmem
      · rfl
      · simp [isNumeric, Nat.isDigit_of_mem_toDigits (by norm_num) le_rfl hmem]⟩

/-- A JSON value. Objects keep the order of their fields. -/
inductive Json
  | null
  | bool (value : Bool)
  | num (literal : NumLiteral)
  | str (text : String)
  | arr (items : List Json)
  | obj (fields : List (String × Json))

namespace Json

/-- An integer as a JSON number. -/
def int (n : ℤ) : Json := .num (.ofInt n)

/-- The blanks written after a comma and after a colon. -/
structure Layout where
  afterComma : List Char
  afterColon : List Char

/-- No blanks at all: `separators=(",", ":")`. -/
def Layout.compact : Layout := ⟨[], []⟩

/-- One blank after each separator: the default. -/
def Layout.spaced : Layout := ⟨[' '], [' ']⟩

/-! ## Rendering -/

/-- A hexadecimal digit in lower case. -/
def hexDigit (n : ℕ) : Char := Nat.digitChar (n % 16)

/-- The escape of one UTF-16 code unit. -/
def unicodeEscape (n : ℕ) : List Char :=
  ['\\', 'u', hexDigit (n / 4096), hexDigit (n / 256), hexDigit (n / 16), hexDigit n]

/-- The characters printed for one character of a string. -/
def escapeChar (c : Char) : List Char :=
  if c = '"' then ['\\', '"']
  else if c = '\\' then ['\\', '\\']
  else if c = '\n' then ['\\', 'n']
  else if c = '\r' then ['\\', 'r']
  else if c = '\t' then ['\\', 't']
  else if c = '\x0c' then ['\\', 'f']
  else if c = '\x08' then ['\\', 'b']
  else if 32 ≤ c.toNat ∧ c.toNat ≤ 126 then [c]
  else if c.toNat < 65536 then unicodeEscape c.toNat
  else unicodeEscape (55296 + (c.toNat - 65536) / 1024) ++
    unicodeEscape (56320 + (c.toNat - 65536) % 1024)

/-- The characters with an escape of two characters, and the second of these. -/
def shortEscapes : List (Char × Char) :=
  [('"', '"'), ('\\', '\\'), ('\n', 'n'), ('\r', 'r'), ('\t', 't'), ('\x0c', 'f'), ('\x08', 'b')]

/-- The ways a character is printed. -/
theorem escapeChar_cases (c : Char) :
    (∃ e, (c, e) ∈ shortEscapes ∧ escapeChar c = ['\\', e]) ∨
      (c ≠ '"' ∧ c ≠ '\\' ∧ 32 ≤ c.toNat ∧ c.toNat ≤ 126 ∧ escapeChar c = [c]) ∨
      (c.toNat < 65536 ∧ escapeChar c = unicodeEscape c.toNat) ∨
      (65536 ≤ c.toNat ∧ escapeChar c = unicodeEscape (55296 + (c.toNat - 65536) / 1024) ++
        unicodeEscape (56320 + (c.toNat - 65536) % 1024)) := by
  by_cases hshort : c ∈ shortEscapes.map Prod.fst
  · left
    simp only [shortEscapes, List.map_cons, List.map_nil, List.mem_cons, List.not_mem_nil,
      or_false] at hshort
    rcases hshort with rfl | rfl | rfl | rfl | rfl | rfl | rfl <;>
      exact ⟨_, by decide, rfl⟩
  · right
    simp only [shortEscapes, List.map_cons, List.map_nil, List.mem_cons, List.not_mem_nil,
      or_false, not_or] at hshort
    obtain ⟨hquote, hback, hline, hreturn, htab, hfeed, hbell⟩ := hshort
    rw [escapeChar, if_neg hquote, if_neg hback, if_neg hline, if_neg hreturn, if_neg htab,
      if_neg hfeed, if_neg hbell]
    by_cases hprint : 32 ≤ c.toNat ∧ c.toNat ≤ 126
    · exact .inl ⟨hquote, hback, hprint.1, hprint.2, if_pos hprint⟩
    · rw [if_neg hprint]
      by_cases hplane : c.toNat < 65536
      · exact .inr (.inl ⟨hplane, if_pos hplane⟩)
      · exact .inr (.inr ⟨not_lt.mp hplane, if_neg hplane⟩)

/-- A string literal. -/
def renderString (s : String) : List Char :=
  '"' :: (s.toList.flatMap escapeChar ++ ['"'])

mutual

/-- A value in a given layout. -/
def render (l : Layout) : Json → List Char
  | .null => "null".toList
  | .bool true => "true".toList
  | .bool false => "false".toList
  | .num literal => literal.text
  | .str text => renderString text
  | .arr [] => ['[', ']']
  | .arr (item :: items) => '[' :: (render l item ++ renderItems l items)
  | .obj [] => ['{', '}']
  | .obj ((key, value) :: fields) =>
      '{' :: (renderString key ++ ':' :: (l.afterColon ++ (render l value ++
        renderFields l fields)))

/-- The items after the first one, and the closing bracket. -/
def renderItems (l : Layout) : List Json → List Char
  | [] => [']']
  | item :: items => ',' :: (l.afterComma ++ (render l item ++ renderItems l items))

/-- The fields after the first one, and the closing brace. -/
def renderFields (l : Layout) : List (String × Json) → List Char
  | [] => ['}']
  | (key, value) :: fields =>
      ',' :: (l.afterComma ++ (renderString key ++ ':' :: (l.afterColon ++ (render l value ++
        renderFields l fields))))

end

/-- The document printed for a value. -/
def dumps (l : Layout) (value : Json) : String := String.ofList (render l value)

/-! ## Reading a character back -/

/-- The value of a lower-case hexadecimal digit. -/
def hexValue (c : Char) : ℕ :=
  if c.isDigit then c.toNat - 48 else c.toNat - 87

/-- The code unit spelled by four hexadecimal digits. -/
def codeUnit (a b c d : Char) : ℕ :=
  hexValue a * 4096 + hexValue b * 256 + hexValue c * 16 + hexValue d

/-- Read one character of a string literal. -/
def readChar : List Char → Option (Char × List Char)
  | '\\' :: 'u' :: a :: b :: c :: d :: rest =>
      if 55296 ≤ codeUnit a b c d ∧ codeUnit a b c d < 56320 then
        match rest with
        | '\\' :: 'u' :: e :: f :: g :: h :: rest =>
            some (Char.ofNat (65536 + (codeUnit a b c d - 55296) * 1024 +
              (codeUnit e f g h - 56320)), rest)
        | _ => none
      else some (Char.ofNat (codeUnit a b c d), rest)
  | '\\' :: 'n' :: rest => some ('\n', rest)
  | '\\' :: 'r' :: rest => some ('\r', rest)
  | '\\' :: 't' :: rest => some ('\t', rest)
  | '\\' :: 'f' :: rest => some ('\x0c', rest)
  | '\\' :: 'b' :: rest => some ('\x08', rest)
  | '\\' :: c :: rest => some (c, rest)
  | c :: rest => some (c, rest)
  | [] => none

private theorem hexValue_hexDigit (n : ℕ) : hexValue (hexDigit n) = n % 16 := by
  have hlt : n % 16 < 16 := Nat.mod_lt _ (by norm_num)
  unfold hexDigit
  generalize n % 16 = m at hlt
  interval_cases m <;> rfl

private theorem codeUnit_digits {n : ℕ} (hn : n < 65536) :
    codeUnit (hexDigit (n / 4096)) (hexDigit (n / 256)) (hexDigit (n / 16)) (hexDigit n) = n := by
  simp only [codeUnit, hexValue_hexDigit]
  omega

/-- Reading undoes escaping, whatever follows. -/
theorem readChar_escapeChar (c : Char) (rest : List Char) :
    readChar (escapeChar c ++ rest) = some (c, rest) := by
  have hvalid : c.toNat < 55296 ∨ (57343 < c.toNat ∧ c.toNat < 1114112) := c.valid
  rcases escapeChar_cases c with ⟨e, hmem, heq⟩ | ⟨_, hback, _, _, heq⟩ | ⟨hplane, heq⟩ |
    ⟨hplane, heq⟩ <;> rw [heq]
  · simp only [shortEscapes, List.mem_cons, Prod.mk.injEq, List.not_mem_nil, or_false] at hmem
    rcases hmem with ⟨rfl, rfl⟩ | ⟨rfl, rfl⟩ | ⟨rfl, rfl⟩ | ⟨rfl, rfl⟩ | ⟨rfl, rfl⟩ | ⟨rfl, rfl⟩ |
      ⟨rfl, rfl⟩ <;> rfl
  · simp [readChar, hback]
  · have hunit : ¬ (55296 ≤ c.toNat ∧ c.toNat < 56320) := by omega
    simp only [unicodeEscape, List.cons_append, List.nil_append, readChar,
      codeUnit_digits hplane, if_neg hunit, Char.ofNat_toNat]
  · have hhigh : 55296 + (c.toNat - 65536) / 1024 < 65536 := by omega
    have hlow : 56320 + (c.toNat - 65536) % 1024 < 65536 := by omega
    have hunit : 55296 ≤ 55296 + (c.toNat - 65536) / 1024 ∧
        55296 + (c.toNat - 65536) / 1024 < 56320 := by omega
    have hsum : 65536 + (55296 + (c.toNat - 65536) / 1024 - 55296) * 1024 +
        (56320 + (c.toNat - 65536) % 1024 - 56320) = c.toNat := by omega
    simp only [unicodeEscape, List.cons_append, List.nil_append, readChar,
      codeUnit_digits hhigh, codeUnit_digits hlow, if_pos hunit, hsum, Char.ofNat_toNat]

/-- The printed form of a character never starts with a quote. -/
theorem escapeChar_head (c : Char) (rest : List Char) :
    (escapeChar c ++ rest).head? ≠ some '"' := by
  rcases escapeChar_cases c with ⟨e, _, heq⟩ | ⟨hquote, _, _, _, heq⟩ | ⟨_, heq⟩ | ⟨_, heq⟩ <;>
    rw [heq]
  · simp
  · simpa using hquote
  · simp [unicodeEscape]
  · simp [unicodeEscape]

/-! ## Unambiguity -/

/-- Two string literals followed by text agree only if the strings and the text do. -/
private theorem escaped_inj {s t rest rest' : List Char}
    (h : s.flatMap escapeChar ++ '"' :: rest = t.flatMap escapeChar ++ '"' :: rest') :
    s = t ∧ rest = rest' := by
  induction s generalizing t with
  | nil =>
      cases t with
      | nil => simpa using h
      | cons d t =>
          rw [List.flatMap_cons, List.append_assoc] at h
          exact absurd (congrArg List.head? h).symm (escapeChar_head d _)
  | cons c s ih =>
      cases t with
      | nil =>
          rw [List.flatMap_cons, List.append_assoc] at h
          exact absurd (congrArg List.head? h) (escapeChar_head c _)
      | cons d t =>
          rw [List.flatMap_cons, List.flatMap_cons, List.append_assoc, List.append_assoc] at h
          have hread := congrArg readChar h
          rw [readChar_escapeChar, readChar_escapeChar, Option.some.injEq, Prod.mk.injEq] at hread
          obtain ⟨rfl, htail⟩ := hread
          obtain ⟨rfl, hrest⟩ := ih htail
          exact ⟨rfl, hrest⟩

theorem renderString_inj {s t : String} {rest rest' : List Char}
    (h : renderString s ++ rest = renderString t ++ rest') : s = t ∧ rest = rest' := by
  simp only [renderString, List.cons_append, List.append_assoc, List.cons.injEq, true_and,
    List.nil_append] at h
  obtain ⟨hchars, hrest⟩ := escaped_inj h
  exact ⟨String.toList_inj.mp hchars, hrest⟩

/-- The text does not go on with a character of a number. -/
def Stops (rest : List Char) : Prop := ∀ c ∈ rest.head?, isNumeric c = false

theorem literal_append_inj {m n : NumLiteral} {rest rest' : List Char} (hrest : Stops rest)
    (hrest' : Stops rest') (h : m.text ++ rest = n.text ++ rest') : m = n ∧ rest = rest' := by
  have hnum := m.numeric
  have hnum' := n.numeric
  suffices hsuff : ∀ s t : List Char, (∀ c ∈ s, isNumeric c = true) →
      (∀ c ∈ t, isNumeric c = true) → s ++ rest = t ++ rest' → s = t ∧ rest = rest' by
    obtain ⟨htext, htail⟩ := hsuff m.text n.text hnum hnum' h
    exact ⟨NumLiteral.ext htext, htail⟩
  intro s
  induction s with
  | nil =>
      intro t _ ht heq
      cases t with
      | nil => exact ⟨rfl, heq⟩
      | cons d t =>
          have hd := hrest d (by rw [List.nil_append] at heq; simp [heq])
          rw [ht d (by simp)] at hd
          cases hd
  | cons c s ih =>
      intro t hs ht heq
      cases t with
      | nil =>
          have hc := hrest' c (by rw [List.nil_append] at heq; simp [← heq])
          rw [hs c (by simp)] at hc
          cases hc
      | cons d t =>
          simp only [List.cons_append, List.cons.injEq] at heq
          obtain ⟨hst, htail⟩ := ih t (fun c hc => hs c (by simp [hc]))
            (fun c hc => ht c (by simp [hc])) heq.2
          exact ⟨by rw [heq.1, hst], htail⟩

theorem literal_ofInt_inj {m n : ℤ} (h : NumLiteral.ofInt m = NumLiteral.ofInt n) : m = n := by
  have htext := congrArg NumLiteral.text h
  have hdigits {i j : ℕ} (hij : Nat.toDigits 10 i = Nat.toDigits 10 j) : i = j := by
    have hi := Nat.ofDigitChars_ten_toDigits (n := i)
    rw [hij, Nat.ofDigitChars_ten_toDigits] at hi
    exact hi.symm
  have hminus (i : ℕ) : '-' ∉ Nat.toDigits 10 i := fun hmem => by
    have hdigit := Nat.isDigit_of_mem_toDigits (by norm_num) le_rfl hmem
    simp at hdigit
  cases m with
  | ofNat i =>
      cases n with
      | ofNat j => rw [hdigits htext]
      | negSucc j =>
          have hmem : '-' ∈ Nat.toDigits 10 i := by
            rw [show Nat.toDigits 10 i = '-' :: Nat.toDigits 10 (j + 1) from htext]
            simp
          exact absurd hmem (hminus i)
  | negSucc i =>
      cases n with
      | ofNat j =>
          have hmem : '-' ∈ Nat.toDigits 10 j := by
            rw [show Nat.toDigits 10 j = '-' :: Nat.toDigits 10 (i + 1) from htext.symm]
            simp
          exact absurd hmem (hminus j)
      | negSucc j =>
          have hsucc := hdigits (List.cons.inj htext).2
          rw [Nat.succ.inj hsucc]

theorem stops_nil : Stops [] := by simp [Stops]

theorem stops_cons {c : Char} (hc : isNumeric c = false) (rest : List Char) :
    Stops (c :: rest) := by
  simp [Stops, hc]

theorem stops_renderItems (l : Layout) (items : List Json) (rest : List Char) :
    Stops (renderItems l items ++ rest) := by
  cases items <;> exact stops_cons rfl _

theorem stops_renderFields (l : Layout) (fields : List (String × Json)) (rest : List Char) :
    Stops (renderFields l fields ++ rest) := by
  rcases fields with _ | ⟨⟨key, value⟩, fields⟩ <;> exact stops_cons rfl _

/-- The kind of a value, told from its first printed character. -/
private def kind (c : Char) : ℕ :=
  if isNumeric c then 0
  else if c = '"' then 1
  else if c = '[' then 2
  else if c = '{' then 3
  else if c = 'n' then 4
  else if c = 't' then 5
  else if c = 'f' then 6
  else 7

private def tag : Json → ℕ
  | .num _ => 0
  | .str _ => 1
  | .arr _ => 2
  | .obj _ => 3
  | .null => 4
  | .bool true => 5
  | .bool false => 6

private theorem render_head (l : Layout) (value : Json) :
    ∃ c tail, render l value = c :: tail ∧ kind c = tag value := by
  match value with
  | .null => exact ⟨_, _, rfl, rfl⟩
  | .bool true => exact ⟨_, _, rfl, rfl⟩
  | .bool false => exact ⟨_, _, rfl, rfl⟩
  | .num literal =>
      obtain ⟨c, tail, htext⟩ := List.exists_cons_of_ne_nil literal.nonempty
      have hc : isNumeric c = true := literal.numeric c (by simp [htext])
      exact ⟨c, tail, htext, by simp [kind, hc, tag]⟩
  | .str text => exact ⟨_, _, rfl, rfl⟩
  | .arr [] => exact ⟨_, _, rfl, rfl⟩
  | .arr (item :: items) => exact ⟨_, _, rfl, rfl⟩
  | .obj [] => exact ⟨_, _, rfl, rfl⟩
  | .obj ((key, value) :: fields) => exact ⟨_, _, rfl, rfl⟩

private theorem tag_eq_of_render {l : Layout} {v w : Json} {rest rest' : List Char}
    (h : render l v ++ rest = render l w ++ rest') : tag v = tag w := by
  obtain ⟨c, tail, hv, hc⟩ := render_head l v
  obtain ⟨d, tail', hw, hd⟩ := render_head l w
  rw [hv, hw, List.cons_append, List.cons_append, List.cons.injEq] at h
  rw [← hc, ← hd, h.1]

/-- No value starts with a closing bracket. -/
private theorem render_ne_bracket {l : Layout} {v : Json} {rest rest' : List Char} :
    ']' :: rest ≠ render l v ++ rest' := by
  intro h
  obtain ⟨c, tail, hv, hc⟩ := render_head l v
  rw [hv, List.cons_append, List.cons.injEq] at h
  have hkind : kind ']' = tag v := h.1 ▸ hc
  cases v with
  | bool value => cases value <;> simp [kind, isNumeric, tag] at hkind
  | _ => simp [kind, isNumeric, tag] at hkind

mutual

/-- **Renderings are unambiguous.** Equal texts that start with a rendered value
start with the same value. -/
theorem render_inj (l : Layout) : ∀ (v w : Json) {rest rest' : List Char}, Stops rest →
    Stops rest' → render l v ++ rest = render l w ++ rest' → v = w ∧ rest = rest' := by
  intro v w rest rest' hrest hrest' h
  have htag := tag_eq_of_render h
  match v, w with
  | .null, .null => exact ⟨rfl, List.append_cancel_left h⟩
  | .bool true, .bool true => exact ⟨rfl, List.append_cancel_left h⟩
  | .bool false, .bool false => exact ⟨rfl, List.append_cancel_left h⟩
  | .num m, .num n =>
      obtain ⟨rfl, htail⟩ := literal_append_inj hrest hrest' h
      exact ⟨rfl, htail⟩
  | .str s, .str t =>
      obtain ⟨rfl, htail⟩ := renderString_inj h
      exact ⟨rfl, htail⟩
  | .arr [], .arr [] => exact ⟨rfl, List.append_cancel_left h⟩
  | .arr [], .arr (y :: ys) =>
      simp only [render, List.cons_append, List.nil_append, List.cons.injEq, true_and,
        List.append_assoc] at h
      exact absurd h render_ne_bracket
  | .arr (x :: xs), .arr [] =>
      simp only [render, List.cons_append, List.nil_append, List.cons.injEq, true_and,
        List.append_assoc] at h
      exact absurd h.symm render_ne_bracket
  | .arr (x :: xs), .arr (y :: ys) =>
      simp only [render, List.cons_append, List.cons.injEq, true_and, List.append_assoc] at h
      obtain ⟨rfl, htail⟩ := render_inj l x y (stops_renderItems l xs rest)
        (stops_renderItems l ys rest') h
      obtain ⟨rfl, hend⟩ := renderItems_inj l xs ys htail
      exact ⟨rfl, hend⟩
  | .obj [], .obj [] => exact ⟨rfl, List.append_cancel_left h⟩
  | .obj [], .obj ((key, value) :: fields) =>
      simp [render, renderString] at h
  | .obj ((key, value) :: fields), .obj [] =>
      simp [render, renderString] at h
  | .obj ((key, value) :: fields), .obj ((key', value') :: fields') =>
      simp only [render, List.cons_append, List.cons.injEq, true_and, List.append_assoc] at h
      obtain ⟨rfl, hcolon⟩ := renderString_inj h
      simp only [List.cons.injEq, true_and, List.append_cancel_left_eq] at hcolon
      obtain ⟨rfl, htail⟩ := render_inj l value value' (stops_renderFields l fields rest)
        (stops_renderFields l fields' rest') hcolon
      obtain ⟨rfl, hend⟩ := renderFields_inj l fields fields' htail
      exact ⟨rfl, hend⟩

theorem renderItems_inj (l : Layout) : ∀ (xs ys : List Json) {rest rest' : List Char},
    renderItems l xs ++ rest = renderItems l ys ++ rest' → xs = ys ∧ rest = rest' := by
  intro xs ys rest rest' h
  match xs, ys with
  | [], [] => exact ⟨rfl, List.append_cancel_left h⟩
  | [], y :: ys => simp [renderItems] at h
  | x :: xs, [] => simp [renderItems] at h
  | x :: xs, y :: ys =>
      simp only [renderItems, List.cons_append, List.cons.injEq, true_and, List.append_assoc,
        List.append_cancel_left_eq] at h
      obtain ⟨rfl, htail⟩ := render_inj l x y (stops_renderItems l xs rest)
        (stops_renderItems l ys rest') h
      obtain ⟨rfl, hend⟩ := renderItems_inj l xs ys htail
      exact ⟨rfl, hend⟩

theorem renderFields_inj (l : Layout) : ∀ (fs gs : List (String × Json))
    {rest rest' : List Char},
    renderFields l fs ++ rest = renderFields l gs ++ rest' → fs = gs ∧ rest = rest' := by
  intro fs gs rest rest' h
  match fs, gs with
  | [], [] => exact ⟨rfl, List.append_cancel_left h⟩
  | [], (key, value) :: gs => simp [renderFields] at h
  | (key, value) :: fs, [] => simp [renderFields] at h
  | (key, value) :: fs, (key', value') :: gs =>
      simp only [renderFields, List.cons_append, List.cons.injEq, true_and, List.append_assoc,
        List.append_cancel_left_eq] at h
      obtain ⟨rfl, hcolon⟩ := renderString_inj h
      simp only [List.cons.injEq, true_and, List.append_cancel_left_eq] at hcolon
      obtain ⟨rfl, htail⟩ := render_inj l value value' (stops_renderFields l fs rest)
        (stops_renderFields l gs rest') hcolon
      obtain ⟨rfl, hend⟩ := renderFields_inj l fs gs htail
      exact ⟨rfl, hend⟩

end

/-- Equal documents come from equal values. -/
theorem dumps_injective (l : Layout) : Function.Injective (dumps l) := by
  intro v w h
  have hchars : render l v = render l w := String.ofList_injective h
  exact (render_inj l v w stops_nil stops_nil (by simpa using hchars)).1

end Json

/-! ## Parts of values

What a program finds when it takes a parsed document apart without looking at its
shape first.
-/

/-- The value under a name in the fields of an object. -/
def entryOf (name : String) (fields : List (String × Json)) : Option Json :=
  Dict.assoc name fields

/-- The items a loop over a value yields, none where it cannot be looped over. -/
def iterItems : Json → Option (List Json)
  | .arr items => some items
  | .obj fields => some (fields.map fun field => .str field.1)
  | .str text => some (text.toList.map fun c => .str (String.singleton c))
  | _ => none

end Foundation
