/-
# Reading JSON documents

Documents are read as Python's `json.loads` reads them: blanks between tokens are
skipped, control characters and unknown escapes are refused in strings, and of the
fields of one name the last one counts. A number is known by its literal, and read in
the forms it is printed in; escapes that spell no character are refused.

Reading undoes rendering. What is rendered consists of printable ASCII characters.
-/

import BedrockGateway.Foundation.Dict
import BedrockGateway.Foundation.Json
import Mathlib.Data.List.TakeWhile

namespace Foundation

namespace Json

/-! ## Numbers -/

/-- At least one digit, and nothing else. -/
def isDigits (text : List Char) : Bool := !text.isEmpty && text.all Char.isDigit

/-- Nothing, or an exponent. -/
def isExponent : List Char → Bool
  | [] => true
  | 'e' :: '+' :: text => isDigits text
  | 'e' :: '-' :: text => isDigits text
  | 'e' :: text => isDigits text
  | _ => false

/-- Nothing, a fraction, an exponent, or both. -/
def isFraction : List Char → Bool
  | '.' :: text =>
      !(text.takeWhile Char.isDigit).isEmpty && isExponent (text.dropWhile Char.isDigit)
  | text => isExponent text

/-- Digits without a leading zero, then a fraction. -/
def isUnsigned : List Char → Bool
  | '0' :: text => isFraction text
  | c :: text => c.isDigit && isFraction (text.dropWhile Char.isDigit)
  | [] => false

/-- `-?(0|[1-9]\d*)(\.\d+)?(e[-+]?\d+)?` -/
def isNumber : List Char → Bool
  | '-' :: text => isUnsigned text
  | text => isUnsigned text

theorem isNumber_ne_nil {text : List Char} (h : isNumber text = true) : text ≠ [] := by
  rintro rfl
  cases h

/-- Digits make a number unless there is a zero before other ones. -/
theorem isUnsigned_of_digits {text : List Char} (hne : text ≠ [])
    (hdigits : ∀ c ∈ text, c.isDigit = true) (hzero : text.head? = some '0' → text = ['0']) :
    isUnsigned text = true := by
  unfold isUnsigned
  split
  case h_1 rest =>
    obtain ⟨_, rfl⟩ := List.cons.inj (hzero rfl)
    rfl
  case h_2 c rest _ =>
    obtain ⟨hc, hrest⟩ := List.forall_mem_cons.mp hdigits
    rw [hc, List.dropWhile_eq_nil_iff.mpr hrest]
    rfl
  case h_3 => exact absurd rfl hne

theorem head?_toDigits {n : ℕ} (hn : 0 < n) : (Nat.toDigits 10 n).head? ≠ some '0' := by
  induction n using Nat.strong_induction_on with
  | h n ih =>
      rw [Nat.toDigits_eq_if (by norm_num)]
      split
      case isTrue hlt => interval_cases n <;> decide
      case isFalse hle =>
        have hpos : 0 < n / 10 := Nat.div_pos (by omega) (by norm_num)
        have hhead := ih (n / 10) (Nat.div_lt_self hn (by norm_num)) hpos
        obtain ⟨c, tail, htail⟩ := List.exists_cons_of_ne_nil (Nat.toDigits_ne_nil (n := n / 10)
          (b := 10))
        rw [htail] at hhead ⊢
        exact hhead

theorem isUnsigned_toDigits (n : ℕ) : isUnsigned (Nat.toDigits 10 n) = true := by
  apply isUnsigned_of_digits Nat.toDigits_ne_nil
  · exact fun c hc => Nat.isDigit_of_mem_toDigits (by norm_num) le_rfl hc
  · intro hzero
    rcases Nat.eq_zero_or_pos n with rfl | hpos
    · rfl
    · exact absurd hzero (head?_toDigits hpos)

/-- **An integer is printed as a number.** -/
theorem isNumber_ofInt (n : ℤ) : isNumber (NumLiteral.ofInt n).text = true := by
  cases n with
  | ofNat n =>
      show isNumber (Nat.toDigits 10 n) = true
      unfold isNumber
      split
      case h_1 rest heq =>
        have hminus : ('-' : Char) ∈ Nat.toDigits 10 n := heq ▸ List.mem_cons_self
        exact absurd (Nat.isDigit_of_mem_toDigits (by norm_num) le_rfl hminus) (by decide)
      case h_2 => exact isUnsigned_toDigits n
  | negSucc n => exact isUnsigned_toDigits (n + 1)

/-- Reads a number as far as its characters go. -/
def readNumber (text : List Char) : Option (Json × List Char) :=
  if h : isNumber (text.takeWhile isNumeric) = true then
    some (.num ⟨text.takeWhile isNumeric, isNumber_ne_nil h, fun _ hc => List.mem_takeWhile_imp hc⟩,
      text.dropWhile isNumeric)
  else none

theorem takeWhile_append_of_stops {text rest : List Char} (htext : ∀ c ∈ text, isNumeric c = true)
    (hrest : Stops rest) : (text ++ rest).takeWhile isNumeric = text ∧
      (text ++ rest).dropWhile isNumeric = rest := by
  rw [List.takeWhile_append_of_pos htext, List.dropWhile_append_of_pos htext]
  cases rest with
  | nil => exact ⟨List.append_nil text, rfl⟩
  | cons c rest =>
      have hc : isNumeric c = false := hrest c rfl
      rw [List.takeWhile_cons, List.dropWhile_cons, hc]
      exact ⟨List.append_nil text, rfl⟩

theorem readNumber_literal {literal : NumLiteral} (h : isNumber literal.text = true)
    {rest : List Char} (hrest : Stops rest) :
    readNumber (literal.text ++ rest) = some (.num literal, rest) := by
  obtain ⟨htake, hdrop⟩ := takeWhile_append_of_stops literal.numeric hrest
  unfold readNumber
  simp only [htake, hdrop, h, dite_true]

/-! ## Strings -/

/-- The value of a hexadecimal digit of either case. -/
def hexDigit? (c : Char) : Option ℕ :=
  if c.isDigit then some (c.toNat - 48)
  else if 97 ≤ c.toNat ∧ c.toNat ≤ 102 then some (c.toNat - 87)
  else if 65 ≤ c.toNat ∧ c.toNat ≤ 70 then some (c.toNat - 55)
  else none

/-- Reads the four digits of a code unit. -/
def readUnit : List Char → Option (ℕ × List Char)
  | a :: b :: c :: d :: rest => do
      let a ← hexDigit? a
      let b ← hexDigit? b
      let c ← hexDigit? c
      let d ← hexDigit? d
      some (a * 4096 + b * 256 + c * 16 + d, rest)
  | _ => none

/-- The second half of a surrogate pair. -/
def readLowUnit : List Char → Option (ℕ × List Char)
  | '\\' :: 'u' :: rest => readUnit rest >>= fun (low, rest) =>
      if 56320 ≤ low ∧ low < 57344 then some (low, rest) else none
  | _ => none

/-- The character a code unit begins. -/
def readScalar (unit : ℕ) (rest : List Char) : Option (Char × List Char) :=
  if 55296 ≤ unit ∧ unit < 56320 then
    (readLowUnit rest).map fun (low, rest) =>
      (Char.ofNat (65536 + (unit - 55296) * 1024 + (low - 56320)), rest)
  else if 56320 ≤ unit ∧ unit < 57344 then none
  else some (Char.ofNat unit, rest)

/-- The character behind a backslash. -/
def unescape : Char → Option Char
  | '"' => some '"'
  | '\\' => some '\\'
  | '/' => some '/'
  | 'b' => some '\x08'
  | 'f' => some '\x0c'
  | 'n' => some '\n'
  | 'r' => some '\r'
  | 't' => some '\t'
  | _ => none

/-- Reads one character of a string that does not end here. -/
def scanChar : List Char → Option (Char × List Char)
  | '\\' :: 'u' :: rest => readUnit rest >>= fun (unit, rest) => readScalar unit rest
  | '\\' :: c :: rest => (unescape c).map fun c => (c, rest)
  | c :: rest => if c.toNat < 32 then none else some (c, rest)
  | [] => none

theorem hexDigit?_hexDigit (n : ℕ) : hexDigit? (hexDigit n) = some (n % 16) := by
  have hlt : n % 16 < 16 := Nat.mod_lt _ (by norm_num)
  unfold hexDigit
  generalize n % 16 = m at hlt
  interval_cases m <;> rfl

theorem readUnit_unicodeEscape {n : ℕ} (hn : n < 65536) (rest : List Char) :
    readUnit
      (hexDigit (n / 4096) :: hexDigit (n / 256) :: hexDigit (n / 16) :: hexDigit n :: rest) =
      some (n, rest) := by
  have hsum : n / 4096 % 16 * 4096 + n / 256 % 16 * 256 + n / 16 % 16 * 16 + n % 16 = n := by
    omega
  simp only [readUnit, hexDigit?_hexDigit, Option.bind_eq_bind, Option.bind_some, hsum]

theorem scanChar_unicodeEscape {n : ℕ} (hn : n < 65536) (rest : List Char) :
    scanChar (unicodeEscape n ++ rest) = readScalar n rest := by
  simp only [unicodeEscape, List.cons_append, List.nil_append, scanChar,
    readUnit_unicodeEscape hn, Option.bind_eq_bind, Option.bind_some]

theorem readLowUnit_unicodeEscape {n : ℕ} (hn : 56320 ≤ n ∧ n < 57344) (rest : List Char) :
    readLowUnit (unicodeEscape n ++ rest) = some (n, rest) := by
  have hunit : n < 65536 := by omega
  simp only [unicodeEscape, List.cons_append, List.nil_append, readLowUnit,
    readUnit_unicodeEscape hunit, Option.bind_eq_bind, Option.bind_some, if_pos hn]

/-- A surrogate pair spells one character. -/
theorem readScalar_pair {high low n : ℕ} (hhigh : 55296 ≤ high ∧ high < 56320)
    (hlow : 56320 ≤ low ∧ low < 57344)
    (hsum : 65536 + (high - 55296) * 1024 + (low - 56320) = n) (rest : List Char) :
    readScalar high (unicodeEscape low ++ rest) = some (Char.ofNat n, rest) := by
  rw [readScalar, if_pos hhigh, readLowUnit_unicodeEscape hlow, Option.map_some]
  exact congrArg (fun n => some (Char.ofNat n, rest)) hsum

/-- Scanning undoes escaping, whatever follows. -/
theorem scanChar_escapeChar (c : Char) (rest : List Char) :
    scanChar (escapeChar c ++ rest) = some (c, rest) := by
  have hvalid : c.toNat < 55296 ∨ (57343 < c.toNat ∧ c.toNat < 1114112) := c.valid
  rcases escapeChar_cases c with ⟨e, hmem, heq⟩ | ⟨_, hback, hlow, _, heq⟩ | ⟨hplane, heq⟩ |
    ⟨hplane, heq⟩ <;> rw [heq]
  · simp only [shortEscapes, List.mem_cons, Prod.mk.injEq, List.not_mem_nil, or_false] at hmem
    rcases hmem with ⟨rfl, rfl⟩ | ⟨rfl, rfl⟩ | ⟨rfl, rfl⟩ | ⟨rfl, rfl⟩ | ⟨rfl, rfl⟩ | ⟨rfl, rfl⟩ |
      ⟨rfl, rfl⟩ <;> rfl
  · have hcontrol : ¬c.toNat < 32 := by omega
    simp [scanChar, hback, hcontrol]
  · rw [scanChar_unicodeEscape hplane, readScalar, if_neg (by omega), if_neg (by omega),
      Char.ofNat_toNat]
  · rw [List.append_assoc, scanChar_unicodeEscape (by omega),
      readScalar_pair (by omega) (by omega) (n := c.toNat) (by omega), Char.ofNat_toNat]

/-- Reads a string up to its closing quote. -/
def readString : ℕ → List Char → Option (List Char × List Char)
  | 0, _ => none
  | _ + 1, '"' :: rest => some ([], rest)
  | fuel + 1, text => do
      let (c, rest) ← scanChar text
      let (s, rest) ← readString fuel rest
      some (c :: s, rest)

theorem readString_escaped {fuel : ℕ} (s rest : List Char) (hfuel : s.length < fuel) :
    readString fuel (s.flatMap escapeChar ++ '"' :: rest) = some (s, rest) := by
  induction s generalizing fuel with
  | nil =>
      obtain ⟨fuel, rfl⟩ := Nat.exists_eq_add_one_of_ne_zero (by omega : fuel ≠ 0)
      rfl
  | cons c s ih =>
      obtain ⟨fuel, rfl⟩ := Nat.exists_eq_add_one_of_ne_zero (by omega : fuel ≠ 0)
      rw [List.length_cons] at hfuel
      rw [List.flatMap_cons, List.append_assoc]
      unfold readString
      split
      case h_1 heq => cases heq
      case h_2 heq =>
        exact absurd (congrArg List.head? heq) (escapeChar_head c _)
      case h_3 =>
        rename_i heq _
        cases heq
        rw [scanChar_escapeChar]
        simp only [Option.bind_eq_bind, Option.bind_some]
        rw [ih (by omega)]
        rfl

/-! ## Values -/

/-- The characters between tokens that say nothing. -/
def isBlank (c : Char) : Bool := c == ' ' || c == '\t' || c == '\n' || c == '\r'

/-- What follows the blanks at the start. -/
def skipBlanks (text : List Char) : List Char := text.dropWhile isBlank

/-- Reads one of the three words. -/
def readWord (text : List Char) : Option (Json × List Char) :=
  ((text.dropPrefix? "null".toList).map (.null, ·)).or
    (((text.dropPrefix? "true".toList).map (.bool true, ·)).or
      ((text.dropPrefix? "false".toList).map (.bool false, ·)))

mutual

/-- Reads a value; the fuel bounds the number of characters that are looked at. -/
def readValue : ℕ → List Char → Option (Json × List Char)
  | 0, _ => none
  | fuel + 1, text =>
      match text with
      | '"' :: rest => (readString fuel rest).map fun (s, rest) => (.str (String.ofList s), rest)
      | '[' :: rest =>
          match skipBlanks rest with
          | ']' :: rest => some (.arr [], rest)
          | rest => (readItems fuel rest).map fun (items, rest) => (.arr items, rest)
      | '{' :: rest =>
          match skipBlanks rest with
          | '}' :: rest => some (.obj [], rest)
          | rest => (readFields fuel rest).map fun (fields, rest) =>
              (.obj (Dict.ofList fields).entries, rest)
      | text => (readWord text).or (readNumber text)

/-- Reads items up to the closing bracket. -/
def readItems : ℕ → List Char → Option (List Json × List Char)
  | 0, _ => none
  | fuel + 1, text => do
      let (item, rest) ← readValue fuel text
      match skipBlanks rest with
      | ']' :: rest => some ([item], rest)
      | ',' :: rest =>
          let (items, rest) ← readItems fuel (skipBlanks rest)
          some (item :: items, rest)
      | _ => none

/-- Reads fields up to the closing brace. -/
def readFields : ℕ → List Char → Option (List (String × Json) × List Char)
  | fuel + 1, '"' :: text => do
      let (key, rest) ← readString fuel text
      match skipBlanks rest with
      | ':' :: rest =>
          let (value, rest) ← readValue fuel (skipBlanks rest)
          match skipBlanks rest with
          | '}' :: rest => some ([(String.ofList key, value)], rest)
          | ',' :: rest =>
              let (fields, rest) ← readFields fuel (skipBlanks rest)
              some ((String.ofList key, value) :: fields, rest)
          | _ => none
      | _ => none
  | _, _ => none

end

/-- `json.loads` -/
def loads (text : List Char) : Option Json :=
  match readValue (text.length + 1) (skipBlanks text) with
  | some (value, rest) => if skipBlanks rest = [] then some value else none
  | none => none

/-! ## Reading what was rendered -/

variable {l : Layout}

mutual

/-- Every number has the literal of one, and no object has two fields of one name. -/
def wellFormed : Json → Bool
  | .num literal => isNumber literal.text
  | .arr items => wellFormedItems items
  | .obj fields => decide (fields.map Prod.fst).Nodup && wellFormedFields fields
  | _ => true

def wellFormedItems : List Json → Bool
  | [] => true
  | item :: items => wellFormed item && wellFormedItems items

def wellFormedFields : List (String × Json) → Bool
  | [] => true
  | (_, value) :: fields => wellFormed value && wellFormedFields fields

end

theorem wellFormedFields_iff {fields : List (String × Json)} :
    wellFormedFields fields = true ↔ ∀ pair ∈ fields, wellFormed pair.2 = true := by
  induction fields with
  | nil => simp [wellFormedFields]
  | cons pair fields ih => simp [wellFormedFields, ih]

/-- Nothing but blanks is written between tokens. -/
structure Layout.Blank (l : Layout) : Prop where
  afterComma : ∀ c ∈ l.afterComma, isBlank c = true
  afterColon : ∀ c ∈ l.afterColon, isBlank c = true

theorem Layout.blank_spaced : Layout.spaced.Blank where
  afterComma := List.all_eq_true.mp rfl
  afterColon := List.all_eq_true.mp rfl

/-- The text does not begin with a blank. -/
def Begins (text : List Char) : Prop := ∀ c ∈ text.head?, isBlank c = false

theorem skipBlanks_of_begins {text : List Char} (h : Begins text) : skipBlanks text = text := by
  cases text with
  | nil => rfl
  | cons c text =>
      rw [skipBlanks, List.dropWhile_cons, h c rfl]
      rfl

theorem skipBlanks_append {blanks text : List Char} (hblanks : ∀ c ∈ blanks, isBlank c = true)
    (h : Begins text) : skipBlanks (blanks ++ text) = text := by
  rw [skipBlanks, List.dropWhile_append_of_pos hblanks]
  exact skipBlanks_of_begins h

theorem begins_cons {c : Char} (hc : isBlank c = false) (text : List Char) :
    Begins (c :: text) := by
  intro d hd
  obtain rfl : c = d := Option.some.inj hd
  exact hc

/-- A value begins with neither a blank nor a closing bracket. -/
theorem render_begins (l : Layout) (value : Json) :
    ∃ c tail, render l value = c :: tail ∧ isBlank c = false ∧ c ≠ ']' := by
  match value with
  | .null => exact ⟨_, _, rfl, rfl, by decide⟩
  | .bool true => exact ⟨_, _, rfl, rfl, by decide⟩
  | .bool false => exact ⟨_, _, rfl, rfl, by decide⟩
  | .num literal =>
      obtain ⟨c, tail, htext⟩ := List.exists_cons_of_ne_nil literal.nonempty
      have hc : isNumeric c = true := literal.numeric c (by simp [htext])
      refine ⟨c, tail, htext, ?_, ?_⟩
      · by_contra hblank
        rw [Bool.not_eq_false] at hblank
        simp only [isBlank, Bool.or_eq_true, beq_iff_eq] at hblank
        rcases hblank with ((rfl | rfl) | rfl) | rfl <;> cases hc
      · rintro rfl
        cases hc
  | .str text => exact ⟨_, _, rfl, rfl, by decide⟩
  | .arr [] => exact ⟨_, _, rfl, rfl, by decide⟩
  | .arr (item :: items) => exact ⟨_, _, rfl, rfl, by decide⟩
  | .obj [] => exact ⟨_, _, rfl, rfl, by decide⟩
  | .obj ((key, value) :: fields) => exact ⟨_, _, rfl, rfl, by decide⟩

theorem begins_render (l : Layout) (value : Json) (rest : List Char) :
    Begins (render l value ++ rest) := by
  obtain ⟨c, tail, hrender, hc, _⟩ := render_begins l value
  rw [hrender]
  exact begins_cons hc _

theorem begins_renderString (s : String) (rest : List Char) : Begins (renderString s ++ rest) :=
  begins_cons rfl _

theorem begins_renderItems (l : Layout) (items : List Json) (rest : List Char) :
    Begins (renderItems l items ++ rest) := by
  cases items <;> exact begins_cons rfl _

theorem begins_renderFields (l : Layout) (fields : List (String × Json)) (rest : List Char) :
    Begins (renderFields l fields ++ rest) := by
  rcases fields with _ | ⟨⟨key, value⟩, fields⟩ <;> exact begins_cons rfl _

theorem length_le_renderString (s : String) : s.toList.length + 2 ≤ (renderString s).length := by
  have hchars : ∀ text : List Char, text.length ≤ (text.flatMap escapeChar).length := by
    intro text
    induction text with
    | nil => exact le_rfl
    | cons c text ih =>
        have hc : 0 < (escapeChar c).length := by
          rcases escapeChar_cases c with ⟨e, _, heq⟩ | ⟨_, _, _, _, heq⟩ | ⟨_, heq⟩ | ⟨_, heq⟩ <;>
            rw [heq] <;> exact Nat.succ_pos _
        rw [List.flatMap_cons, List.length_append, List.length_cons]
        omega
  have hs := hchars s.toList
  simp only [renderString, List.length_cons, List.length_append, List.length_nil]
  omega

/-- A string literal is read. -/
theorem readString_renderString (fuel : ℕ) (s : String) (hfuel : (renderString s).length ≤ fuel + 1)
    (rest : List Char) : ∃ text, renderString s ++ rest = '"' :: text ∧
      readString fuel text = some (s.toList, rest) := by
  have hlength := length_le_renderString s
  refine ⟨_, rfl, ?_⟩
  show readString fuel ((s.toList.flatMap escapeChar ++ ['"']) ++ rest) = _
  rw [List.append_assoc]
  exact readString_escaped s.toList rest (by omega)

theorem dropPrefix?_append {α : Type*} [BEq α] [LawfulBEq α] (front back : List α) :
    (front ++ back).dropPrefix? front = some back :=
  List.dropPrefix?_eq_some_iff.mpr ⟨front, rfl, beq_self_eq_true front⟩

theorem readWord_null (rest : List Char) :
    readWord ("null".toList ++ rest) = some (.null, rest) := by
  rw [readWord, dropPrefix?_append]
  rfl

theorem readWord_bool (value : Bool) (rest : List Char) :
    readWord (render l (.bool value) ++ rest) = some (.bool value, rest) := by
  cases value with
  | true =>
      rw [readWord, render, dropPrefix?_append]
      rfl
  | false =>
      rw [readWord, render, dropPrefix?_append]
      rfl

/-- A number is told from every other value by its first character. -/
theorem readValue_literal {fuel : ℕ} {literal : NumLiteral} (h : isNumber literal.text = true)
    {rest : List Char} (hrest : Stops rest) :
    readValue (fuel + 1) (literal.text ++ rest) = some (.num literal, rest) := by
  obtain ⟨c, tail, htext⟩ := List.exists_cons_of_ne_nil literal.nonempty
  have hc : isNumeric c = true := literal.numeric c (by simp [htext])
  have hother : ∀ {d : Char} {text : List Char}, isNumeric d = false →
      literal.text ++ rest ≠ d :: text := by
    intro d text hd heq
    rw [htext, List.cons_append] at heq
    obtain ⟨rfl, _⟩ := List.cons.inj heq
    rw [hc] at hd
    cases hd
  have hword : readWord (literal.text ++ rest) = none := by
    have hdrop : ∀ {d : Char} {word : List Char}, isNumeric d = false →
        (literal.text ++ rest).dropPrefix? (d :: word) = none := by
      intro d word hd
      rw [Option.eq_none_iff_forall_ne_some]
      intro back hback
      obtain ⟨front, htext, hfront⟩ := List.dropPrefix?_eq_some_iff.mp hback
      rw [beq_iff_eq.mp hfront] at htext
      exact hother hd htext
    unfold readWord
    rw [show "null".toList = 'n' :: "ull".toList from rfl,
      show "true".toList = 't' :: "rue".toList from rfl,
      show "false".toList = 'f' :: "alse".toList from rfl, hdrop rfl, hdrop rfl, hdrop rfl]
    rfl
  unfold readValue
  split
  case h_4 => rw [hword, Option.none_or, readNumber_literal h hrest]
  all_goals
    rename_i heq
    exact absurd heq (hother rfl)

theorem readValue_array {fuel : ℕ} {text : List Char} (hbegins : Begins text)
    (hbracket : text.head? ≠ some ']') : readValue (fuel + 1) ('[' :: text) =
      (readItems fuel text).map fun (items, rest) => (.arr items, rest) := by
  rw [readValue, skipBlanks_of_begins hbegins]
  split
  case h_1 => exact absurd rfl hbracket
  case h_2 => rfl

theorem readValue_object {fuel : ℕ} {text : List Char} (hbegins : Begins text)
    (hbrace : text.head? ≠ some '}') : readValue (fuel + 1) ('{' :: text) =
      (readFields fuel text).map fun (fields, rest) =>
        (.obj (Dict.ofList fields).entries, rest) := by
  rw [readValue, skipBlanks_of_begins hbegins]
  split
  case h_1 => exact absurd rfl hbrace
  case h_2 => rfl

/-- With this fuel, what was rendered is read. -/
structure ReadsBack (l : Layout) (fuel : ℕ) : Prop where
  value : ∀ (value : Json) (rest : List Char), wellFormed value = true → Stops rest →
    (render l value).length ≤ fuel → readValue fuel (render l value ++ rest) = some (value, rest)
  items : ∀ (item : Json) (items : List Json) (rest : List Char), wellFormed item = true →
    wellFormedItems items = true → (render l item).length + (renderItems l items).length ≤ fuel →
      readItems fuel (render l item ++ (renderItems l items ++ rest)) = some (item :: items, rest)
  fields : ∀ (key : String) (value : Json) (fields : List (String × Json)) (rest : List Char),
    wellFormed value = true → wellFormedFields fields = true →
      (renderString key).length + (render l value).length + (renderFields l fields).length ≤ fuel →
        readFields fuel (renderString key ++ ':' :: (l.afterColon ++ (render l value ++
          (renderFields l fields ++ rest)))) = some ((key, value) :: fields, rest)

theorem length_render_pos (l : Layout) (value : Json) : 0 < (render l value).length := by
  obtain ⟨c, tail, hrender, _⟩ := render_begins l value
  rw [hrender]
  exact Nat.succ_pos _

theorem readsBack_zero (l : Layout) : ReadsBack l 0 where
  value value _ _ _ hfuel := by
    have hpos := length_render_pos l value
    omega
  items item _ _ _ _ hfuel := by
    have hpos := length_render_pos l item
    omega
  fields key value _ _ _ _ hfuel := by
    have hpos := length_render_pos l value
    omega

variable {fuel : ℕ}

theorem ReadsBack.value_succ (ih : ReadsBack l fuel) (value : Json) (rest : List Char)
    (hvalue : wellFormed value = true) (hrest : Stops rest)
    (hfuel : (render l value).length ≤ fuel + 1) :
    readValue (fuel + 1) (render l value ++ rest) = some (value, rest) := by
  match value with
  | .null =>
      show (readWord ("null".toList ++ rest)).or _ = _
      rw [readWord_null, Option.some_or]
  | .bool value =>
      have hword := readWord_bool (l := l) value rest
      cases value <;> exact (congrArg (Option.or · _) hword).trans Option.some_or
  | .num literal => exact readValue_literal hvalue hrest
  | .str text =>
      obtain ⟨chars, htext, hread⟩ := readString_renderString fuel text hfuel rest
      show readValue (fuel + 1) (renderString text ++ rest) = _
      rw [htext]
      show (readString fuel chars).map _ = _
      rw [hread, Option.map_some]
      simp only [String.ofList_toList]
  | .arr [] => rfl
  | .arr (item :: items) =>
      obtain ⟨c, tail, hitem, _, hc⟩ := render_begins l item
      simp only [wellFormed, wellFormedItems, Bool.and_eq_true] at hvalue
      simp only [render, List.length_cons, List.length_append] at hfuel
      simp only [render, List.cons_append, List.append_assoc]
      rw [readValue_array (begins_render l item _) (by rw [hitem]; simpa using hc),
        ih.items item items rest hvalue.1 hvalue.2 (by omega)]
      rfl
  | .obj [] => rfl
  | .obj ((key, value) :: fields) =>
      simp only [wellFormed, wellFormedFields, Bool.and_eq_true, decide_eq_true_eq] at hvalue
      simp only [render, List.length_cons, List.length_append] at hfuel
      simp only [render, List.cons_append, List.append_assoc]
      rw [readValue_object (begins_renderString key _) (by simp [renderString]),
        ih.fields key value fields rest hvalue.2.1 hvalue.2.2 (by omega), Option.map_some]
      simp only [Dict.entries_ofList hvalue.1]

theorem ReadsBack.items_succ (ih : ReadsBack l fuel) (hl : l.Blank) (item : Json)
    (items : List Json) (rest : List Char) (hitem : wellFormed item = true)
    (hitems : wellFormedItems items = true)
    (hfuel : (render l item).length + (renderItems l items).length ≤ fuel + 1) :
    readItems (fuel + 1) (render l item ++ (renderItems l items ++ rest)) =
      some (item :: items, rest) := by
  have hpos := length_render_pos l item
  have hlast : 0 < (renderItems l items).length := by cases items <;> simp [renderItems]
  rw [readItems, ih.value item _ hitem (stops_renderItems l items rest) (by omega)]
  simp only [Option.bind_eq_bind, Option.bind_some]
  rw [skipBlanks_of_begins (begins_renderItems l items rest)]
  match items with
  | [] => rfl
  | next :: items =>
      simp only [wellFormedItems, Bool.and_eq_true] at hitems
      simp only [renderItems, List.length_cons, List.length_append] at hfuel
      simp only [renderItems, List.cons_append, List.append_assoc]
      rw [skipBlanks_append hl.afterComma (begins_render l next _),
        ih.items next items rest hitems.1 hitems.2 (by omega)]
      rfl

theorem ReadsBack.fields_succ (ih : ReadsBack l fuel) (hl : l.Blank) (key : String) (value : Json)
    (fields : List (String × Json)) (rest : List Char) (hvalue : wellFormed value = true)
    (hfields : wellFormedFields fields = true)
    (hfuel : (renderString key).length + (render l value).length +
      (renderFields l fields).length ≤ fuel + 1) :
    readFields (fuel + 1) (renderString key ++ ':' :: (l.afterColon ++ (render l value ++
      (renderFields l fields ++ rest)))) = some ((key, value) :: fields, rest) := by
  have hkey := length_le_renderString key
  obtain ⟨chars, htext, hread⟩ := readString_renderString fuel key (by omega)
    (':' :: (l.afterColon ++ (render l value ++ (renderFields l fields ++ rest))))
  rw [htext, readFields, hread]
  simp only [Option.bind_eq_bind, Option.bind_some]
  rw [skipBlanks_of_begins (begins_cons rfl _)]
  simp only []
  rw [skipBlanks_append hl.afterColon (begins_render l value _),
    ih.value value _ hvalue (stops_renderFields l fields rest) (by omega)]
  simp only [Option.bind_some, String.ofList_toList]
  rw [skipBlanks_of_begins (begins_renderFields l fields rest)]
  match fields with
  | [] => rfl
  | (nextKey, next) :: fields =>
      simp only [wellFormedFields, Bool.and_eq_true] at hfields
      simp only [renderFields, List.length_cons, List.length_append] at hfuel
      simp only [renderFields, List.cons_append, List.append_assoc]
      rw [skipBlanks_append hl.afterComma (begins_renderString nextKey _),
        ih.fields nextKey next fields rest hfields.1 hfields.2 (by omega)]
      rfl

/-- **Reading undoes rendering.** -/
theorem readsBack (hl : l.Blank) (fuel : ℕ) : ReadsBack l fuel := by
  induction fuel with
  | zero => exact readsBack_zero l
  | succ fuel ih =>
      exact { value := ih.value_succ, items := ih.items_succ hl, fields := ih.fields_succ hl }

/-- **A document is read as the value it was printed for.** -/
theorem loads_dumps (hl : l.Blank) {value : Json} (hvalue : wellFormed value = true) :
    loads (dumps l value).toList = some value := by
  have hbegins := begins_render l value []
  have hread := (readsBack hl ((render l value).length + 1)).value value [] hvalue stops_nil
    (Nat.le_succ _)
  rw [List.append_nil] at hbegins hread
  rw [dumps, String.toList_ofList, loads, skipBlanks_of_begins hbegins, hread]
  rfl

/-! ## What is printed -/

def isPrintable (c : Char) : Bool := decide (32 ≤ c.toNat) && decide (c.toNat ≤ 126)

theorem isPrintable_hexDigit (n : ℕ) : isPrintable (hexDigit n) = true := by
  have hlt : n % 16 < 16 := Nat.mod_lt _ (by norm_num)
  unfold hexDigit
  generalize n % 16 = m at hlt
  interval_cases m <;> rfl

theorem isPrintable_unicodeEscape (n : ℕ) : ∀ c ∈ unicodeEscape n, isPrintable c = true := by
  intro c hc
  simp only [unicodeEscape, List.mem_cons, List.not_mem_nil, or_false] at hc
  rcases hc with rfl | rfl | rfl | rfl | rfl | rfl
  · rfl
  · rfl
  all_goals exact isPrintable_hexDigit _

/-- Whatever a string contains, it is printed in printable characters. -/
theorem isPrintable_escapeChar (c : Char) : ∀ d ∈ escapeChar c, isPrintable d = true := by
  intro d hd
  rcases escapeChar_cases c with ⟨e, hmem, heq⟩ | ⟨_, _, hlow, hhigh, heq⟩ | ⟨_, heq⟩ | ⟨_, heq⟩ <;>
    rw [heq] at hd
  · have hshort : ∀ pair ∈ shortEscapes, ['\\', pair.2].all isPrintable = true :=
      List.all_eq_true.mp rfl
    exact List.all_eq_true.mp (hshort (c, e) hmem) d hd
  · obtain rfl := List.mem_singleton.mp hd
    simp [isPrintable, hlow, hhigh]
  · exact isPrintable_unicodeEscape _ d hd
  · rcases List.mem_append.mp hd with hfirst | hsecond
    · exact isPrintable_unicodeEscape _ d hfirst
    · exact isPrintable_unicodeEscape _ d hsecond

theorem isPrintable_renderString (s : String) : ∀ c ∈ renderString s, isPrintable c = true := by
  intro c hc
  simp only [renderString, List.mem_cons, List.mem_append, List.mem_flatMap, List.not_mem_nil,
    or_false] at hc
  rcases hc with rfl | ⟨d, _, hd⟩ | rfl
  · rfl
  · exact isPrintable_escapeChar d c hd
  · rfl

theorem isPrintable_of_isNumeric {c : Char} (h : isNumeric c = true) : isPrintable c = true := by
  simp only [isNumeric, Bool.or_eq_true, beq_iff_eq] at h
  rcases h with (((hdigit | rfl) | rfl) | rfl) | rfl
  · simp only [Char.isDigit, Bool.and_eq_true, decide_eq_true_eq] at hdigit
    have hlow : 48 ≤ c.toNat := hdigit.1
    have hhigh : c.toNat ≤ 57 := hdigit.2
    simp only [isPrintable, Bool.and_eq_true, decide_eq_true_eq]
    omega
  all_goals rfl

/-- Nothing but printable characters is written between tokens. -/
structure Layout.Printable (l : Layout) : Prop where
  afterComma : ∀ c ∈ l.afterComma, isPrintable c = true
  afterColon : ∀ c ∈ l.afterColon, isPrintable c = true

theorem Layout.printable_spaced : Layout.spaced.Printable where
  afterComma := List.all_eq_true.mp rfl
  afterColon := List.all_eq_true.mp rfl

mutual

/-- **A document consists of printable ASCII characters.** -/
theorem isPrintable_render (hl : l.Printable) (value : Json) :
    ∀ c ∈ render l value, isPrintable c = true := by
  match value with
  | .null => exact List.all_eq_true.mp rfl
  | .bool true => exact List.all_eq_true.mp rfl
  | .bool false => exact List.all_eq_true.mp rfl
  | .num literal => exact fun c hc => isPrintable_of_isNumeric (literal.numeric c hc)
  | .str text => exact isPrintable_renderString text
  | .arr [] => exact List.all_eq_true.mp rfl
  | .arr (item :: items) =>
      intro c hc
      simp only [render, List.mem_cons, List.mem_append] at hc
      rcases hc with rfl | hitem | hitems
      · rfl
      · exact isPrintable_render hl item c hitem
      · exact isPrintable_renderItems hl items c hitems
  | .obj [] => exact List.all_eq_true.mp rfl
  | .obj ((key, value) :: fields) =>
      intro c hc
      simp only [render, List.mem_cons, List.mem_append] at hc
      rcases hc with rfl | hkey | rfl | hcolon | hvalue | hfields
      · rfl
      · exact isPrintable_renderString key c hkey
      · rfl
      · exact hl.afterColon c hcolon
      · exact isPrintable_render hl value c hvalue
      · exact isPrintable_renderFields hl fields c hfields

theorem isPrintable_renderItems (hl : l.Printable) (items : List Json) :
    ∀ c ∈ renderItems l items, isPrintable c = true := by
  match items with
  | [] => exact List.all_eq_true.mp rfl
  | item :: items =>
      intro c hc
      simp only [renderItems, List.mem_cons, List.mem_append] at hc
      rcases hc with rfl | hcomma | hitem | hitems
      · rfl
      · exact hl.afterComma c hcomma
      · exact isPrintable_render hl item c hitem
      · exact isPrintable_renderItems hl items c hitems

theorem isPrintable_renderFields (hl : l.Printable) (fields : List (String × Json)) :
    ∀ c ∈ renderFields l fields, isPrintable c = true := by
  match fields with
  | [] => exact List.all_eq_true.mp rfl
  | (key, value) :: fields =>
      intro c hc
      simp only [renderFields, List.mem_cons, List.mem_append] at hc
      rcases hc with rfl | hcomma | hkey | rfl | hcolon | hvalue | hfields
      · rfl
      · exact hl.afterComma c hcomma
      · exact isPrintable_renderString key c hkey
      · rfl
      · exact hl.afterColon c hcolon
      · exact isPrintable_render hl value c hvalue
      · exact isPrintable_renderFields hl fields c hfields

end

end Json

end Foundation
