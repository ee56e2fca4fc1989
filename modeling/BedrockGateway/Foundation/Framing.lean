/-
# Blocks of lines in a stream of bytes

A stream is cut into blocks at its blank lines as it arrives. How it was cut into chunks
on its way does not matter. A block is text in UTF-8; it is cut into lines, at more
characters than the newline if the reader takes these for line breaks.

Blocks that were put together from lines with something on them are found again, and so
are their lines.
-/

import Mathlib.Data.List.Basic
import Mathlib.Tactic.SplitIfs

namespace Foundation

universe u

variable {α : Type u}

/-! ## Blocks -/

/-- The blocks that have arrived, and the beginning of the next one. -/
structure BlockReader (α : Type u) where
  pending : List α := []
  blocks : List (List α) := []

/-- A line with something on it. -/
def IsLine (newline : α) (line : List α) : Prop := line ≠ [] ∧ newline ∉ line

theorem IsLine.getLast?_append {newline : α} {line : List α} (h : IsLine newline line)
    (before : List α) : (before ++ line).getLast? ≠ some newline := by
  rw [List.getLast?_append_of_ne_nil _ h.1]
  exact fun hlast => h.2 (List.mem_of_getLast? hlast)

namespace BlockReader

variable [DecidableEq α] (newline : α)

/-- Takes one more byte; a newline right behind another one ends the block before both. -/
def push (reader : BlockReader α) (x : α) : BlockReader α :=
  if x = newline ∧ reader.pending.getLast? = some newline then
    { pending := [], blocks := reader.blocks ++ [reader.pending.dropLast] }
  else { reader with pending := reader.pending ++ [x] }

/-- Takes a chunk. -/
def feed (reader : BlockReader α) (chunk : List α) : BlockReader α :=
  chunk.foldl (push newline) reader

/-- Takes all chunks of a stream. -/
def read (chunks : List (List α)) : BlockReader α := chunks.foldl (feed newline) {}

/-- **The chunks do not matter**, only what is in them. -/
theorem read_eq_feed (chunks : List (List α)) :
    read newline chunks = feed newline {} chunks.flatten :=
  List.foldl_flatten.symm

variable {newline}

theorem feed_append (reader : BlockReader α) (first second : List α) :
    feed newline reader (first ++ second) = feed newline (feed newline reader first) second :=
  List.foldl_append

/-- A line is only collected. -/
theorem feed_line {line : List α} (hline : newline ∉ line) (reader : BlockReader α) :
    feed newline reader line = { reader with pending := reader.pending ++ line } := by
  induction line generalizing reader with
  | nil => simp [feed]
  | cons x line ih =>
      rw [List.mem_cons, not_or] at hline
      have hpush : push newline reader x = { reader with pending := reader.pending ++ [x] } :=
        if_neg fun h => hline.1 h.1.symm
      show feed newline (push newline reader x) line = _
      rw [ih hline.2, hpush, List.append_assoc]
      rfl

/-- The newline behind a line does not end the block. -/
theorem push_newline (reader : BlockReader α) (h : reader.pending.getLast? ≠ some newline) :
    push newline reader newline = { reader with pending := reader.pending ++ [newline] } :=
  if_neg fun hboth => h hboth.2

/-- Lines are collected, up to a place where a newline would not end the block. -/
theorem feed_lines {lines : List (List α)} (hne : lines ≠ [])
    (hlines : ∀ line ∈ lines, IsLine newline line) (reader : BlockReader α) :
    feed newline reader ([newline].intercalate lines) =
        { reader with pending := reader.pending ++ [newline].intercalate lines } ∧
      (reader.pending ++ [newline].intercalate lines).getLast? ≠ some newline := by
  induction lines generalizing reader with
  | nil => exact absurd rfl hne
  | cons line rest ih =>
      obtain ⟨hline, hrest⟩ := List.forall_mem_cons.mp hlines
      cases rest with
      | nil =>
          rw [List.intercalate_singleton]
          exact ⟨feed_line hline.2 reader, hline.getLast?_append _⟩
      | cons next rest =>
          obtain ⟨hfeed, hlast⟩ := ih (List.cons_ne_nil _ _) hrest
            { reader with pending := reader.pending ++ line ++ [newline] }
          rw [List.intercalate_cons_cons, List.append_assoc, feed_append, feed_line hline.2,
            List.singleton_append]
          constructor
          · show feed newline (push newline _ newline) _ = _
            rw [push_newline _ (hline.getLast?_append _), hfeed]
            simp
          · simpa using hlast

/-- **A block is found** at its blank line. -/
theorem feed_block {lines : List (List α)} (hne : lines ≠ [])
    (hlines : ∀ line ∈ lines, IsLine newline line) (found : List (List α)) :
    feed newline ⟨[], found⟩ ([newline].intercalate lines ++ [newline, newline]) =
      ⟨[], found ++ [[newline].intercalate lines]⟩ := by
  obtain ⟨hfeed, hlast⟩ := feed_lines hne hlines ⟨[], found⟩
  rw [feed_append, hfeed]
  show push newline (push newline ⟨_, found⟩ newline) newline = _
  rw [push_newline ⟨_, found⟩ hlast]
  simp [push]

/-- **All blocks are found**, whatever the chunks, and nothing is left. -/
theorem read_blocks {blocks : List (List (List α))}
    (hblocks : ∀ lines ∈ blocks, lines ≠ [] ∧ ∀ line ∈ lines, IsLine newline line)
    {chunks : List (List α)} (hchunks : chunks.flatten =
      blocks.flatMap fun lines => [newline].intercalate lines ++ [newline, newline]) :
    read newline chunks = ⟨[], blocks.map ([newline].intercalate ·)⟩ := by
  rw [read_eq_feed, hchunks]
  suffices hall : ∀ found, feed newline ⟨[], found⟩ (blocks.flatMap fun lines =>
      [newline].intercalate lines ++ [newline, newline]) =
        ⟨[], found ++ blocks.map ([newline].intercalate ·)⟩ from hall []
  intro found
  clear hchunks
  induction blocks generalizing found with
  | nil => simp [feed]
  | cons lines blocks ih =>
      obtain ⟨⟨hne, hlines⟩, hrest⟩ := List.forall_mem_cons.mp hblocks
      rw [List.flatMap_cons, feed_append, feed_block hne hlines, ih hrest, List.append_assoc]
      rfl

end BlockReader

/-! ## Text -/

/-- `text.encode("utf-8")` -/
def encodeUtf8 (text : List Char) : List UInt8 := text.flatMap String.utf8EncodeChar

/-- `raw.decode("utf-8")`, none where that fails. -/
def decodeUtf8 (raw : List UInt8) : Option (List Char) :=
  raw.toByteArray.utf8Decode?.map Array.toList

theorem decodeUtf8_encodeUtf8 (text : List Char) : decodeUtf8 (encodeUtf8 text) = some text := by
  have h := List.utf8Decode?_utf8Encode (l := text)
  rw [decodeUtf8]
  show text.utf8Encode.utf8Decode?.map Array.toList = _
  rw [h]
  rfl

/-- Of all characters only the newline has its byte. -/
theorem newline_mem_utf8EncodeChar {c : Char} (h : (10 : UInt8) ∈ String.utf8EncodeChar c) :
    c = '\n' := by
  have hbyte : ∀ n, (10 : UInt8) = UInt8.ofNat n → n % 256 = 10 := fun n hn =>
    (congrArg UInt8.toNat hn).symm
  simp only [String.utf8EncodeChar] at h
  split_ifs at h with hone htwo hthree
  · have hn := hbyte _ (List.mem_singleton.mp h)
    apply Char.ext
    apply UInt32.toNat_inj.mp
    show c.val.toNat = 10
    omega
  all_goals
    simp only [List.mem_cons, List.not_mem_nil, or_false] at h
    exfalso
  · rcases h with h | h <;> have hn := hbyte _ h <;> omega
  · rcases h with h | h | h <;> have hn := hbyte _ h <;> omega
  · rcases h with h | h | h | h <;> have hn := hbyte _ h <;> omega

theorem newline_mem_encodeUtf8 {text : List Char} (h : (10 : UInt8) ∈ encodeUtf8 text) :
    '\n' ∈ text := by
  obtain ⟨c, hc, hbyte⟩ := List.mem_flatMap.mp h
  rwa [newline_mem_utf8EncodeChar hbyte] at hc

theorem encodeUtf8_append (first second : List Char) :
    encodeUtf8 (first ++ second) = encodeUtf8 first ++ encodeUtf8 second :=
  List.flatMap_append

theorem encodeUtf8_intercalate (lines : List (List Char)) :
    encodeUtf8 (['\n'].intercalate lines) = [10].intercalate (lines.map encodeUtf8) := by
  induction lines with
  | nil => rfl
  | cons line rest ih =>
      cases rest with
      | nil => rw [List.intercalate_singleton, List.map_singleton, List.intercalate_singleton]
      | cons next rest =>
          rw [List.intercalate_cons_cons, encodeUtf8_append, encodeUtf8_append, ih]
          exact List.intercalate_cons_cons.symm

theorem encodeUtf8_ne_nil {text : List Char} (h : text ≠ []) : encodeUtf8 text ≠ [] := by
  obtain ⟨c, rest, rfl⟩ := List.exists_cons_of_ne_nil h
  rw [encodeUtf8, List.flatMap_cons]
  exact List.append_ne_nil_of_left_ne_nil String.utf8EncodeChar_ne_nil _

/-! ## Lines -/

/-- The characters a reader takes for line breaks: at least the newline, and no printable
character of ASCII. -/
structure LineBreaks where
  isBreak : Char → Bool
  newline : isBreak '\n' = true
  printable : ∀ c : Char, 32 ≤ c.toNat → c.toNat ≤ 126 → isBreak c = false

namespace LineBreaks

/-- Nothing but the newline. -/
def newlines : LineBreaks where
  isBreak c := c == '\n'
  newline := rfl
  printable c hlow _ := by
    rw [beq_eq_false_iff_ne]
    rintro rfl
    exact absurd hlow (by decide)

/-- The line breaks of `str.splitlines`. -/
def universal : LineBreaks where
  isBreak c := c ∈ ['\n', '\r', '\x0b', '\x0c', '\x1c', '\x1d', '\x1e', '\x85', '\u2028', '\u2029']
  newline := rfl
  printable c hlow hhigh := by
    rw [decide_eq_false_iff_not]
    intro hmem
    simp only [List.mem_cons, List.not_mem_nil, or_false] at hmem
    rcases hmem with rfl | rfl | rfl | rfl | rfl | rfl | rfl | rfl | rfl | rfl <;>
      revert hlow hhigh <;> decide

variable (breaks : LineBreaks)

/-- Cuts a text into lines; a newline behind a carriage return belongs to the same break,
and a break at the end begins no line. -/
def linesFrom : Bool → List Char → List Char → List (List Char)
  | _, line, [] => if line = [] then [] else [line]
  | afterReturn, line, c :: rest =>
      if afterReturn && c == '\n' then linesFrom false line rest
      else if breaks.isBreak c then line :: linesFrom (c == '\r') [] rest
      else linesFrom false (line ++ [c]) rest

/-- `text.splitlines()` -/
def splitlines (text : List Char) : List (List Char) := breaks.linesFrom false [] text

variable {breaks}

theorem linesFrom_append {text : List Char} (htext : ∀ c ∈ text, breaks.isBreak c = false)
    (line rest : List Char) :
    breaks.linesFrom false line (text ++ rest) = breaks.linesFrom false (line ++ text) rest := by
  induction text generalizing line with
  | nil => rw [List.nil_append, List.append_nil]
  | cons c text ih =>
      obtain ⟨hc, htext⟩ := List.forall_mem_cons.mp htext
      rw [List.cons_append, linesFrom, hc]
      show breaks.linesFrom false (line ++ [c]) (text ++ rest) = _
      rw [ih htext, List.append_assoc]
      rfl

/-- **Lines are found again.** -/
theorem splitlines_intercalate {lines : List (List Char)} (hlines : ∀ line ∈ lines,
    line ≠ [] ∧ ∀ c ∈ line, breaks.isBreak c = false) :
    breaks.splitlines (['\n'].intercalate lines) = lines := by
  induction lines with
  | nil => rfl
  | cons line rest ih =>
      obtain ⟨⟨hne, hline⟩, hrest⟩ := List.forall_mem_cons.mp hlines
      cases rest with
      | nil =>
          have happend := linesFrom_append hline [] []
          rw [List.append_nil, List.nil_append] at happend
          rw [List.intercalate_singleton, splitlines, happend]
          exact if_neg hne
      | cons next rest =>
          rw [List.intercalate_cons_cons, List.append_assoc, splitlines, linesFrom_append hline,
            List.nil_append, List.singleton_append, linesFrom, breaks.newline]
          exact congrArg (line :: ·) (ih hrest)

/-- Lines that each end in a newline are found again. -/
theorem splitlines_terminated {lines : List (List Char)}
    (hlines : ∀ line ∈ lines, ∀ c ∈ line, breaks.isBreak c = false) :
    breaks.splitlines (lines.flatMap (· ++ ['\n'])) = lines := by
  induction lines with
  | nil => rfl
  | cons line rest ih =>
      obtain ⟨hline, hrest⟩ := List.forall_mem_cons.mp hlines
      rw [List.flatMap_cons, List.append_assoc, splitlines, linesFrom_append hline,
        List.nil_append, List.singleton_append, linesFrom, breaks.newline]
      exact congrArg (line :: ·) (ih hrest)

end LineBreaks

end Foundation
