/-
# Insertion-ordered dictionaries

A dictionary keeps its entries in the order in which their keys were first
inserted, and holds every key at most once. Assigning to a key that is already
present changes the value in place; assigning to a new key appends. Moving a key
to the end and dropping the first entry are the two extra operations an ordered
dictionary offers, and the only ones that make the order observable.

Uniqueness of keys is a field, so no operation has to re-establish it for its
callers: a lookup always has one answer.
-/

import Mathlib.Data.List.Nodup

namespace Foundation

universe u v

/-- An insertion-ordered dictionary with unique keys. -/
structure Dict (κ : Type u) (ν : Type v) where
  /-- The entries, oldest key first. -/
  entries : List (κ × ν)
  /-- No key occurs twice. -/
  nodup : (entries.map Prod.fst).Nodup

namespace Dict

variable {κ : Type u} {ν : Type v}

instance [DecidableEq κ] [DecidableEq ν] : DecidableEq (Dict κ ν) := fun d d' =>
  decidable_of_iff (d.entries = d'.entries) (by
    constructor
    · intro h
      cases d
      cases d'
      cases h
      rfl
    · rintro rfl
      rfl)

/-- The keys in insertion order. -/
def keys (d : Dict κ ν) : List κ := d.entries.map Prod.fst

/-- The number of entries. -/
def size (d : Dict κ ν) : ℕ := d.entries.length

/-- The dictionary without entries. -/
def empty : Dict κ ν := ⟨[], List.nodup_nil⟩

/-- Drop the oldest entry; the empty dictionary stays empty. -/
def dropFirst (d : Dict κ ν) : Dict κ ν :=
  ⟨d.entries.tail, by
    have hsub := d.entries.tail_sublist.map Prod.fst
    exact d.nodup.sublist hsub⟩

theorem keys_dropFirst (d : Dict κ ν) : d.dropFirst.keys = d.keys.tail := by
  simp [keys, dropFirst]

@[simp]
theorem length_keys (d : Dict κ ν) : d.keys.length = d.size := List.length_map _

variable [DecidableEq κ]

/-- The value paired with a key in an entry list, the first one if there are several. -/
def assoc (key : κ) : List (κ × ν) → Option ν
  | [] => none
  | entry :: rest => if key = entry.1 then some entry.2 else assoc key rest

/-- The value stored under a key. -/
def get? (d : Dict κ ν) (key : κ) : Option ν := assoc key d.entries

/-- Remove a key, if it is there. -/
def erase (d : Dict κ ν) (key : κ) : Dict κ ν :=
  ⟨d.entries.filter fun entry => entry.1 ≠ key, by
    have hsub := (List.filter_sublist
      (l := d.entries) (p := fun entry => entry.1 ≠ key)).map Prod.fst
    exact d.nodup.sublist hsub⟩

/-- Overwrite the value of one key throughout an entry list. -/
private def overwrite (key : κ) (value : ν) (entries : List (κ × ν)) : List (κ × ν) :=
  entries.map fun entry => if entry.1 = key then (key, value) else entry

private theorem map_fst_overwrite (key : κ) (value : ν) (entries : List (κ × ν)) :
    (overwrite key value entries).map Prod.fst = entries.map Prod.fst := by
  simp only [overwrite, List.map_map]
  apply List.map_congr_left
  intro entry _
  by_cases h : entry.1 = key <;> simp [h]

/-- Assign a value: in place for a key already present, at the end for a new one. -/
def set (d : Dict κ ν) (key : κ) (value : ν) : Dict κ ν :=
  if h : key ∈ d.entries.map Prod.fst then
    ⟨overwrite key value d.entries, by rw [map_fst_overwrite]; exact d.nodup⟩
  else
    ⟨d.entries ++ [(key, value)], by
      rw [List.map_append, List.nodup_append]
      refine ⟨d.nodup, by simp, fun other hother last hlast heq => ?_⟩
      have hkey : last = key := by simpa using hlast
      exact h (hkey ▸ heq ▸ hother)⟩

/-- Move a key to the end of the order, keeping its value. -/
def moveToEnd (d : Dict κ ν) (key : κ) : Dict κ ν :=
  match d.get? key with
  | some value => (d.erase key).set key value
  | none => d

/-- Build a dictionary by assigning the pairs in order, later ones winning. -/
def ofList (pairs : List (κ × ν)) : Dict κ ν :=
  pairs.foldl (fun d pair => d.set pair.1 pair.2) empty

/-! ## Lookup laws -/

@[simp]
theorem get?_empty (key : κ) : (empty : Dict κ ν).get? key = none := rfl

private theorem assoc_append_single (entries : List (κ × ν)) (key other : κ) (value : ν)
    (fresh : key ∉ entries.map Prod.fst) :
    assoc other (entries ++ [(key, value)]) =
      if other = key then some value else assoc other entries := by
  induction entries with
  | nil => rfl
  | cons entry rest ih =>
      simp only [List.map_cons, List.mem_cons, not_or] at fresh
      simp only [List.cons_append, assoc, ih fresh.2]
      by_cases hentry : other = entry.1
      · have hother : other ≠ key := fun h => fresh.1 (h ▸ hentry)
        rw [if_pos hentry, if_neg hother, if_pos hentry]
      · rw [if_neg hentry, if_neg hentry]

private theorem assoc_overwrite_of_ne (entries : List (κ × ν)) {key other : κ} (value : ν)
    (hne : other ≠ key) : assoc other (overwrite key value entries) = assoc other entries := by
  induction entries with
  | nil => rfl
  | cons entry rest ih =>
      simp only [overwrite, List.map_cons] at ih ⊢
      by_cases hentry : entry.1 = key
      · simp only [hentry, ↓reduceIte, assoc, if_neg hne, ih]
      · simp only [hentry, ↓reduceIte, assoc, ih]

private theorem assoc_overwrite_self (entries : List (κ × ν)) {key : κ} (value : ν)
    (present : key ∈ entries.map Prod.fst) :
    assoc key (overwrite key value entries) = some value := by
  induction entries with
  | nil => simp at present
  | cons entry rest ih =>
      simp only [overwrite, List.map_cons] at ih ⊢
      by_cases hentry : entry.1 = key
      · simp only [hentry, ↓reduceIte, assoc]
      · have hrest : key ∈ rest.map Prod.fst := by
          simpa [Ne.symm hentry] using present
        simp only [hentry, ↓reduceIte, assoc, if_neg (Ne.symm hentry), ih hrest]

/-- Assignment changes exactly one lookup. -/
theorem get?_set (d : Dict κ ν) (key other : κ) (value : ν) :
    (d.set key value).get? other = if other = key then some value else d.get? other := by
  unfold set get?
  split
  case isTrue present =>
    by_cases hother : other = key
    · rw [if_pos hother, hother]
      exact assoc_overwrite_self _ _ present
    · rw [if_neg hother]
      exact assoc_overwrite_of_ne _ _ hother
  case isFalse fresh => exact assoc_append_single _ _ _ _ fresh

@[simp]
theorem get?_set_self (d : Dict κ ν) (key : κ) (value : ν) :
    (d.set key value).get? key = some value := by
  rw [get?_set, if_pos rfl]

@[simp]
theorem get?_set_of_ne (d : Dict κ ν) {key other : κ} (value : ν) (hne : other ≠ key) :
    (d.set key value).get? other = d.get? other := by
  rw [get?_set, if_neg hne]

/-- Removal changes exactly one lookup. -/
theorem get?_erase (d : Dict κ ν) (key other : κ) :
    (d.erase key).get? other = if other = key then none else d.get? other := by
  simp only [get?, erase]
  induction d.entries with
  | nil => simp [assoc]
  | cons entry rest ih =>
      by_cases hentry : entry.1 = key
      · rw [List.filter_cons_of_neg (by simp [hentry]), ih]
        by_cases hother : other = key
        · rw [if_pos hother, if_pos hother]
        · simp only [if_neg hother, assoc, hentry]
      · rw [List.filter_cons_of_pos (by simp [hentry])]
        simp only [assoc, ih]
        by_cases hother : other = entry.1
        · have hne : other ≠ key := fun h => hentry (hother ▸ h)
          rw [if_pos hother, if_neg hne, if_pos hother]
        · rw [if_neg hother, if_neg hother]

/-- Reordering is invisible to lookups. -/
@[simp]
theorem get?_moveToEnd (d : Dict κ ν) (key other : κ) :
    (d.moveToEnd key).get? other = d.get? other := by
  unfold moveToEnd
  cases hkey : d.get? key with
  | none => rfl
  | some value =>
      simp only [get?_set, get?_erase]
      by_cases h : other = key
      · rw [if_pos h, h, hkey]
      · rw [if_neg h, if_neg h]

/-- A lookup that succeeds reads a stored entry. -/
theorem mem_entries_of_get? {d : Dict κ ν} {key : κ} {value : ν}
    (h : d.get? key = some value) : (key, value) ∈ d.entries := by
  simp only [get?] at h
  induction hentries : d.entries generalizing d with
  | nil => simp [hentries, assoc] at h
  | cons entry rest ih =>
      have hnodup := d.nodup
      rw [hentries] at h hnodup
      simp only [assoc] at h
      by_cases hentry : key = entry.1
      · rw [if_pos hentry, Option.some.injEq] at h
        rw [hentry, ← h]
        exact List.mem_cons_self
      · rw [if_neg hentry] at h
        have hrest : (rest.map Prod.fst).Nodup := (List.nodup_cons.mp hnodup).2
        exact List.mem_cons_of_mem _ (ih (d := ⟨rest, hrest⟩) h rfl)

/-- Every stored entry is what its key looks up. -/
theorem get?_of_mem_entries {d : Dict κ ν} {key : κ} {value : ν}
    (h : (key, value) ∈ d.entries) : d.get? key = some value := by
  simp only [get?]
  induction hentries : d.entries generalizing d with
  | nil => simp [hentries] at h
  | cons entry rest ih =>
      have hnodup := d.nodup
      rw [hentries] at h hnodup
      simp only [List.map_cons, List.nodup_cons] at hnodup
      simp only [assoc]
      rcases List.mem_cons.mp h with rfl | hrest
      · simp
      · have hne : key ≠ entry.1 := fun heq =>
          hnodup.1 (heq ▸ List.mem_map_of_mem (f := Prod.fst) hrest)
        rw [if_neg hne]
        exact ih (d := ⟨rest, hnodup.2⟩) hrest rfl

/-- Dropping the oldest entry never invents a lookup. -/
theorem get?_of_get?_dropFirst {d : Dict κ ν} {key : κ} {value : ν}
    (h : d.dropFirst.get? key = some value) : d.get? key = some value :=
  get?_of_mem_entries (List.mem_of_mem_tail (mem_entries_of_get? h))

/-! ## Keys and their order -/

theorem mem_keys_iff {d : Dict κ ν} {key : κ} :
    key ∈ d.keys ↔ ∃ value, d.get? key = some value := by
  constructor
  · intro hmem
    obtain ⟨⟨found, value⟩, hentry, rfl⟩ := List.mem_map.mp hmem
    exact ⟨value, get?_of_mem_entries hentry⟩
  · rintro ⟨value, hget⟩
    exact List.mem_map_of_mem (mem_entries_of_get? hget)

theorem keys_erase (d : Dict κ ν) (key : κ) : (d.erase key).keys = d.keys.filter (· ≠ key) := by
  simp only [keys, erase, List.filter_map]
  rfl

theorem keys_set_of_mem {d : Dict κ ν} {key : κ} (value : ν) (hmem : key ∈ d.keys) :
    (d.set key value).keys = d.keys := by
  unfold keys at hmem
  rw [set, dif_pos hmem]
  exact map_fst_overwrite key value d.entries

theorem keys_set_of_not_mem {d : Dict κ ν} {key : κ} (value : ν) (hfresh : key ∉ d.keys) :
    (d.set key value).keys = d.keys ++ [key] := by
  unfold keys at hfresh
  rw [set, dif_neg hfresh]
  simp [keys]

theorem entries_set_of_not_mem {d : Dict κ ν} {key : κ} (value : ν) (hfresh : key ∉ d.keys) :
    (d.set key value).entries = d.entries ++ [(key, value)] := by
  unfold keys at hfresh
  rw [set, dif_neg hfresh]

theorem entries_foldl_set {d : Dict κ ν} {pairs : List (κ × ν)}
    (h : (d.keys ++ pairs.map Prod.fst).Nodup) :
    (pairs.foldl (fun d pair => d.set pair.1 pair.2) d).entries = d.entries ++ pairs := by
  induction pairs generalizing d with
  | nil => exact (List.append_nil _).symm
  | cons pair pairs ih =>
      have hfresh : pair.1 ∉ d.keys := fun hmem =>
        (List.nodup_append.mp h).2.2 pair.1 hmem pair.1 List.mem_cons_self rfl
      rw [List.foldl_cons, ih, entries_set_of_not_mem pair.2 hfresh, List.append_assoc]
      · rfl
      · rw [keys_set_of_not_mem pair.2 hfresh, List.append_assoc]
        exact h

/-- Pairs with distinct keys are kept as they are. -/
theorem entries_ofList {pairs : List (κ × ν)} (h : (pairs.map Prod.fst).Nodup) :
    (ofList pairs).entries = pairs :=
  entries_foldl_set (d := empty) h

/-- Lookups do not see the order of the entries. -/
theorem get?_eq_of_perm {d d' : Dict κ ν} (h : d.entries.Perm d'.entries) (key : κ) :
    d.get? key = d'.get? key := by
  apply Option.ext
  intro value
  constructor
  · intro hget
    exact get?_of_mem_entries (h.mem_iff.mp (mem_entries_of_get? hget))
  · intro hget
    exact get?_of_mem_entries (h.mem_iff.mpr (mem_entries_of_get? hget))

/-- Moving a key makes it the last one. -/
theorem keys_moveToEnd {d : Dict κ ν} {key : κ} (hmem : key ∈ d.keys) :
    (d.moveToEnd key).keys = d.keys.filter (· ≠ key) ++ [key] := by
  obtain ⟨value, hget⟩ := mem_keys_iff.mp hmem
  have hfresh : key ∉ (d.erase key).keys := by simp [keys_erase]
  rw [moveToEnd, hget]
  dsimp only
  rw [keys_set_of_not_mem value hfresh, keys_erase]

/-- So does assigning to it and moving it. -/
theorem keys_set_moveToEnd (d : Dict κ ν) (key : κ) (value : ν) :
    ((d.set key value).moveToEnd key).keys = d.keys.filter (· ≠ key) ++ [key] := by
  by_cases hmem : key ∈ d.keys
  · rw [keys_moveToEnd (by rwa [keys_set_of_mem value hmem]), keys_set_of_mem value hmem]
  · rw [keys_moveToEnd (by simp [keys_set_of_not_mem value hmem]), keys_set_of_not_mem value hmem,
      List.filter_append]
    simp

/-- Dropping the oldest entry leaves every other lookup alone. -/
theorem get?_dropFirst_of_ne {d : Dict κ ν} {first other : κ} {rest : List κ}
    (hkeys : d.keys = first :: rest) (hne : other ≠ first) :
    d.dropFirst.get? other = d.get? other := by
  cases hentries : d.entries with
  | nil => simp [keys, hentries] at hkeys
  | cons entry entries =>
      have hfirst : entry.1 = first := by
        simp only [keys, hentries, List.map_cons, List.cons.injEq] at hkeys
        exact hkeys.1
      simp only [get?, dropFirst, hentries, List.tail_cons, assoc]
      rw [if_neg (hfirst ▸ hne)]

end Dict

end Foundation
