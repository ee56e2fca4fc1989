/-
# Order of last use

Touching a key moves it to the end of a list of keys. Then the list is in the order
of last use: of two of its keys, the later one has been touched since the earlier
one last was. A key with many others behind it was left alone for long.
-/

import Mathlib.Data.Finset.Card

namespace Foundation

universe u

variable {κ : Type u} [DecidableEq κ]

/-- What has been touched since a key last was, the last first; everything, if the
key never was. -/
def since (key : κ) (touched : List κ) : List κ := touched.reverse.takeWhile (· ≠ key)

theorem since_touch_of_ne {key other : κ} (touched : List κ) (hne : other ≠ key) :
    since key (touched ++ [other]) = other :: since key touched := by
  simp [since, hne]

/-- The number of different keys touched since a key last was. -/
def distinctSince (key : κ) (touched : List κ) : ℕ := (since key touched).toFinset.card

/-- As long as a key is not touched, more and more others are. -/
theorem distinctSince_le {key other : κ} (touched : List κ) (hne : other ≠ key) :
    distinctSince key touched ≤ distinctSince key (touched ++ [other]) := by
  unfold distinctSince
  rw [since_touch_of_ne touched hne]
  apply Finset.card_le_card
  intro later hmem
  simp only [List.mem_toFinset] at hmem ⊢
  exact List.mem_cons_of_mem _ hmem

/-- The keys are in the order in which they were last touched. -/
def RecentOrder (keys touched : List κ) : Prop :=
  keys.Pairwise fun earlier later => later ∈ since earlier touched

theorem RecentOrder.sublist {keys fewer touched : List κ} (h : RecentOrder keys touched)
    (hsub : fewer.Sublist keys) : RecentOrder fewer touched :=
  List.Pairwise.sublist hsub h

/-- **Touching a key makes it the most recent one.** -/
theorem RecentOrder.touch {keys touched : List κ} (h : RecentOrder keys touched) (key : κ) :
    RecentOrder (keys.filter (· ≠ key) ++ [key]) (touched ++ [key]) := by
  unfold RecentOrder
  rw [List.pairwise_append]
  refine ⟨?_, List.pairwise_singleton _ _, ?_⟩
  · have hothers : (keys.filter (· ≠ key)).Pairwise fun earlier later =>
        later ∈ since earlier touched := h.sublist List.filter_sublist
    apply hothers.imp_of_mem
    intro earlier later hearlier _ hlater
    have hne : earlier ≠ key := by simpa using (List.mem_filter.mp hearlier).2
    rw [since_touch_of_ne touched hne.symm]
    exact List.mem_cons_of_mem _ hlater
  · intro earlier hearlier later hlater
    have hne : earlier ≠ key := by simpa using (List.mem_filter.mp hearlier).2
    rw [List.mem_singleton.mp hlater, since_touch_of_ne touched hne.symm]
    exact List.mem_cons_self

/-- Everything behind the first key has been touched since. -/
theorem RecentOrder.length_le {first : κ} {rest touched : List κ}
    (h : RecentOrder (first :: rest) touched) (hnodup : rest.Nodup) :
    rest.length ≤ distinctSince first touched := by
  have hbehind := (List.pairwise_cons.mp h).1
  have hsubset : rest.toFinset ⊆ (since first touched).toFinset := by
    intro later hmem
    rw [List.mem_toFinset] at hmem ⊢
    exact hbehind later hmem
  rw [← List.toFinset_card_of_nodup hnodup]
  exact Finset.card_le_card hsubset

end Foundation
