/-
# How often the signing keys are fetched

A verification fetches at most twice, and one that rejects a token for an unknown key has
fetched for it. Where the endpoint goes on publishing the keys that are in use, a fetch
is either for a key that has not been seen yet or made a lifetime after the one before,
so verifications cost a fetch for each key and one for each lifetime, however many they
are.
-/

import BedrockGateway.Auth.JwksRuns
import Mathlib.Algebra.Order.Ring.Unbundled.Rat
import Mathlib.Data.Finset.Card

namespace BedrockGateway

open Foundation

section Calls

variable {Key : Type} {lib : JwtLibrary Key} {text : PyText} {settings : JwksSettings}
variable {s s' : JwksCache Key} {trace : List (Event (@JwksAnswer Key))}

/-! ## One call -/

/-- A refresh: one fetch, after which there are new keys, or an exception and the old ones. -/
inductive Refreshes (lib : JwtLibrary Key) (settings : JwksSettings) (now : ℚ)
    (s : JwksCache Key) : List (Except String (List UInt8)) → Except Exn Unit → JwksCache Key → Prop
  | fails (fetched : Except String (List UInt8)) (exn : Exn)
      (h : published lib settings fetched = .error exn) :
      Refreshes lib settings now s [fetched] (.error exn) s
  | renews (fetched : Except String (List UInt8)) (keys : Dict Kid Key)
      (h : published lib settings fetched = .ok keys) :
      Refreshes lib settings now s [fetched] (.ok ()) ⟨keys, now⟩

theorem refresh_refreshes {now : ℚ} {outcome : Except Exn Unit}
    (h : Fallible.Ran (JwksServes fun instant => instant = now) (refresh lib settings) s trace
      outcome s') : Refreshes lib settings now s (fetchesOf trace) outcome s' := by
  obtain ⟨fetched, ⟨exn, hfailed, rfl, rfl, rfl⟩ | ⟨keys, _, hkeys, rfl, rfl, rfl, rfl⟩⟩ :=
    refresh_cases h
  · exact .fails fetched exn hfailed
  · exact .renews fetched keys hkeys

/-- The keys are fetched without being asked for one: there are none, or they are old. -/
def JwksCache.due (s : JwksCache Key) (ttlS now : ℚ) : Prop :=
  s.keysByKid = Dict.empty ∨ ttlS ≤ now - s.fetchedAt

theorem eq_empty_of_size {κ ν : Type} {d : Dict κ ν} (h : d.size = 0) : d = Dict.empty := by
  obtain ⟨entries, hnodup⟩ := d
  obtain rfl : entries = [] := List.eq_nil_of_length_eq_zero h
  rfl

theorem refreshIfStale_refreshes {now : ℚ} {outcome : Except Exn Unit}
    (h : Fallible.Ran (JwksServes fun instant => instant = now) (refreshIfStale lib settings) s
      trace outcome s') :
    (fetchesOf trace = [] ∧ outcome = .ok () ∧ s' = s) ∨
      (s.due settings.cacheTtlS now ∧
        Refreshes lib settings now s (fetchesOf trace) outcome s') := by
  obtain ⟨keys, next, tail, rfl, ⟨rfl, hnext⟩, hrest⟩ := Fallible.ran_ask_bind_iff.mp h
  rw [hnext] at hrest
  split at hrest
  case isTrue hnone =>
    have hrefreshed := refresh_refreshes hrest
    exact .inr ⟨.inl (eq_empty_of_size hnone), hrefreshed⟩
  case isFalse =>
    obtain ⟨shown, next, tail, rfl, ⟨hnow, hnext⟩, hrest⟩ := Fallible.ran_ask_bind_iff.mp hrest
    rw [hnext] at hrest
    obtain ⟨instant, next, tail, rfl, ⟨rfl, hnext⟩, hrest⟩ := Fallible.ran_ask_bind_iff.mp hrest
    rw [hnext] at hrest
    split at hrest
    case isTrue hstale =>
      have hrefreshed := refresh_refreshes hrest
      exact .inr ⟨.inr (hnow ▸ hstale), hrefreshed⟩
    case isFalse =>
      obtain ⟨rfl, rfl, rfl⟩ := Fallible.ran_pure_iff.mp hrest
      exact .inl ⟨rfl, rfl, rfl⟩

theorem findKey_refreshes {now : ℚ} {kid : Option String} {outcome : Except Exn (Option Key)}
    (h : Fallible.Ran (JwksServes fun instant => instant = now) (findKey lib settings kid) s trace
      outcome s') :
    (fetchesOf trace = [] ∧ s' = s ∧ ∃ key, s.keysByKid.get? (Kid.ofHeader kid) = some key) ∨
      (s.keysByKid.get? (Kid.ofHeader kid) = none ∧
        ∃ refreshed, Refreshes lib settings now s (fetchesOf trace) refreshed s') := by
  obtain ⟨keys, next, tail, rfl, ⟨rfl, hnext⟩, hrest⟩ := Fallible.ran_ask_bind_iff.mp h
  rw [hnext] at hrest
  cases hfound : s.keysByKid.get? (Kid.ofHeader kid) with
  | some key =>
      simp only [hfound] at hrest
      obtain ⟨rfl, _, rfl⟩ := Fallible.ran_pure_iff.mp hrest
      exact .inl ⟨rfl, rfl, key, rfl⟩
  | none =>
      simp only [hfound] at hrest
      refine .inr ⟨rfl, ?_⟩
      rcases Fallible.ran_bind_iff.mp hrest with
        ⟨exn, hraised, _⟩ | ⟨first, second, _, middle, rfl, hran, hafter⟩
      · have hrefreshed := refresh_refreshes hraised
        exact ⟨_, hrefreshed⟩
      · obtain ⟨keys, next, tail, rfl, ⟨_, hnext⟩, hend⟩ := Fallible.ran_ask_bind_iff.mp hafter
        obtain ⟨rfl, _, rfl⟩ := Fallible.ran_pure_iff.mp hend
        have hrefreshed := refresh_refreshes hran
        have hfetches : fetchesOf (first ++ [⟨.keysByKid, keys⟩]) = fetchesOf first := by
          rw [fetchesOf_append]
          exact List.append_nil _
        rw [hnext]
        exact ⟨_, hfetches ▸ hrefreshed⟩

/-- The fetches of a call for a token's key: one that was due, then one for the key if it is
missing; a fetch that fails is the last one. -/
structure CallFetches (lib : JwtLibrary Key) (settings : JwksSettings) (now : ℚ) (kid : Kid)
    (s : JwksCache Key) (fetches : List (Except String (List UInt8))) (s' : JwksCache Key) where
  first : List (Except String (List UInt8))
  second : List (Except String (List UInt8))
  middle : JwksCache Key
  fetches_eq : fetches = first ++ second
  checked : (first = [] ∧ middle = s) ∨ (s.due settings.cacheTtlS now ∧
    ∃ refreshed, Refreshes lib settings now s first refreshed middle)
  found : (second = [] ∧ s' = middle ∧ ((∃ key, middle.keysByKid.get? kid = some key) ∨
      ∃ fetched ∈ first, ∃ exn, published lib settings fetched = .error exn)) ∨
    (middle.keysByKid.get? kid = none ∧
      ∃ refreshed, Refreshes lib settings now middle second refreshed s')

theorem Refreshes.length_eq {now : ℚ} {fetches : List (Except String (List UInt8))}
    {outcome : Except Exn Unit} (h : Refreshes lib settings now s fetches outcome s') :
    fetches.length = 1 := by
  cases h <;> rfl

theorem CallFetches.length_le {now : ℚ} {kid : Kid} {fetches : List (Except String (List UInt8))}
    (h : CallFetches lib settings now kid s fetches s') : fetches.length ≤ 2 := by
  have hfirst : h.first.length ≤ 1 := by
    rcases h.checked with ⟨hnone, _⟩ | ⟨_, _, hrefreshed⟩
    · simp [hnone]
    · exact hrefreshed.length_eq.le
  have hsecond : h.second.length ≤ 1 := by
    rcases h.found with ⟨hnone, _⟩ | ⟨_, _, hrefreshed⟩
    · simp [hnone]
    · exact hrefreshed.length_eq.le
  rw [h.fetches_eq, List.length_append]
  omega

/-- A call that ends without its token's key has fetched. -/
theorem CallFetches.ne_nil {now : ℚ} {kid : Kid} {fetches : List (Except String (List UInt8))}
    (h : CallFetches lib settings now kid s fetches s') (hmissing : s'.keysByKid.get? kid = none) :
    fetches ≠ [] := by
  intro hnil
  obtain ⟨hfirst, hsecond⟩ := List.append_eq_nil_iff.mp (h.fetches_eq.symm.trans hnil)
  rcases h.found with ⟨_, hs', ⟨key, hkey⟩ | ⟨fetched, hmem, _⟩⟩ | ⟨_, _, hrefreshed⟩
  · rw [hs', hkey] at hmissing
    cases hmissing
  · simp [hfirst] at hmem
  · have hlength := hrefreshed.length_eq
    simp [hsecond] at hlength

/-- **What a verification fetches.** -/
theorem verify_fetches {now : ℚ} {token : String} {kid : Option String}
    {outcome : Except Exn Claims} (hkid : lib.unverifiedKid token = .ok kid)
    (h : Fallible.Ran (JwksServes fun instant => instant = now) (verify lib text settings token) s
      trace outcome s') :
    Nonempty (CallFetches lib settings now (Kid.ofHeader kid) s (fetchesOf trace) s') := by
  unfold verify at h
  simp only [hkid] at h
  rcases Fallible.ran_bind_iff.mp h with
    ⟨exn, hraised, _⟩ | ⟨first, rest, _, middle, rfl, hchecked, hrest⟩
  · rcases refreshIfStale_refreshes hraised with ⟨_, hok, _⟩ | ⟨hdue, hrefreshed⟩
    · cases hok
    · generalize hfetches : fetchesOf trace = fetches at hrefreshed
      refine ⟨⟨fetches, [], s', (List.append_nil _).symm, .inr ⟨hdue, _, hrefreshed⟩, ?_⟩⟩
      cases hrefreshed with
      | fails fetched exn hfailed =>
          exact .inl ⟨rfl, rfl, .inr ⟨fetched, List.mem_singleton_self _, exn, hfailed⟩⟩
  have hfirst : (fetchesOf first = [] ∧ middle = s) ∨ (s.due settings.cacheTtlS now ∧
      ∃ refreshed, Refreshes lib settings now s (fetchesOf first) refreshed middle) := by
    rcases refreshIfStale_refreshes hchecked with ⟨hnone, _, hsame⟩ | ⟨hdue, hrefreshed⟩
    · exact .inl ⟨hnone, hsame⟩
    · exact .inr ⟨hdue, _, hrefreshed⟩
  have hlooked : ∃ second more outcome, rest = second ++ more ∧ fetchesOf more = [] ∧
      Fallible.Ran (JwksServes fun instant => instant = now) (findKey lib settings kid) middle
        second outcome s' := by
    rcases Fallible.ran_bind_iff.mp hrest with
      ⟨exn, hraised, _⟩ | ⟨second, more, key, last, rfl, hfound, hend⟩
    · exact ⟨rest, [], _, (List.append_nil _).symm, rfl, hraised⟩
    · cases key with
      | none =>
          obtain ⟨rfl, _, rfl⟩ := Fallible.ran_throw_iff.mp hend
          exact ⟨second, [], _, rfl, rfl, hfound⟩
      | some key =>
          obtain ⟨decoded, rfl, _, rfl⟩ := decodeToken_cases hend
          exact ⟨second, _, _, rfl, rfl, hfound⟩
  obtain ⟨second, more, _, rfl, hmore, hfound⟩ := hlooked
  refine ⟨⟨fetchesOf first, fetchesOf second, middle, ?_, hfirst, ?_⟩⟩
  · rw [fetchesOf_append, fetchesOf_append, hmore, List.append_nil]
  · rcases findKey_refreshes hfound with ⟨hnone, hsame, hkey⟩ | ⟨hmissing, hrefreshed⟩
    · exact .inl ⟨hnone, hsame, .inl hkey⟩
    · exact .inr ⟨hmissing, hrefreshed⟩

/-- A call whose fetches bring its token's key fetches at most once, for keys it does not
have or has had for a lifetime. -/
theorem CallFetches.settled {now : ℚ} {kid : Kid} {fetches : List (Except String (List UInt8))}
    (h : CallFetches lib settings now kid s fetches s')
    (hbrought : ∀ fetched ∈ fetches, ∃ keys key, published lib settings fetched = .ok keys ∧
      keys.get? kid = some key) :
    (fetches = [] ∧ s' = s ∧ ∃ key, s.keysByKid.get? kid = some key) ∨
      ∃ fetched keys, fetches = [fetched] ∧ published lib settings fetched = .ok keys ∧
        s' = ⟨keys, now⟩ ∧
        (s.keysByKid.get? kid = none ∨ settings.cacheTtlS ≤ now - s.fetchedAt) := by
  obtain ⟨first, second, middle, rfl, hchecked, hfound⟩ := h
  have hgood : ∀ fetched ∈ first ++ second, ∀ exn,
      published lib settings fetched ≠ .error exn := by
    intro fetched hmem exn hfailed
    obtain ⟨keys, key, hkeys, _⟩ := hbrought fetched hmem
    rw [hfailed] at hkeys
    cases hkeys
  rcases hchecked with ⟨rfl, rfl⟩ | ⟨hdue, refreshed, hrefreshed⟩
  · -- nothing was due
    rcases hfound with ⟨rfl, hsame, hkey | ⟨_, hmem, _⟩⟩ | ⟨hmissing, _, hsecond⟩
    · exact .inl ⟨rfl, hsame, hkey⟩
    · cases hmem
    · cases hsecond with
      | fails fetched exn hfailed => exact absurd hfailed (hgood fetched (by simp) exn)
      | renews fetched keys hkeys => exact .inr ⟨fetched, keys, rfl, hkeys, rfl, .inl hmissing⟩
  · cases hrefreshed with
    | fails fetched exn hfailed => exact absurd hfailed (hgood fetched (by simp) exn)
    | renews fetched keys hkeys =>
        obtain ⟨_, key, hsome, hkey⟩ := hbrought fetched (by simp)
        rw [hkeys] at hsome
        cases hsome
        have hcause : s.keysByKid.get? kid = none ∨ settings.cacheTtlS ≤ now - s.fetchedAt :=
          hdue.imp_left fun hempty => by rw [hempty, Dict.get?_empty]
        rcases hfound with ⟨rfl, hsame, _⟩ | ⟨hmissing, _⟩
        · exact .inr ⟨fetched, keys, rfl, hkeys, hsame, hcause⟩
        · rw [hkey] at hmissing
          cases hmissing

/-! ## Any number of calls -/

/-- The fetches of calls. -/
def fetchCount (calls : List (VerifyCall Key)) : ℕ :=
  (calls.map fun call => (fetchesOf call.trace).length).sum

/-- The id of the key that a token asks for, if it can be read. -/
def kidOf (lib : JwtLibrary Key) (call : VerifyCall Key) : Option Kid :=
  match lib.unverifiedKid call.token with
  | .ok kid => some (Kid.ofHeader kid)
  | .error _ => none

/-- The ids that the tokens of calls ask for, each once. -/
def kidsOf (lib : JwtLibrary Key) (calls : List (VerifyCall Key)) : Finset Kid :=
  (calls.filterMap (kidOf lib)).toFinset

/-- The endpoint can be reached and goes on publishing the keys in use: a fetch brings the
keys of the token it is made for and of the tokens before. -/
def Stable (lib : JwtLibrary Key) (settings : JwksSettings) (calls : List (VerifyCall Key)) :
    Prop :=
  ∀ past call later, calls = past ++ call :: later → ∀ fetched ∈ fetchesOf call.trace,
    ∃ keys, published lib settings fetched = .ok keys ∧
      ∀ kid ∈ kidsOf lib (past ++ [call]), ∃ key, keys.get? kid = some key

/-- What has been paid for up to some call: the keys of the tokens so far are there, and the
fetches were for a key each or a lifetime apart. -/
structure Paid (lib : JwtLibrary Key) (settings : JwksSettings) (start : ℚ)
    (past : List (VerifyCall Key)) (s : JwksCache Key) : Prop where
  held : ∀ kid ∈ kidsOf lib past, ∃ key, s.keysByKid.get? kid = some key
  cost : ∃ last, start ≤ last ∧
    (∀ now, start ≤ now → (∀ call ∈ past, call.now ≤ now) → last ≤ now) ∧
    (s.keysByKid = Dict.empty ∨ s.fetchedAt = last) ∧
    fetchCount past * settings.cacheTtlS ≤
      (last - start) + settings.cacheTtlS * (kidsOf lib past).card

theorem fetchCount_append_single (past : List (VerifyCall Key)) (call : VerifyCall Key) :
    fetchCount (past ++ [call]) = fetchCount past + (fetchesOf call.trace).length := by
  simp [fetchCount]

theorem kidsOf_append_some (past : List (VerifyCall Key)) {call : VerifyCall Key} {kid : Kid}
    (h : kidOf lib call = some kid) :
    kidsOf lib (past ++ [call]) = insert kid (kidsOf lib past) := by
  ext other
  simp [kidsOf, List.filterMap_append, h]

theorem kidsOf_append_none {past : List (VerifyCall Key)} {call : VerifyCall Key}
    (h : kidOf lib call = none) : kidsOf lib (past ++ [call]) = kidsOf lib past := by
  simp [kidsOf, List.filterMap_append, h]

theorem Paid.start (start : ℚ) : Paid lib settings start [] {} where
  held kid hkid := by simp [kidsOf] at hkid
  cost := ⟨start, le_rfl, fun _ hnow _ => hnow, .inl rfl, by simp [fetchCount, kidsOf]⟩

/-- **One call** is paid for. -/
theorem Paid.step {start : ℚ} {past : List (VerifyCall Key)} {call : VerifyCall Key}
    (h : Paid lib settings start past s) (hpositive : 0 ≤ settings.cacheTtlS)
    (hran : call.Ran lib text settings s s') (hstart : start ≤ call.now)
    (hpast : ∀ earlier ∈ past, earlier.now ≤ call.now)
    (hstable : ∀ fetched ∈ fetchesOf call.trace, ∃ keys,
      published lib settings fetched = .ok keys ∧
        ∀ kid ∈ kidsOf lib (past ++ [call]), ∃ key, keys.get? kid = some key) :
    Paid lib settings start (past ++ [call]) s' := by
  obtain ⟨last, hlast, hearliest, hat, hcost⟩ := h.cost
  have hlater : ∀ now, start ≤ now → (∀ earlier ∈ past ++ [call], earlier.now ≤ now) →
      last ≤ now := fun now hnow hall =>
    hearliest now hnow fun earlier hmem => hall earlier (List.mem_append_left _ hmem)
  cases hkid : lib.unverifiedKid call.token with
  | error exc =>
      have hnone : kidOf lib call = none := by rw [kidOf, hkid]
      obtain ⟨htrace, rfl⟩ : call.trace = [] ∧ s' = s := by
        rcases verify_cases hran with ⟨_, _, htrace, hsame, _⟩ | ⟨kid, hsome, _⟩
        · exact ⟨htrace, hsame⟩
        · rw [hkid] at hsome
          cases hsome
      constructor
      · rw [kidsOf_append_none hnone]
        exact h.held
      · refine ⟨last, hlast, hlater, hat, ?_⟩
        rw [kidsOf_append_none hnone, fetchCount_append_single, htrace]
        exact hcost
  | ok kid =>
      have hsome : kidOf lib call = some (Kid.ofHeader kid) := by rw [kidOf, hkid]
      have hkids := kidsOf_append_some past hsome
      obtain ⟨hfetches⟩ := verify_fetches hkid hran
      rcases hfetches.settled fun fetched hmem => by
        obtain ⟨keys, hkeys, hall⟩ := hstable fetched hmem
        obtain ⟨key, hkey⟩ := hall (Kid.ofHeader kid) (by
          rw [hkids]
          exact Finset.mem_insert_self _ _)
        exact ⟨keys, key, hkeys, hkey⟩
        with ⟨hnone, rfl, hkey⟩ | ⟨fetched, keys, hone, hkeys, rfl, hcause⟩
      · -- the key was there, and no older than it may be
        constructor
        · intro other hother
          rw [hkids, Finset.mem_insert] at hother
          rcases hother with rfl | hother
          · exact hkey
          · exact h.held other hother
        · refine ⟨last, hlast, hlater, hat, ?_⟩
          rw [fetchCount_append_single, hnone, List.length_nil, add_zero]
          have hcard : ((kidsOf lib past).card : ℚ) ≤ (kidsOf lib (past ++ [call])).card := by
            rw [hkids]
            exact_mod_cast Finset.card_le_card (Finset.subset_insert _ _)
          have hkeys := mul_le_mul_of_nonneg_left hcard hpositive
          linarith
      · constructor
        · obtain ⟨keys', hkeys', hall⟩ := hstable fetched (by
            rw [hone]
            exact List.mem_singleton_self _)
          rw [hkeys] at hkeys'
          cases hkeys'
          exact hall
        · refine ⟨call.now, hstart, fun now _ hall => hall call (by simp), .inr rfl, ?_⟩
          have hreached : last ≤ call.now := hearliest call.now hstart hpast
          rw [fetchCount_append_single, hone, hkids, List.length_singleton, Nat.cast_add,
            Nat.cast_one, add_mul, one_mul]
          by_cases hmissing : s.keysByKid.get? (Kid.ofHeader kid) = none
          · -- a key that was not there has not been asked for before
            have hnew : Kid.ofHeader kid ∉ kidsOf lib past := by
              intro hmem
              obtain ⟨key, hkey⟩ := h.held _ hmem
              rw [hmissing] at hkey
              cases hkey
            rw [Finset.card_insert_of_notMem hnew, Nat.cast_add, Nat.cast_one]
            linarith
          · -- a key that was there is fetched again a lifetime after the last fetch
            have hold := hcause.resolve_left hmissing
            have hsince : s.fetchedAt = last := hat.resolve_left fun hempty => by
              rw [hempty] at hmissing
              exact hmissing (Dict.get?_empty _)
            have hcard : ((kidsOf lib past).card : ℚ) ≤
                (insert (Kid.ofHeader kid) (kidsOf lib past)).card := by
              exact_mod_cast Finset.card_le_card (Finset.subset_insert _ _)
            have hkeys := mul_le_mul_of_nonneg_left hcard hpositive
            linarith

/-- **Any number of calls** are. -/
theorem VerifyCalls.paid {start : ℚ} {calls : List (VerifyCall Key)}
    (h : VerifyCalls lib text settings s calls s') (past : List (VerifyCall Key))
    (hpositive : 0 ≤ settings.cacheTtlS)
    (hclock : (past ++ calls).Pairwise (·.now ≤ ·.now))
    (hstart : ∀ call ∈ past ++ calls, start ≤ call.now)
    (hstable : Stable lib settings (past ++ calls))
    (hpaid : Paid lib settings start past s) : Paid lib settings start (past ++ calls) s' := by
  induction calls generalizing past s with
  | nil =>
      rw [VerifyCalls] at h
      rw [h, List.append_nil]
      exact hpaid
  | cons call calls ih =>
      obtain ⟨next, hcall, hrest⟩ := h
      have hstep := hpaid.step hpositive hcall (hstart call (by simp))
        (fun earlier hmem => (List.pairwise_append.mp hclock).2.2 earlier hmem call (by simp))
        (hstable past call calls rfl)
      have hassoc : past ++ call :: calls = past ++ [call] ++ calls := by simp
      rw [hassoc] at hclock hstart hstable ⊢
      exact ih hrest (past ++ [call]) hclock hstart hstable hstep

/-- A call of a sequence runs on what the calls before it left. -/
theorem VerifyCalls.split {past later : List (VerifyCall Key)} {call : VerifyCall Key}
    (h : VerifyCalls lib text settings s (past ++ call :: later) s') :
    ∃ before after, VerifyCalls lib text settings s past before ∧
      call.Ran lib text settings before after := by
  induction past generalizing s with
  | nil =>
      obtain ⟨after, hcall, _⟩ := h
      exact ⟨s, after, rfl, hcall⟩
  | cons first past ih =>
      obtain ⟨next, hfirst, hrest⟩ := h
      obtain ⟨before, after, hpast, hcall⟩ := ih hrest
      exact ⟨before, after, ⟨next, hfirst, hpast⟩, hcall⟩

end Calls

/-! ## The budget -/

/-- **How often the signing keys are fetched.** In any sequence of verifications on a clock
that never runs backwards, each fetches at most twice, and one that ends without the key
its token asks for has fetched, however often that happens. As long as the endpoint
publishes the keys in use, all of them together fetch at most once for every key and once
for every lifetime that has passed. -/
theorem jwks_fetches_bounded {Key : Type} {lib : JwtLibrary Key} {text : PyText}
    {settings : JwksSettings} {s : JwksCache Key} {calls : List (VerifyCall Key)}
    (h : VerifyCalls lib text settings {} calls s) :
    (∀ past call later, calls = past ++ call :: later → ∃ before after : JwksCache Key,
      VerifyCalls lib text settings {} past before ∧ call.Ran lib text settings before after ∧
      (fetchesOf call.trace).length ≤ 2 ∧
      ∀ kid, kidOf lib call = some kid → after.keysByKid.get? kid = none →
        1 ≤ (fetchesOf call.trace).length) ∧
    (0 ≤ settings.cacheTtlS → calls.Pairwise (·.now ≤ ·.now) → Stable lib settings calls →
      ∀ start stop, (∀ call ∈ calls, start ≤ call.now ∧ call.now ≤ stop) → start ≤ stop →
        fetchCount calls * settings.cacheTtlS ≤
          (stop - start) + settings.cacheTtlS * (kidsOf lib calls).card) := by
  constructor
  · rintro past call later rfl
    obtain ⟨before, after, hpast, hcall⟩ := h.split
    refine ⟨before, after, hpast, hcall, ?_⟩
    cases hkid : lib.unverifiedKid call.token with
    | error exc =>
        have htrace : call.trace = [] := by
          rcases verify_cases hcall with ⟨_, _, htrace, _⟩ | ⟨kid, hsome, _⟩
          · exact htrace
          · rw [hkid] at hsome
            cases hsome
        simp [htrace, fetchesOf, kidOf, hkid]
    | ok kid =>
        obtain ⟨hfetches⟩ := verify_fetches hkid hcall
        refine ⟨hfetches.length_le, fun other hother hmissing => ?_⟩
        rw [kidOf, hkid] at hother
        obtain rfl := Option.some.inj hother
        exact List.length_pos_iff.mpr (hfetches.ne_nil hmissing)
  · intro hpositive hclock hstable start stop hwithin hle
    have hpaid := h.paid [] hpositive hclock (fun call hmem => (hwithin call hmem).1) hstable
      (Paid.start start)
    obtain ⟨last, _, hearliest, _, hcost⟩ := hpaid.cost
    have hlast := hearliest stop hle fun call hmem => (hwithin call hmem).2
    rw [List.nil_append] at hcost
    linarith

/-- Two calls with one key, 300 seconds apart, at a verifier whose keys live as long: one
fetch for the key and one for the lifetime. -/
theorem jwks_fetches_bounded_oneKey :
    let lib := JwtLibrary.sample rsaDocument
    let text : PyText := ⟨id, id⟩
    let settings : JwksSettings := ⟨"url", "issuer", "audience", 300⟩
    let decoded : Except DecodeError Claims := .ok ⟨some "u", none, none, none⟩
    let first := playVerify lib text settings 0 "token" (.ok (bodyOf rsaDocument)) decoded {}
    let second :=
      playVerify lib text settings 300 "token" (.ok (bodyOf rsaDocument)) decoded first.2
    fetchCount [first.1, second.1] = 2 ∧
      (fetchCount [first.1, second.1] * 300 : ℚ) ≤
        (300 - 0) + 300 * (kidsOf lib [first.1, second.1]).card := by
  intro lib text settings decoded first second
  have hcalls : VerifyCalls lib text settings {} [first.1, second.1] second.2 :=
    ⟨first.2, playVerify_ran .., second.2, playVerify_ran .., rfl⟩
  have hclock : [first.1, second.1].Pairwise (·.now ≤ ·.now) := by decide +kernel
  have hwithin : ∀ call ∈ [first.1, second.1], (0 : ℚ) ≤ call.now ∧ call.now ≤ 300 := by
    decide +kernel
  have hfetched : ∀ call ∈ [first.1, second.1], ∀ fetched ∈ fetchesOf call.trace,
      fetched = .ok (bodyOf rsaDocument) := by
    decide +kernel
  have hloads : ((.ok (bodyOf rsaDocument) : Except String (List UInt8)) >>= lib.loads) =
      .ok rsaDocument := if_pos rfl
  have hpublished : published lib settings (.ok (bodyOf rsaDocument)) =
      .ok (Dict.ofList [(.str "k", "key")]) := by
    rw [published, hloads]
    rfl
  have hstable : Stable lib settings [first.1, second.1] := by
    intro past call later hsplit fetched hmem
    have hcall : call ∈ [first.1, second.1] := by simp [hsplit]
    obtain rfl := hfetched call hcall fetched hmem
    refine ⟨_, hpublished, fun kid hmem => ?_⟩
    obtain ⟨other, _, hother⟩ := List.mem_filterMap.mp (List.mem_toFinset.mp hmem)
    obtain rfl : Kid.str "k" = kid := Option.some.inj hother
    exact ⟨"key", rfl⟩
  exact ⟨by decide +kernel, (jwks_fetches_bounded hcalls).2 (by decide +kernel) hclock hstable 0 300
    hwithin (by decide +kernel)⟩

end BedrockGateway
