/-
# What a verification does

A call of the verifier fetches at most twice. As long as the fetches succeed, the keys
it goes on with are those of the last one; a fetch that fails ends the call and leaves
the attributes as they were. The clock is any set of instants it may show during the
call.
-/

import BedrockGateway.Auth.Jwks
import Mathlib.Tactic.Linarith

namespace BedrockGateway

open Foundation

section Runs

variable {Key : Type}

/-- How the questions of a call are answered. The endpoint and the library answer in any
way; the attributes are those of the verifier. -/
def JwksServes (clock : ℚ → Prop) (s : JwksCache Key) :
    (q : JwksQuery Key) → JwksAnswer q → JwksCache Key → Prop
  | .httpGet _, _, s' => s' = s
  | .monotonic, now, s' => clock now ∧ s' = s
  | .keysByKid, keys, s' => keys = s.keysByKid ∧ s' = s
  | .fetchedAt, instant, s' => instant = s.fetchedAt ∧ s' = s
  | .setKeysByKid keys, _, s' => s' = { s with keysByKid := keys }
  | .setFetchedAt instant, _, s' => s' = { s with fetchedAt := instant }
  | .decode _ _ _ _, _, s' => s' = s

/-- The answer of a fetch. -/
def fetchOf : Event (@JwksAnswer Key) → Option (Except String (List UInt8))
  | ⟨.httpGet _, fetched⟩ => some fetched
  | _ => none

/-- The answers of the fetches of a trace. -/
def fetchesOf (trace : List (Event (@JwksAnswer Key))) :
    List (Except String (List UInt8)) :=
  trace.filterMap fetchOf

theorem fetchesOf_append (first second : List (Event (@JwksAnswer Key))) :
    fetchesOf (first ++ second) = fetchesOf first ++ fetchesOf second :=
  List.filterMap_append

variable (lib : JwtLibrary Key) (text : PyText) (settings : JwksSettings)

/-- What a fetch makes of the endpoint's answer: a dictionary of keys, or an exception. -/
def published (fetched : Except String (List UInt8)) : Except Exn (Dict Kid Key) :=
  match fetched >>= lib.loads with
  | .error exc =>
      .error (.auth s!"unable to fetch JWKS from {settings.jwksUrl}: {exc}"
        "IDENTITY_PROVIDER_UNAVAILABLE")
  | .ok jwks => keysOfJwks lib jwks

/-- The events of a fetch that succeeds, after the fetch itself. -/
def assigned (keys : Dict Kid Key) (now : ℚ) : List (Event (@JwksAnswer Key)) :=
  [⟨.setKeysByKid keys, ()⟩, ⟨.monotonic, now⟩, ⟨.setFetchedAt now, ()⟩]

section Steps

variable {lib text settings} {clock : ℚ → Prop} {s s' : JwksCache Key}
variable {trace : List (Event (@JwksAnswer Key))}

/-- A refresh fails on its fetch, or replaces both attributes. -/
theorem refresh_cases {outcome : Except Exn Unit}
    (h : Fallible.Ran (JwksServes clock) (refresh lib settings) s trace outcome s') :
    ∃ fetched,
      (∃ exn, published lib settings fetched = .error exn ∧
        trace = [⟨.httpGet settings.jwksUrl, fetched⟩] ∧ outcome = .error exn ∧ s' = s) ∨
      ∃ keys now, published lib settings fetched = .ok keys ∧ clock now ∧
        trace = ⟨.httpGet settings.jwksUrl, fetched⟩ :: assigned keys now ∧
        outcome = .ok () ∧ s' = ⟨keys, now⟩ := by
  obtain ⟨fetched, _, tail, rfl, rfl, hrest⟩ := Fallible.ran_ask_bind_iff.mp h
  refine ⟨fetched, ?_⟩
  unfold published
  cases hparsed : fetched >>= lib.loads with
  | error exc =>
      simp only [hparsed] at hrest
      obtain ⟨rfl, rfl, rfl⟩ := Fallible.ran_throw_iff.mp hrest
      exact .inl ⟨_, rfl, rfl, rfl, rfl⟩
  | ok jwks =>
      simp only [hparsed] at hrest
      cases hkeys : keysOfJwks lib jwks with
      | error exn =>
          simp only [hkeys] at hrest
          obtain ⟨rfl, rfl, rfl⟩ := Fallible.ran_throw_iff.mp hrest
          exact .inl ⟨exn, hkeys, rfl, rfl, rfl⟩
      | ok keys =>
          simp only [hkeys] at hrest
          obtain ⟨_, _, _, rfl, rfl, hclock⟩ := Fallible.ran_ask_bind_iff.mp hrest
          obtain ⟨now, _, _, rfl, ⟨hnow, rfl⟩, hset⟩ := Fallible.ran_ask_bind_iff.mp hclock
          obtain ⟨_, rfl, rfl, rfl⟩ := Fallible.ran_ask_iff.mp hset
          exact .inr ⟨keys, now, hkeys, hnow, rfl, rfl, rfl⟩

/-- A part of a call that did not fail: all its fetches succeeded, and the keys it
leaves are those of the last one. -/
structure Renews (lib : JwtLibrary Key) (settings : JwksSettings) (clock : ℚ → Prop)
    (s : JwksCache Key) (trace : List (Event (@JwksAnswer Key))) (s' : JwksCache Key) :
    Prop where
  threaded : Program.Threaded (JwksServes clock) s trace s'
  good : ∀ fetched ∈ fetchesOf trace, ∃ keys, published lib settings fetched = .ok keys
  unused : ∀ token key audience issuer decoded,
    ⟨.decode token key audience issuer, decoded⟩ ∉ trace
  current : (fetchesOf trace = [] ∧ s' = s) ∨ ∃ fetched ∈ fetchesOf trace,
    published lib settings fetched = .ok s'.keysByKid ∧ clock s'.fetchedAt

/-- A part of a call that failed: its last fetch did, and nothing happened after. -/
def Fails (lib : JwtLibrary Key) (settings : JwksSettings) (clock : ℚ → Prop) {α : Type}
    (s : JwksCache Key) (trace : List (Event (@JwksAnswer Key)))
    (outcome : Except Exn α) (s' : JwksCache Key) : Prop :=
  ∃ before fetched exn, trace = before ++ [⟨.httpGet settings.jwksUrl, fetched⟩] ∧
    Renews lib settings clock s before s' ∧ published lib settings fetched = .error exn ∧
    outcome = .error exn

theorem Renews.nil : Renews lib settings clock s [] s where
  threaded := rfl
  good := by simp [fetchesOf]
  unused := by simp
  current := .inl ⟨rfl, rfl⟩

theorem Renews.append {middle : JwksCache Key}
    {first second : List (Event (@JwksAnswer Key))}
    (hfirst : Renews lib settings clock s first middle)
    (hsecond : Renews lib settings clock middle second s') :
    Renews lib settings clock s (first ++ second) s' where
  threaded := Program.threaded_append.mpr ⟨middle, hfirst.threaded, hsecond.threaded⟩
  good fetched hmem := by
    rw [fetchesOf_append] at hmem
    exact (List.mem_append.mp hmem).elim (hfirst.good fetched) (hsecond.good fetched)
  unused token key audience issuer decoded hmem :=
    (List.mem_append.mp hmem).elim (hfirst.unused token key audience issuer decoded)
      (hsecond.unused token key audience issuer decoded)
  current := by
    rw [fetchesOf_append]
    rcases hsecond.current with ⟨hnone, rfl⟩ | ⟨fetched, hmem, hkeys, hclock⟩
    · rw [hnone, List.append_nil]
      exact hfirst.current
    · exact .inr ⟨fetched, List.mem_append_right _ hmem, hkeys, hclock⟩

theorem Renews.fails {α : Type} {middle : JwksCache Key} {outcome : Except Exn α}
    {first second : List (Event (@JwksAnswer Key))}
    (hfirst : Renews lib settings clock s first middle)
    (hsecond : Fails lib settings clock middle second outcome s') :
    Fails lib settings clock s (first ++ second) outcome s' := by
  obtain ⟨before, fetched, exn, rfl, hbefore, hfailed, houtcome⟩ := hsecond
  exact ⟨first ++ before, fetched, exn, (List.append_assoc _ _ _).symm, hfirst.append hbefore,
    hfailed, houtcome⟩

/-- Reading an attribute or the clock is no more than that. -/
theorem Renews.read {q : JwksQuery Key} {answer : JwksAnswer q}
    (hanswer : JwksServes clock s q answer s) (hfetch : fetchOf ⟨q, answer⟩ = none)
    (hread : ∀ token key audience issuer, q ≠ .decode token key audience issuer) :
    Renews lib settings clock s [⟨q, answer⟩] s where
  threaded := Program.threaded_single.mpr hanswer
  good := by simp [fetchesOf, hfetch]
  unused token key audience issuer decoded hmem := by
    rw [List.mem_singleton] at hmem
    cases hmem
    exact hread token key audience issuer rfl
  current := .inl ⟨by simp [fetchesOf, hfetch], rfl⟩

/-- **A refresh** renews the keys, by a fetch, or fails. -/
theorem refresh_renews {outcome : Except Exn Unit}
    (h : Fallible.Ran (JwksServes clock) (refresh lib settings) s trace outcome s') :
    (outcome = .ok () ∧ Renews lib settings clock s trace s' ∧ fetchesOf trace ≠ []) ∨
      Fails lib settings clock s trace outcome s' := by
  obtain ⟨fetched, ⟨exn, hfailed, rfl, rfl, rfl⟩ | ⟨keys, now, hkeys, hnow, rfl, rfl, rfl⟩⟩ :=
    refresh_cases h
  · exact .inr ⟨[], fetched, exn, rfl, .nil, hfailed, rfl⟩
  · refine .inl ⟨rfl, ?_, by simp [fetchesOf, fetchOf]⟩
    constructor
    · exact h.2
    · intro other hmem
      have hother : other = fetched := by simpa [fetchesOf, fetchOf, assigned] using hmem
      exact ⟨keys, hother ▸ hkeys⟩
    · simp [assigned]
    · exact .inr ⟨fetched, by simp [fetchesOf, fetchOf, assigned], hkeys, hnow⟩

/-- **The staleness check**: what it goes on with without a fetch is fresh. -/
theorem refreshIfStale_renews {outcome : Except Exn Unit}
    (h : Fallible.Ran (JwksServes clock) (refreshIfStale lib settings) s trace outcome s') :
    (outcome = .ok () ∧ Renews lib settings clock s trace s' ∧
      (fetchesOf trace = [] → ∃ now, clock now ∧ now - s.fetchedAt < settings.cacheTtlS)) ∨
      Fails lib settings clock s trace outcome s' := by
  obtain ⟨keys, next, tail, rfl, ⟨rfl, hnext⟩, hrest⟩ := Fallible.ran_ask_bind_iff.mp h
  rw [hnext] at hrest
  have hkeys : Renews lib settings clock s [⟨.keysByKid, s.keysByKid⟩] s :=
    .read ⟨rfl, rfl⟩ rfl (by simp)
  split at hrest
  · rcases refresh_renews hrest with ⟨rfl, hrenews, hfetched⟩ | hfails
    · exact .inl ⟨rfl, hkeys.append hrenews, fun hnone => absurd hnone hfetched⟩
    · exact .inr (hkeys.fails hfails)
  · obtain ⟨now, next, tail, rfl, ⟨hnow, hnext⟩, hrest⟩ := Fallible.ran_ask_bind_iff.mp hrest
    rw [hnext] at hrest
    obtain ⟨instant, next, tail, rfl, ⟨rfl, hnext⟩, hrest⟩ := Fallible.ran_ask_bind_iff.mp hrest
    rw [hnext] at hrest
    have hclock : Renews lib settings clock s [⟨.monotonic, now⟩] s :=
      .read ⟨hnow, rfl⟩ rfl (by simp)
    have hinstant : Renews lib settings clock s [⟨.fetchedAt, s.fetchedAt⟩] s :=
      .read ⟨rfl, rfl⟩ rfl (by simp)
    have hchecks := (hkeys.append hclock).append hinstant
    split at hrest
    case isTrue hstale =>
      rcases refresh_renews hrest with ⟨rfl, hrenews, hfetched⟩ | hfails
      · exact .inl ⟨rfl, hchecks.append hrenews, fun hnone => absurd hnone hfetched⟩
      · exact .inr (hchecks.fails hfails)
    case isFalse hfresh =>
      obtain ⟨rfl, rfl, rfl⟩ := Fallible.ran_pure_iff.mp hrest
      exact .inl ⟨rfl, hchecks, fun _ => ⟨now, hnow, not_le.mp hfresh⟩⟩

/-- **The lookup**: a key that is not found has been looked for in fetched keys. -/
theorem findKey_renews {kid : Option String} {outcome : Except Exn (Option Key)}
    (h : Fallible.Ran (JwksServes clock) (findKey lib settings kid) s trace outcome s') :
    (∃ key, outcome = .ok key ∧ Renews lib settings clock s trace s' ∧
      s'.keysByKid.get? (Kid.ofHeader kid) = key ∧ (key = none → fetchesOf trace ≠ [])) ∨
      Fails lib settings clock s trace outcome s' := by
  obtain ⟨keys, next, tail, rfl, ⟨rfl, hnext⟩, hrest⟩ := Fallible.ran_ask_bind_iff.mp h
  rw [hnext] at hrest
  have hread : ∀ {m : JwksCache Key}, Renews lib settings clock m [⟨.keysByKid, m.keysByKid⟩] m :=
    .read ⟨rfl, rfl⟩ rfl (by simp)
  cases hfound : s.keysByKid.get? (Kid.ofHeader kid) with
  | some key =>
      simp only [hfound] at hrest
      obtain ⟨rfl, rfl, rfl⟩ := Fallible.ran_pure_iff.mp hrest
      exact .inl ⟨some key, rfl, hread, hfound, by simp⟩
  | none =>
      simp only [hfound] at hrest
      rcases Fallible.ran_bind_iff.mp hrest with
        ⟨exn, hraised, rfl⟩ | ⟨first, second, _, middle, rfl, hran, hafter⟩
      · rcases refresh_renews hraised with
          ⟨hok, _⟩ | ⟨before, fetched, exn', rfl, hrenews, hfailed, heq⟩
        · cases hok
        · cases heq
          exact .inr (hread.fails ⟨before, fetched, exn, rfl, hrenews, hfailed, rfl⟩)
      · rcases refresh_renews hran with ⟨_, hrenews, hfetched⟩ | ⟨_, _, _, _, _, _, heq⟩
        · obtain ⟨keys, _, tail, rfl, ⟨rfl, rfl⟩, hend⟩ := Fallible.ran_ask_bind_iff.mp hafter
          obtain ⟨rfl, rfl, rfl⟩ := Fallible.ran_pure_iff.mp hend
          refine .inl ⟨_, rfl, hread.append (hrenews.append hread), rfl, fun _ hnone => ?_⟩
          rw [← List.singleton_append, fetchesOf_append, fetchesOf_append] at hnone
          exact hfetched (List.append_eq_nil_iff.mp (List.append_eq_nil_iff.mp hnone).2).1
        · cases heq

/-- What decoding makes of the library's answer. -/
def decodeOutcome : Except DecodeError Claims → Except Exn Claims
  | .ok claims => .ok claims
  | .error .expiredSignature => .error (unauthenticated "token expired")
  | .error (.invalidToken exc) => .error (unauthenticated s!"invalid token: {exc}")

/-- Decoding does not fail for an unknown key. -/
theorem decodeOutcome_ne_unknown (decoded : Except DecodeError Claims) (kid : String) :
    decodeOutcome decoded ≠ .error (unauthenticated s!"unknown signing key id: {kid}") := by
  have hfirst : ∀ {first second : String}, unauthenticated first = unauthenticated second →
      first.toList.head? = second.toList.head? := by
    intro first second heq
    rw [(Exn.auth.inj heq).1]
  cases decoded with
  | ok claims => simp [decodeOutcome]
  | error failure =>
      intro heq
      cases failure with
      | expiredSignature => exact absurd (hfirst (Except.error.inj heq)) (by simp [toString])
      | invalidToken exc => exact absurd (hfirst (Except.error.inj heq)) (by simp [toString])

theorem decodeToken_cases {token : String} {key : Key} {outcome : Except Exn Claims}
    (h : Fallible.Ran (JwksServes clock) (decodeToken settings token key) s trace outcome s') :
    ∃ decoded, trace = [⟨.decode token key settings.audience settings.issuer, decoded⟩] ∧
      outcome = decodeOutcome decoded ∧ s' = s := by
  obtain ⟨decoded, _, tail, rfl, rfl, hrest⟩ := Fallible.ran_ask_bind_iff.mp h
  refine ⟨decoded, ?_⟩
  unfold decodeOutcome
  cases decoded with
  | ok claims =>
      obtain ⟨rfl, rfl, rfl⟩ := Fallible.ran_pure_iff.mp hrest
      exact ⟨rfl, rfl, rfl⟩
  | error failure =>
      cases failure with
      | expiredSignature =>
          obtain ⟨rfl, rfl, rfl⟩ := Fallible.ran_throw_iff.mp hrest
          exact ⟨rfl, rfl, rfl⟩
      | invalidToken exc =>
          obtain ⟨rfl, rfl, rfl⟩ := Fallible.ran_throw_iff.mp hrest
          exact ⟨rfl, rfl, rfl⟩

/-- **A verification** rejects a token it cannot read, fails on a fetch, does not know the
token's key although it fetched, or decodes with the key it has for the token's id. -/
theorem verify_cases {token : String} {outcome : Except Exn Claims}
    (h : Fallible.Ran (JwksServes clock) (verify lib text settings token) s trace outcome s') :
    (∃ exc, lib.unverifiedKid token = .error exc ∧ trace = [] ∧ s' = s ∧
      outcome = .error (unauthenticated s!"malformed token: {exc}")) ∨
    ∃ kid, lib.unverifiedKid token = .ok kid ∧
      (Fails lib settings clock s trace outcome s' ∨
        (Renews lib settings clock s trace s' ∧ fetchesOf trace ≠ [] ∧
          s'.keysByKid.get? (Kid.ofHeader kid) = none ∧
          outcome = .error (unauthenticated s!"unknown signing key id: {text.reprOption kid}")) ∨
        ∃ before key decoded,
          trace = before ++ [⟨.decode token key settings.audience settings.issuer, decoded⟩] ∧
          Renews lib settings clock s before s' ∧
          (fetchesOf before = [] → ∃ now, clock now ∧ now - s.fetchedAt < settings.cacheTtlS) ∧
          s'.keysByKid.get? (Kid.ofHeader kid) = some key ∧ outcome = decodeOutcome decoded) := by
  unfold verify at h
  cases hkid : lib.unverifiedKid token with
  | error exc =>
      simp only [hkid] at h
      obtain ⟨rfl, rfl, rfl⟩ := Fallible.ran_throw_iff.mp h
      exact .inl ⟨exc, rfl, rfl, rfl, rfl⟩
  | ok kid =>
      simp only [hkid] at h
      refine .inr ⟨kid, rfl, ?_⟩
      rcases Fallible.ran_bind_iff.mp h with
        ⟨exn, hraised, rfl⟩ | ⟨first, second, _, middle, rfl, hchecked, hrest⟩
      · rcases refreshIfStale_renews hraised with
          ⟨hok, _⟩ | ⟨before, fetched, exn', rfl, hb, hf, heq⟩
        · cases hok
        · cases heq
          exact .inl ⟨before, fetched, exn, rfl, hb, hf, rfl⟩
      obtain ⟨_, hchecked, hfresh⟩ | ⟨_, _, _, _, _, _, heq⟩ := refreshIfStale_renews hchecked
      swap
      · cases heq
      rcases Fallible.ran_bind_iff.mp hrest with
        ⟨exn, hraised, rfl⟩ | ⟨second, third, key, last, rfl, hlooked, hrest⟩
      · rcases findKey_renews hraised with ⟨_, hok, _⟩ | ⟨before, fetched, exn', rfl, hb, hf, heq⟩
        · cases hok
        · cases heq
          exact .inl (hchecked.fails ⟨before, fetched, exn, rfl, hb, hf, rfl⟩)
      obtain ⟨found, heq, hrenews, hget, hfetched⟩ | ⟨_, _, _, _, _, _, heq⟩ :=
        findKey_renews hlooked
      swap
      · cases heq
      cases heq
      cases key with
      | none =>
          obtain ⟨rfl, rfl, rfl⟩ := Fallible.ran_throw_iff.mp hrest
          rw [List.append_nil]
          refine .inr (.inl ⟨hchecked.append hrenews, fun hnone => ?_, hget, rfl⟩)
          rw [fetchesOf_append] at hnone
          exact hfetched rfl (List.append_eq_nil_iff.mp hnone).2
      | some key =>
          obtain ⟨decoded, rfl, rfl, rfl⟩ := decodeToken_cases hrest
          refine .inr (.inr ⟨first ++ second, key, decoded, (List.append_assoc _ _ _).symm,
            hchecked.append hrenews, fun hnone => ?_, hget, rfl⟩)
          rw [fetchesOf_append] at hnone
          exact hfresh (List.append_eq_nil_iff.mp hnone).1

end Steps

/-! ## Sequences of calls -/

/-- A call of `verify`: the instant at which it happens, its token, what it did and how it
ended. -/
structure VerifyCall (Key : Type) where
  now : ℚ
  token : String
  trace : List (Event (@JwksAnswer Key))
  outcome : Except Exn Claims

/-- The call takes the attributes from one state to the other. -/
def VerifyCall.Ran (call : VerifyCall Key) (s s' : JwksCache Key) : Prop :=
  Fallible.Ran (JwksServes fun now => now = call.now) (verify lib text settings call.token) s
    call.trace call.outcome s'

/-- The calls, one after the other. -/
def VerifyCalls : JwksCache Key → List (VerifyCall Key) → JwksCache Key → Prop
  | s, [], s' => s' = s
  | s, call :: calls, s' => ∃ next, call.Ran lib text settings s next ∧ VerifyCalls next calls s'

/-- A call published the keys: they are what one of its fetches made of the endpoint's
answer. -/
def VerifyCall.Publishes (call : VerifyCall Key) (keys : Dict Kid Key) : Prop :=
  ∃ fetched ∈ fetchesOf call.trace, published lib settings fetched = .ok keys

/-- The keys of a verifier were published at the instant it remembers, if there are any. -/
def Sourced (past : List (VerifyCall Key)) (s : JwksCache Key) : Prop :=
  s.keysByKid = Dict.empty ∨
    ∃ call ∈ past, call.Publishes lib settings s.keysByKid ∧ call.now = s.fetchedAt

section Sequences

variable {lib text settings} {s s' : JwksCache Key}

theorem Renews.sourced {past : List (VerifyCall Key)} {call : VerifyCall Key}
    {before : List (Event (@JwksAnswer Key))}
    (hrenews : Renews lib settings (fun now => now = call.now) s before s')
    (hbefore : before <+: call.trace) (hsourced : Sourced lib settings past s) :
    Sourced lib settings (past ++ [call]) s' := by
  obtain ⟨after, htrace⟩ := hbefore
  rcases hrenews.current with ⟨_, rfl⟩ | ⟨fetched, hmem, hkeys, hnow⟩
  · refine hsourced.imp_right ?_
    rintro ⟨source, hsource, hpublished⟩
    exact ⟨source, List.mem_append_left _ hsource, hpublished⟩
  · have hfetched : fetched ∈ fetchesOf call.trace := by
      rw [← htrace, fetchesOf_append]
      exact List.mem_append_left _ hmem
    exact .inr ⟨call, by simp, ⟨fetched, hfetched, hkeys⟩, hnow.symm⟩

/-- **One call** keeps the keys sourced. -/
theorem VerifyCall.Ran.sourced {past : List (VerifyCall Key)} {call : VerifyCall Key}
    (h : call.Ran lib text settings s s') (hsourced : Sourced lib settings past s) :
    Sourced lib settings (past ++ [call]) s' := by
  rcases verify_cases h with ⟨_, _, htrace, rfl, _⟩ |
    ⟨_, _, ⟨before, _, _, htrace, hrenews, _⟩ | ⟨hrenews, _⟩ | ⟨before, _, _, htrace, hrenews, _⟩⟩
  · exact Renews.nil.sourced (htrace ▸ List.nil_prefix) hsourced
  · exact hrenews.sourced (htrace ▸ List.prefix_append _ _) hsourced
  · exact hrenews.sourced (List.prefix_refl _) hsourced
  · exact hrenews.sourced (htrace ▸ List.prefix_append _ _) hsourced

/-- **Any number of calls** keeps them sourced. -/
theorem VerifyCalls.sourced {past calls : List (VerifyCall Key)}
    (h : VerifyCalls lib text settings s calls s') (hsourced : Sourced lib settings past s) :
    Sourced lib settings (past ++ calls) s' := by
  induction calls generalizing past s with
  | nil =>
      rw [VerifyCalls] at h
      rw [h, List.append_nil]
      exact hsourced
  | cons call calls ih =>
      obtain ⟨next, hcall, hrest⟩ := h
      rw [← List.singleton_append, ← List.append_assoc]
      exact ih hrest (hcall.sourced hsourced)

/-- A key decoded with is the one the verifier holds at the end of the call. -/
theorem VerifyCall.Ran.used {call : VerifyCall Key} (h : call.Ran lib text settings s s')
    {token audience issuer : String} {key : Key} {decoded : Except DecodeError Claims}
    (hmem : ⟨.decode token key audience issuer, decoded⟩ ∈ call.trace) :
    ∃ kid before, lib.unverifiedKid call.token = .ok kid ∧ before <+: call.trace ∧
      Renews lib settings (fun now => now = call.now) s before s' ∧
      (fetchesOf before = [] → call.now - s.fetchedAt < settings.cacheTtlS) ∧
      s'.keysByKid.get? (Kid.ofHeader kid) = some key := by
  rcases verify_cases h with ⟨_, _, htrace, _⟩ |
    ⟨kid, hkid, ⟨before, _, _, htrace, hrenews, _⟩ | ⟨hrenews, _⟩ |
      ⟨before, used, decoded', htrace, hrenews, hfresh, hget, _⟩⟩
  · rw [htrace] at hmem
    cases hmem
  · rw [htrace] at hmem
    rcases List.mem_append.mp hmem with hin | hlast
    · exact absurd hin (hrenews.unused _ _ _ _ _)
    · simp at hlast
  · exact absurd hmem (hrenews.unused _ _ _ _ _)
  · refine ⟨kid, before, hkid, htrace ▸ List.prefix_append _ _, hrenews, ?_, ?_⟩
    · intro hnone
      obtain ⟨now, rfl, hlt⟩ := hfresh hnone
      exact hlt
    · rw [htrace] at hmem
      rcases List.mem_append.mp hmem with hin | hlast
      · exact absurd hin (hrenews.unused _ _ _ _ _)
      · rw [List.mem_singleton] at hlast
        cases hlast
        exact hget

/-- A fetch that fails is the last thing a call does. -/
theorem VerifyCall.Ran.failed {call : VerifyCall Key} (h : call.Ran lib text settings s s')
    {before after : List (Event (@JwksAnswer Key))}
    {fetched : Except String (List UInt8)} {exn : Exn}
    (htrace : call.trace = before ++ ⟨.httpGet settings.jwksUrl, fetched⟩ :: after)
    (hfailed : published lib settings fetched = .error exn) :
    after = [] ∧ call.outcome = .error exn ∧
      Renews lib settings (fun now => now = call.now) s before s' := by
  have hbad : ∀ {middle : JwksCache Key} {prior : List (Event (@JwksAnswer Key))},
      Renews lib settings (fun now => now = call.now) s prior middle →
      fetched ∉ fetchesOf prior := by
    intro middle prior hrenews hmem
    obtain ⟨keys, hkeys⟩ := hrenews.good fetched hmem
    rw [hfailed] at hkeys
    cases hkeys
  have hmem : fetched ∈ fetchesOf call.trace := by
    rw [htrace, fetchesOf_append]
    simp [fetchesOf, fetchOf]
  rcases verify_cases h with ⟨_, _, hempty, _⟩ |
    ⟨_, _, ⟨prior, last, exn', heq, hrenews, hlast, houtcome⟩ | ⟨hrenews, _⟩ |
      ⟨prior, _, _, heq, hrenews, _⟩⟩
  · rw [hempty] at hmem
    simp [fetchesOf] at hmem
  · -- all fetches before the last one succeeded, so the failed one is the last one
    rcases List.eq_nil_or_concat after with rfl | ⟨init, event, rfl⟩
    · rw [htrace] at heq
      obtain ⟨rfl, hevent⟩ := List.append_inj' heq rfl
      cases hevent
      rw [hlast] at hfailed
      cases hfailed
      exact ⟨rfl, houtcome, hrenews⟩
    · rw [htrace, List.concat_eq_append, ← List.cons_append, ← List.append_assoc] at heq
      obtain ⟨rfl, _⟩ := List.append_inj' heq rfl
      exact absurd (by rw [fetchesOf_append]; simp [fetchesOf, fetchOf]) (hbad hrenews)
  · exact absurd hmem (hbad hrenews)
  · rw [heq, fetchesOf_append] at hmem
    rcases List.mem_append.mp hmem with hin | hlast
    · exact absurd hin (hbad hrenews)
    · simp [fetchesOf, fetchOf] at hlast

/-- A token is not rejected for an unknown key while the fetches bring one. -/
theorem VerifyCall.Ran.known {call : VerifyCall Key} (h : call.Ran lib text settings s s')
    {kid : Option String} (hkid : lib.unverifiedKid call.token = .ok kid)
    (hbrought : ∀ fetched ∈ fetchesOf call.trace, ∃ keys key,
      published lib settings fetched = .ok keys ∧ keys.get? (Kid.ofHeader kid) = some key) :
    call.outcome ≠
      .error (unauthenticated s!"unknown signing key id: {text.reprOption kid}") := by
  rcases verify_cases h with ⟨exc, hmalformed, _⟩ |
    ⟨kid', hkid', ⟨before, fetched, exn, htrace, _, hfailed, _⟩ |
      ⟨hrenews, hfetched, hget, _⟩ | ⟨_, _, decoded, _, _, _, _, houtcome⟩⟩
  · rw [hkid] at hmalformed
    cases hmalformed
  · have hmem : fetched ∈ fetchesOf call.trace := by
      rw [htrace, fetchesOf_append]
      simp [fetchesOf, fetchOf]
    obtain ⟨keys, key, hkeys, _⟩ := hbrought fetched hmem
    rw [hfailed] at hkeys
    cases hkeys
  · -- an unknown key is missing from what the last fetch brought
    rw [hkid] at hkid'
    cases hkid'
    rcases hrenews.current with ⟨hnone, _⟩ | ⟨fetched, hmem, hlast, _⟩
    · exact absurd hnone hfetched
    · obtain ⟨keys, key, hkeys, hhit⟩ := hbrought fetched hmem
      rw [hlast] at hkeys
      cases hkeys
      rw [hget] at hhit
      cases hhit
  · rw [houtcome]
    exact decodeOutcome_ne_unknown decoded _

end Sequences

/-! ## Playing calls -/

/-- Answer the questions of a call at an instant, from the attributes, the endpoint's
answer and the library's. -/
def serveJwks (now : ℚ) (fetched : Except String (List UInt8))
    (decoded : Except DecodeError Claims) (s : JwksCache Key) :
    (q : JwksQuery Key) → JwksAnswer q × JwksCache Key
  | .httpGet _ => (fetched, s)
  | .monotonic => (now, s)
  | .keysByKid => (s.keysByKid, s)
  | .fetchedAt => (s.fetchedAt, s)
  | .setKeysByKid keys => ((), { s with keysByKid := keys })
  | .setFetchedAt instant => ((), { s with fetchedAt := instant })
  | .decode _ _ _ _ => (decoded, s)

theorem serveJwks_serves (now : ℚ) (fetched : Except String (List UInt8))
    (decoded : Except DecodeError Claims) (s : JwksCache Key) (q : JwksQuery Key) :
    JwksServes (fun instant => instant = now) s q (serveJwks now fetched decoded s q).1
      (serveJwks now fetched decoded s q).2 := by
  cases q with
  | httpGet url => exact rfl
  | monotonic => exact ⟨rfl, rfl⟩
  | keysByKid => exact ⟨rfl, rfl⟩
  | fetchedAt => exact ⟨rfl, rfl⟩
  | setKeysByKid keys => exact rfl
  | setFetchedAt instant => exact rfl
  | decode token key audience issuer => exact rfl

/-- Play one call. -/
def playVerify (now : ℚ) (token : String) (fetched : Except String (List UInt8))
    (decoded : Except DecodeError Claims) (s : JwksCache Key) : VerifyCall Key × JwksCache Key :=
  let ran := (verify lib text settings token).run.runOn (serveJwks now fetched decoded) s
  (⟨now, token, ran.1, ran.2.1⟩, ran.2.2)

theorem playVerify_ran (now : ℚ) (token : String) (fetched : Except String (List UInt8))
    (decoded : Except DecodeError Claims) (s : JwksCache Key) :
    (playVerify lib text settings now token fetched decoded s).1.Ran lib text settings s
      (playVerify lib text settings now token fetched decoded s).2 :=
  ⟨Program.exec_runOn _ _ _, Program.threaded_runOn (serveJwks_serves now fetched decoded) _ _⟩

/-- The key an event decodes with. -/
def decodedKey : Event (@JwksAnswer Key) → Option Key
  | ⟨.decode _ key _ _, _⟩ => some key
  | _ => none

end Runs

/-- The body of a document. -/
def bodyOf (document : Json) : List UInt8 := (Json.dumps .spaced document).toByteArray.toList

/-- A library that knows one document, RSA keys by a name, and tokens of one key. -/
def JwtLibrary.sample (document : Json) : JwtLibrary String where
  loads raw := if raw = bodyOf document then .ok document else .error "Expecting value"
  fromJwk fields :=
    match entryOf "kty" fields with
    | some (.str "RSA") => .ok "key"
    | _ => .error "Not an RSA key"
  unverifiedKid _ := .ok (some "k")

/-! ## Freshness -/

section Freshness

variable {Key : Type} {lib : JwtLibrary Key} {text : PyText} {settings : JwksSettings}
variable {s s' : JwksCache Key}

/-- **Freshness of signing keys.** After any sequence of calls, with any answers of the
endpoint and a clock that never runs backwards: the key a call decodes with was published
for the token's id less than a lifetime before the call; a token is not rejected for an
unknown key while the endpoint can be reached and publishes the key; and a fetch that
fails ends the call with an authentication error and changes neither attribute. -/
theorem signingKeys_fresh (hpositive : 0 < settings.cacheTtlS) {past : List (VerifyCall Key)}
    {call : VerifyCall Key} (hpast : VerifyCalls lib text settings {} past s)
    (hclock : (past ++ [call]).Pairwise (·.now ≤ ·.now))
    (hcall : call.Ran lib text settings s s') :
    (∀ token key audience issuer decoded,
      ⟨.decode token key audience issuer, decoded⟩ ∈ call.trace →
      ∃ kid, lib.unverifiedKid call.token = .ok kid ∧
        ∃ source ∈ past ++ [call], ∃ keys, source.Publishes lib settings keys ∧
          keys.get? (Kid.ofHeader kid) = some key ∧
          call.now - settings.cacheTtlS < source.now ∧ source.now ≤ call.now) ∧
    (∀ kid, lib.unverifiedKid call.token = .ok kid →
      (∀ fetched ∈ fetchesOf call.trace, ∃ keys key,
        published lib settings fetched = .ok keys ∧ keys.get? (Kid.ofHeader kid) = some key) →
      call.outcome ≠
        .error (unauthenticated s!"unknown signing key id: {text.reprOption kid}")) ∧
    ∀ before fetched after exc,
      call.trace = before ++ ⟨.httpGet settings.jwksUrl, fetched⟩ :: after →
      (fetched >>= lib.loads) = .error exc →
      after = [] ∧ call.outcome = .error
        (.auth s!"unable to fetch JWKS from {settings.jwksUrl}: {exc}"
          "IDENTITY_PROVIDER_UNAVAILABLE") ∧
        Program.Threaded (JwksServes fun now => now = call.now) s before s' := by
  have hsourced : Sourced lib settings past s := by
    have hnone : Sourced lib settings [] ({} : JwksCache Key) := .inl rfl
    simpa using hpast.sourced hnone
  refine ⟨?_, fun kid hkid hbrought => hcall.known hkid hbrought, ?_⟩
  · intro token key audience issuer decoded hmem
    obtain ⟨kid, before, hkid, hbefore, hrenews, hfresh, hget⟩ := hcall.used hmem
    refine ⟨kid, hkid, ?_⟩
    rcases hrenews.current with ⟨hnone, rfl⟩ | ⟨fetched, hfetched, hkeys, hnow⟩
    · -- no fetch in this call: the keys are a former call's, and still fresh
      rcases hsourced with hempty | ⟨source, hsource, hpublished, hat⟩
      · rw [hempty] at hget
        cases hget
      · have hage := hfresh hnone
        have hle : source.now ≤ call.now :=
          (List.pairwise_append.mp hclock).2.2 source hsource call (by simp)
        refine ⟨source, List.mem_append_left _ hsource, _, hpublished, hget, ?_, hle⟩
        rw [hat]
        linarith
    · obtain ⟨rest, htrace⟩ := hbefore
      have hmem' : fetched ∈ fetchesOf call.trace := by
        rw [← htrace, fetchesOf_append]
        exact List.mem_append_left _ hfetched
      exact ⟨call, by simp, _, ⟨fetched, hmem', hkeys⟩, hget, by linarith, le_rfl⟩
  · intro before fetched after exc htrace hexc
    have hfailed : published lib settings fetched = .error
        (.auth s!"unable to fetch JWKS from {settings.jwksUrl}: {exc}"
          "IDENTITY_PROVIDER_UNAVAILABLE") := by
      rw [published, hexc]
    obtain ⟨hafter, houtcome, hrenews⟩ := hcall.failed htrace hfailed
    exact ⟨hafter, houtcome, hrenews.threaded⟩

end Freshness

/-- A document with one RSA key. -/
def rsaDocument : Json := .obj [("keys", .arr [.obj [("kty", .str "RSA"), ("kid", .str "k")]])]

/-- A verifier that fetches at time 0 and decodes with the fetched key at time 10, when
the endpoint is down. -/
theorem signingKeys_fresh_cachedKey :
    let lib := JwtLibrary.sample rsaDocument
    let text : PyText := ⟨id, id⟩
    let settings : JwksSettings := ⟨"url", "issuer", "audience", 300⟩
    let decoded : Except DecodeError Claims := .ok ⟨some "u", none, none, none⟩
    let first := playVerify lib text settings 0 "token" (.ok (bodyOf rsaDocument)) decoded {}
    let second := playVerify lib text settings 10 "token" (.error "down") decoded first.2
    second.1.trace.findSome? decodedKey = some "key" ∧
      ∃ source ∈ [first.1, second.1], ∃ keys, source.Publishes lib settings keys ∧
        keys.get? (.str "k") = some "key" ∧ 10 - 300 < source.now ∧ source.now ≤ 10 := by
  intro lib text settings decoded first second
  have hused : second.1.trace.findSome? decodedKey = some "key" := by decide +kernel
  have hcalls : VerifyCalls lib text settings {} [first.1] first.2 :=
    ⟨first.2, playVerify_ran .., rfl⟩
  have hclock : ([first.1] ++ [second.1]).Pairwise (·.now ≤ ·.now) := by decide +kernel
  have hsecond : second.1.Ran lib text settings first.2 second.2 := playVerify_ran ..
  have hpositive : 0 < settings.cacheTtlS := by decide +kernel
  have hfresh := signingKeys_fresh hpositive hcalls hclock hsecond
  obtain ⟨⟨q, answer⟩, hmem, hkey⟩ := List.exists_of_findSome?_eq_some hused
  refine ⟨hused, ?_⟩
  cases q with
  | decode token key audience issuer =>
      cases hkey
      obtain ⟨kid, hkid, hsource⟩ := hfresh.1 _ _ _ _ _ hmem
      cases hkid
      exact hsource
  | _ => cases hkey

end BedrockGateway
