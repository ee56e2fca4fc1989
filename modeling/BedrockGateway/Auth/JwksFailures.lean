/-
# How a verification fails

Fetching and parsing a document are guarded, and so is decoding a token. What is made of
the parsed document is not: an entry that is no object, has no id or an unhashable one, or
is no RSA key, raises past the verifier, and so does a document that is no object of keys.
So a verification fails with an authentication error exactly as long as the documents it
parses are lists of RSA keys.
-/

import BedrockGateway.Auth.JwksRuns
import BedrockGateway.EventLoop

namespace BedrockGateway

open Foundation Py

section Documents

variable {Key : Type} (lib : JwtLibrary Key)

/-- An entry a key can be made of. -/
def UsableKey (item : Json) : Prop :=
  ∃ fields kid, item = .obj fields ∧ entryOf "kid" fields = some kid ∧
    (Kid.ofJson kid).isSome = true ∧ ∃ key, lib.fromJwk fields = .ok key

/-- A document the keys can be made of: an object whose `keys`, if there are any, are
entries a key can be made of. -/
def UsableJwks (jwks : Json) : Prop :=
  ∃ fields items, jwks = .obj fields ∧
    iterItems ((entryOf "keys" fields).getD (.arr [])) = some items ∧
    ∀ item ∈ items, UsableKey lib item

variable {lib}

theorem signingKey_cases (lib : JwtLibrary Key) (item : Json) :
    ((∃ entry, signingKey lib item = .ok entry) ∧ UsableKey lib item) ∨
      ((∃ message, signingKey lib item = .error (.other message)) ∧ ¬ UsableKey lib item) := by
  cases item with
  | obj fields =>
      unfold signingKey
      dsimp only
      cases hkid : entryOf "kid" fields with
      | none =>
          refine .inr ⟨⟨_, rfl⟩, ?_⟩
          rintro ⟨_, kid, heq, hentry, _⟩
          cases heq
          rw [hkid] at hentry
          cases hentry
      | some kid =>
          dsimp only
          cases hkey : lib.fromJwk fields with
          | error exc =>
              refine .inr ⟨⟨_, rfl⟩, ?_⟩
              rintro ⟨_, _, heq, _, _, key, hmade⟩
              cases heq
              rw [hkey] at hmade
              cases hmade
          | ok key =>
              dsimp only
              cases hhash : Kid.ofJson kid with
              | none =>
                  refine .inr ⟨⟨_, rfl⟩, ?_⟩
                  rintro ⟨_, _, heq, hentry, hhashable, _⟩
                  cases heq
                  rw [hkid] at hentry
                  cases hentry
                  rw [hhash] at hhashable
                  cases hhashable
              | some id =>
                  exact .inl ⟨⟨_, rfl⟩, fields, kid, rfl, hkid, by simp [hhash], key, hkey⟩
  | _ =>
      refine .inr ⟨⟨_, rfl⟩, ?_⟩
      rintro ⟨_, _, heq, _⟩
      cases heq

theorem signingKeys_cases (lib : JwtLibrary Key) (items : List Json) :
    ((∃ entries, signingKeys lib items = .ok entries) ∧ ∀ item ∈ items, UsableKey lib item) ∨
      ((∃ message, signingKeys lib items = .error (.other message)) ∧
        ¬ ∀ item ∈ items, UsableKey lib item) := by
  induction items with
  | nil => exact .inl ⟨⟨[], rfl⟩, by simp⟩
  | cons item items ih =>
      unfold signingKeys
      rcases signingKey_cases lib item with ⟨⟨entry, hentry⟩, husable⟩ |
        ⟨⟨message, hraised⟩, hunusable⟩
      · rw [hentry]
        dsimp only
        rcases ih with ⟨⟨entries, hentries⟩, hall⟩ | ⟨⟨message, hraised⟩, hnot⟩
        · rw [hentries]
          refine .inl ⟨⟨_, rfl⟩, ?_⟩
          intro other hmem
          rcases List.mem_cons.mp hmem with rfl | hmem
          · exact husable
          · exact hall other hmem
        · rw [hraised]
          exact .inr ⟨⟨_, rfl⟩, fun hall => hnot fun other hmem =>
            hall other (List.mem_cons_of_mem _ hmem)⟩
      · rw [hraised]
        exact .inr ⟨⟨_, rfl⟩, fun hall => hunusable (hall item List.mem_cons_self)⟩

/-- Keys are made of the usable documents; any other one raises an exception that is not
the gateway's. -/
theorem keysOfJwks_cases (lib : JwtLibrary Key) (jwks : Json) :
    ((∃ keys, keysOfJwks lib jwks = .ok keys) ∧ UsableJwks lib jwks) ∨
      ((∃ message, keysOfJwks lib jwks = .error (.other message)) ∧ ¬ UsableJwks lib jwks) := by
  cases jwks with
  | obj fields =>
      unfold keysOfJwks
      dsimp only
      cases hitems : iterItems ((entryOf "keys" fields).getD (.arr [])) with
      | none =>
          refine .inr ⟨⟨_, rfl⟩, ?_⟩
          rintro ⟨_, items, heq, hiter, _⟩
          cases heq
          rw [hitems] at hiter
          cases hiter
      | some items =>
          dsimp only
          rcases signingKeys_cases lib items with ⟨⟨entries, hentries⟩, hall⟩ |
            ⟨⟨message, hraised⟩, hnot⟩
          · rw [hentries]
            exact .inl ⟨⟨_, rfl⟩, fields, items, rfl, hitems, hall⟩
          · rw [hraised]
            refine .inr ⟨⟨_, rfl⟩, ?_⟩
            rintro ⟨_, other, heq, hiter, hall⟩
            cases heq
            rw [hitems] at hiter
            cases hiter
            exact hnot hall
  | _ =>
      refine .inr ⟨⟨_, rfl⟩, ?_⟩
      rintro ⟨_, _, heq, _⟩
      cases heq

/-- A fetch brings keys, or an authentication error where nothing was parsed, or another
exception where the parsed document is unusable. -/
theorem published_cases (lib : JwtLibrary Key) (settings : JwksSettings)
    (fetched : Except String (List UInt8)) :
    ((∀ jwks, (fetched >>= lib.loads) = .ok jwks → UsableJwks lib jwks) ∧
      ((∃ keys, published lib settings fetched = .ok keys) ∨
        ∃ message code, published lib settings fetched = .error (.auth message code))) ∨
    ((∃ jwks, (fetched >>= lib.loads) = .ok jwks ∧ ¬ UsableJwks lib jwks) ∧
      ∃ message, published lib settings fetched = .error (.other message)) := by
  unfold published
  cases hparsed : fetched >>= lib.loads with
  | error exc => exact .inl ⟨by simp, .inr ⟨_, _, rfl⟩⟩
  | ok jwks =>
      dsimp only
      rcases keysOfJwks_cases lib jwks with ⟨hkeys, husable⟩ | ⟨hraised, hunusable⟩
      · exact .inl ⟨fun other heq => Except.ok.inj heq ▸ husable, .inl hkeys⟩
      · exact .inr ⟨⟨jwks, rfl, hunusable⟩, hraised⟩

end Documents

/-! ## Exceptions past the verifier -/

/-- Claims, or an authentication error. -/
def AuthErrorOnly (outcome : Except Exn Claims) : Prop :=
  (∃ claims, outcome = .ok claims) ∨ ∃ message code, outcome = .error (.auth message code)

/-- An identity, or a 401. -/
def UnauthorizedOnly (outcome : Except Exn Identity) : Prop :=
  (∃ identity, outcome = .ok identity) ∨
    ∃ code message, outcome = .error (.pipeline .unauthorized code message)

theorem decodeOutcome_authErrorOnly (decoded : Except DecodeError Claims) :
    AuthErrorOnly (decodeOutcome decoded) := by
  cases decoded with
  | ok claims => exact .inl ⟨claims, rfl⟩
  | error failure =>
      cases failure with
      | expiredSignature => exact .inr ⟨_, _, rfl⟩
      | invalidToken exc => exact .inr ⟨_, _, rfl⟩

/-- An identity is made of claims, or missed with an authentication error. -/
theorem identityFromClaims_cases (claims : Claims) :
    (∃ identity, identityFromClaims claims = .ok identity) ∨
      ∃ message code, identityFromClaims claims = .error (.auth message code) := by
  unfold identityFromClaims
  split
  · split
    · exact .inl ⟨_, rfl⟩
    · exact .inr ⟨_, _, rfl⟩
  · exact .inr ⟨_, _, rfl⟩

/-- What authentication by a token makes of the verifier's outcome. -/
theorem authenticateToken_cases {token : String} {outcome : Except Exn Claims}
    {result : Except Exn Identity}
    (h : Program.Exec (authenticateToken token).run [⟨.verifyToken token, outcome⟩] result) :
    result = (outcome.bind identityFromClaims).mapError
      fun | .auth message code => .pipeline .unauthorized code message | exn => exn := by
  obtain ⟨inner, hbody, rfl⟩ := exec_translate h
  have hinner : inner = outcome.bind identityFromClaims := by
    rcases Fallible.exec_bind_iff.mp hbody with
      ⟨exn, hraised, rfl⟩ | ⟨first, second, claims, htrace, hasked, hsettled⟩
    · obtain ⟨answer, tail, heq, hsettled⟩ := Program.exec_ask_iff.mp hraised
      obtain ⟨rfl, hanswer⟩ := exec_settle hsettled
      cases heq
      rw [← hanswer]
      rfl
    · obtain ⟨answer, tail, rfl, hanswered⟩ := Program.exec_ask_iff.mp hasked
      obtain ⟨rfl, hanswer⟩ := exec_settle hanswered
      obtain ⟨rfl, hinner⟩ := exec_settle hsettled
      cases htrace
      rw [← hanswer]
      exact hinner
  exact congrArg _ hinner

/-- Authentication by a token answers the authentication errors of the verifier with 401,
and lets other exceptions through. -/
theorem unauthorizedOnly_of_authErrorOnly {token : String} {outcome : Except Exn Claims}
    {result : Except Exn Identity}
    (h : Program.Exec (authenticateToken token).run [⟨.verifyToken token, outcome⟩] result)
    (houtcome : AuthErrorOnly outcome) : UnauthorizedOnly result := by
  rw [authenticateToken_cases h]
  rcases houtcome with ⟨claims, rfl⟩ | ⟨message, code, rfl⟩
  · rcases identityFromClaims_cases claims with ⟨identity, hidentity⟩ | ⟨message, code, herror⟩
    · simp only [Except.bind, hidentity]
      exact .inl ⟨identity, rfl⟩
    · simp only [Except.bind, herror]
      exact .inr ⟨code, message, rfl⟩
  · exact .inr ⟨code, message, rfl⟩

theorem not_unauthorizedOnly_of_other {token message : String} {result : Except Exn Identity}
    (h : Program.Exec (authenticateToken token).run
      [⟨.verifyToken token, .error (.other message)⟩] result) : ¬ UnauthorizedOnly result := by
  rw [authenticateToken_cases h]
  rintro (⟨identity, heq⟩ | ⟨code, text, heq⟩)
  · cases heq
  · cases heq

section Verifications

variable {Key : Type} {lib : JwtLibrary Key} {text : PyText} {settings : JwksSettings}
variable {clock : ℚ → Prop} {s s' : JwksCache Key}
variable {token : String} {trace : List (Event (@JwksAnswer Key))}
variable {outcome : Except Exn Claims}

/-- Every document a part of a call parsed is usable, if no fetch of it failed. -/
theorem Renews.usable {before : List (Event (@JwksAnswer Key))}
    (hrenews : Renews lib settings clock s before s') :
    ∀ fetched ∈ fetchesOf before, ∀ jwks, (fetched >>= lib.loads) = .ok jwks →
      UsableJwks lib jwks := by
  intro fetched hmem
  obtain ⟨keys, hkeys⟩ := hrenews.good fetched hmem
  rcases published_cases lib settings fetched with ⟨husable, _⟩ | ⟨_, message, hraised⟩
  · exact husable
  · rw [hkeys] at hraised
    cases hraised

/-- **A verification** ends in claims or an authentication error if all documents it parsed
are usable, and in another exception if one is not. -/
theorem verify_outcome
    (h : Fallible.Ran (JwksServes clock) (verify lib text settings token) s trace outcome s') :
    (AuthErrorOnly outcome ∧ ∀ fetched ∈ fetchesOf trace, ∀ jwks,
      (fetched >>= lib.loads) = .ok jwks → UsableJwks lib jwks) ∨
    ((∃ message, outcome = .error (.other message)) ∧
      ¬ ∀ fetched ∈ fetchesOf trace, ∀ jwks,
        (fetched >>= lib.loads) = .ok jwks → UsableJwks lib jwks) := by
  rcases verify_cases h with ⟨exc, _, rfl, _, rfl⟩ |
    ⟨kid, _, ⟨before, fetched, exn, rfl, hrenews, hfailed, rfl⟩ | ⟨hrenews, _, _, rfl⟩ |
      ⟨before, key, decoded, rfl, hrenews, _, _, rfl⟩⟩
  · exact .inl ⟨.inr ⟨_, _, rfl⟩, by simp [fetchesOf]⟩
  · have hlast : fetchesOf (before ++ [⟨.httpGet settings.jwksUrl, fetched⟩]) =
        fetchesOf before ++ [fetched] := fetchesOf_append _ _
    rw [hlast]
    rcases published_cases lib settings fetched with
      ⟨husable, ⟨keys, hkeys⟩ | ⟨message, code, hauth⟩⟩ |
      ⟨⟨jwks, hparsed, hunusable⟩, message, hother⟩
    · rw [hfailed] at hkeys
      cases hkeys
    · rw [hfailed] at hauth
      cases hauth
      refine .inl ⟨.inr ⟨message, code, rfl⟩, ?_⟩
      intro other hmem
      rcases List.mem_append.mp hmem with hin | hin
      · exact hrenews.usable other hin
      · rw [List.mem_singleton.mp hin]
        exact husable
    · rw [hfailed] at hother
      cases hother
      refine .inr ⟨⟨message, rfl⟩, ?_⟩
      intro hall
      exact hunusable (hall fetched (by simp) jwks hparsed)
  · exact .inl ⟨.inr ⟨_, _, rfl⟩, hrenews.usable⟩
  · refine .inl ⟨decodeOutcome_authErrorOnly decoded, ?_⟩
    have hlast : fetchesOf (before ++
        [⟨.decode token key settings.audience settings.issuer, decoded⟩]) = fetchesOf before := by
      rw [fetchesOf_append]
      exact List.append_nil _
    rw [hlast]
    exact hrenews.usable

/-- **When the verifier fails with authentication errors only**: in any state, whatever the
endpoint answers and the clock shows, a verification ends in claims or an authentication
error, and authentication by the token in an identity or a 401, exactly when every document
it parsed is a list of RSA keys with ids. -/
theorem verify_authErrorOnly_iff {result : Except Exn Identity}
    (h : Fallible.Ran (JwksServes clock) (verify lib text settings token) s trace outcome s')
    (hauthenticated : Program.Exec (authenticateToken token).run
      [⟨.verifyToken token, outcome⟩] result) :
    (AuthErrorOnly outcome ∧ UnauthorizedOnly result) ↔
      ∀ fetched ∈ fetchesOf trace, ∀ jwks, (fetched >>= lib.loads) = .ok jwks →
        UsableJwks lib jwks := by
  rcases verify_outcome h with ⟨honly, husable⟩ | ⟨⟨message, rfl⟩, hunusable⟩
  · exact ⟨fun _ => husable,
      fun _ => ⟨honly, unauthorizedOnly_of_authErrorOnly hauthenticated honly⟩⟩
  · constructor
    · rintro ⟨_, hunauthorized⟩
      exact absurd hunauthorized (not_unauthorizedOnly_of_other hauthenticated)
    · exact fun hall => absurd hall hunusable

end Verifications

/-- A world in which the verification of a token has this outcome. -/
def verifyingWorld (outcome : Except Exn Claims) : (q : Query) → Answer q
  | .verifyToken _ => outcome
  | q => failingWorld q

theorem trace_authenticateToken (token : String) (outcome : Except Exn Claims) :
    ((authenticateToken token).run.answerAll (verifyingWorld outcome)).1 =
      [⟨.verifyToken token, outcome⟩] := by
  have hsettled : ∀ (exnOf : Exn → Exn) (given : Except Exn Identity),
      ((translate exnOf (settle given)).run.answerAll (verifyingWorld outcome)).1 = [] := by
    intro exnOf given
    cases given <;> rfl
  cases outcome with
  | ok claims => exact congrArg (_ :: ·) (hsettled _ (identityFromClaims claims))
  | error exn => rfl

/-- A verifier without keys, and a document that is parsed. -/
theorem verify_authErrorOnly_iff_rsaDocument :
    let lib := JwtLibrary.sample rsaDocument
    let settings : JwksSettings := ⟨"url", "issuer", "audience", 300⟩
    let call := (playVerify lib ⟨id, id⟩ settings 0 "token" (.ok (bodyOf rsaDocument))
      (.error .expiredSignature) {}).1
    let answered := (authenticateToken "token").run.answerAll (verifyingWorld call.outcome)
    (∃ fetched ∈ fetchesOf call.trace, (fetched >>= lib.loads) = .ok rsaDocument) ∧
    ((AuthErrorOnly call.outcome ∧ UnauthorizedOnly answered.2) ↔
      ∀ fetched ∈ fetchesOf call.trace, ∀ jwks, (fetched >>= lib.loads) = .ok jwks →
        UsableJwks lib jwks) := by
  intro lib settings call answered
  have hfetched : (.ok (bodyOf rsaDocument)) ∈ fetchesOf call.trace := by
    decide +kernel
  have hloads : lib.loads (bodyOf rsaDocument) = .ok rsaDocument := if_pos rfl
  have hran : call.Ran lib ⟨id, id⟩ settings {} _ := playVerify_ran ..
  have hanswered := Program.exec_answerAll (verifyingWorld call.outcome)
    (authenticateToken "token").run
  rw [trace_authenticateToken] at hanswered
  exact ⟨⟨_, hfetched, hloads⟩, verify_authErrorOnly_iff hran hanswered⟩

/-- A document with an RSA key and a key of an elliptic curve. -/
def mixedDocument : Json := .obj [("keys", .arr [
  .obj [("kty", .str "RSA"), ("kid", .str "k")], .obj [("kty", .str "EC"), ("kid", .str "e")]])]

/-- One key of another kind in the document, and the verification of a token of the RSA
key raises an exception that is no authentication error. -/
theorem mixedKeys_raise :
    ¬ ∀ (lib : JwtLibrary String) (text : PyText) (settings : JwksSettings)
      (s s' : JwksCache String) (token : String) (trace : List (Event JwksAnswer))
      (outcome : Except Exn Claims),
      Fallible.Ran (JwksServes fun _ => True) (verify lib text settings token) s trace outcome s' →
      AuthErrorOnly outcome := by
  intro hall
  let lib := JwtLibrary.sample mixedDocument
  let settings : JwksSettings := ⟨"url", "issuer", "audience", 300⟩
  let ran := (verify lib ⟨id, id⟩ settings "token").run.runOn
    (serveJwks 0 (.ok (bodyOf mixedDocument)) (.ok ⟨some "u", none, none, none⟩)) {}
  have hthreaded : Program.Threaded (JwksServes fun _ => True) {} ran.1 ran.2.2 := by
    apply Program.threaded_runOn
    intro s q
    cases q with
    | monotonic => exact ⟨trivial, rfl⟩
    | keysByKid => exact ⟨rfl, rfl⟩
    | fetchedAt => exact ⟨rfl, rfl⟩
    | _ => exact rfl
  have hraised : (match ran.2.1 with
    | .error (.other message) => some message
    | _ => none) = some "InvalidKeyError" := by decide +kernel
  rcases hall lib ⟨id, id⟩ settings {} ran.2.2 "token" ran.1 ran.2.1
    ⟨Program.exec_runOn _ _ _, hthreaded⟩ with ⟨claims, hok⟩ | ⟨message, code, hauth⟩
  · rw [hok] at hraised
    cases hraised
  · rw [hauth] at hraised
    cases hraised

end BedrockGateway
