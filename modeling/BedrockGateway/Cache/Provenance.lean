/-
# Cached answers

A cached answer repeats the result of an earlier request, which asked a model, had
its output pass the guardrail, and agrees with the request that is answered in all
that the key records. The epoch in the key stands for the whole policy, so the two
ran under the very same one, and no change of the tenant's state came in between.
-/

import BedrockGateway.Cache.CheckedOutput
import BedrockGateway.Policy.Epochs

namespace BedrockGateway

open Foundation

/-- `body.get(name)` -/
def Json.field? (name : String) : Json → Option Json
  | .obj fields => fields.lookup name
  | _ => none

/-- The response says that it comes from the cache. -/
def FromCache : Response → Bool
  | .json 200 content =>
      match Json.field? "cache_hit" content with
      | some (.bool hit) => hit
      | _ => false
  | _ => false

/-- The key that an event asks the cache for. -/
def keyOf : Event Answer → Option String
  | ⟨.cacheGet key, _⟩ => some key
  | ⟨.cacheSet key _, _⟩ => some key
  | _ => none

/-- These are the fields of a payload that a request of the run takes the digest of. -/
def DigestTaken (app : App) (c : Process) (fields : CacheKeyFields) : Prop :=
  ∃ tid thread request history a, c.threads tid = some thread ∧ thread.job = .chat request ∧
    history <+: traceOf tid c.log ∧ Screens app request history a ∧ fields = a.cacheKeyFields ∧
    ∃ event ∈ traceOf tid c.log, keyOf event = some (buildCacheKey app.sha256 fields)

/-- The digest does not collide on the payloads that occur. -/
def NoCollision (app : App) (c : Process) : Prop :=
  ∀ x y, DigestTaken app c x → DigestTaken app c y →
    app.sha256 x.canonical = app.sha256 y.canonical → x.canonical = y.canonical

/-- The request that a write to the cache comes from, and the result it writes. -/
structure WrittenFor (app : App) (c : Process) (before : ProcessLog)
    (put : Entry Answer GatewayState Job (Except Exn Unit)) (writer : Accepted)
    (value : CachedResponse) : Prop where
  wrote : ∃ result,
    put.action = .did ⟨.cacheSet (buildCacheKey app.sha256 writer.cacheKeyFields) value, result⟩
  produced : ∃ thread request routed, c.threads put.tid = some thread ∧
    thread.job = .chat request ∧ Produces app request (traceOf put.tid before) writer routed ∧
    value = cachedResponse routed

/-- Two requests that may share an answer. -/
structure SameQuestion (writer reader : Accepted) : Prop where
  tenantId : writer.identity.tenantId = reader.identity.tenantId
  applicationId : writer.identity.applicationId = reader.identity.applicationId
  modelId : writer.modelId = reader.modelId
  maxTokens : writer.chatRequest.maxTokens = reader.chatRequest.maxTokens
  temperature : writer.chatRequest.temperature = reader.chatRequest.temperature
  messages : writer.chatRequest.messages = reader.chatRequest.messages
  policy : writer.policy = reader.policy

/-- No successful change of the tenant's state separates the two resolutions. -/
def Unseparated (c : Process) (tid tid' : ℕ) (writer reader : Accepted) : Prop :=
  ∀ earlier change later state updated, c.log = earlier ++ change :: later →
    change.action = .did ⟨.storeSetState reader.identity.tenantId state, .ok updated⟩ →
    Resolved (traceOf tid earlier) reader.identity.tenantId writer.policy →
    ¬ Resolved (traceOf tid' later) reader.identity.tenantId reader.policy

/-- What an answer from the cache rests on. -/
def CachedAnswer (app : App) (c : Process) (past : ProcessLog) (request : HttpRequest)
    (tid : ℕ) (response : Response) : Prop :=
  ∃ reader cached before put between hit after writer,
    Screens app request (traceOf tid past) reader ∧ reader.chatRequest.stream = false ∧
    response = .json 200 (cachedReply reader.toAdmitted cached).modelDump ∧
    past = before ++ put :: (between ++ hit :: after) ∧ hit.tid = tid ∧
    hit.action =
      .did ⟨.cacheGet (buildCacheKey app.sha256 reader.cacheKeyFields), some cached⟩ ∧
    WrittenFor app c before put writer cached ∧
    hit.before.now - put.before.now < app.settings.responseCacheTtlS ∧
    SameQuestion writer reader ∧ Unseparated c put.tid tid writer reader

/-! ## What equal keys mean -/

theorem role_value_inj {r r' : Role} (h : r.value = r'.value) : r = r' := by
  revert h
  cases r <;> cases r' <;> decide

/-- Normalizing loses nothing of a message list. -/
theorem normalizeMessages_inj {messages messages' : List ChatMessage}
    (h : normalizeMessages messages = normalizeMessages messages') : messages = messages' := by
  apply List.map_injective_iff.mpr _ h
  intro m m' hm
  simp only [NormalizedMessage.mk.injEq] at hm
  obtain ⟨role, content, _⟩ := m
  obtain ⟨role', content', _⟩ := m'
  obtain ⟨hrole, hcontent⟩ := hm
  cases role_value_inj hrole
  cases hcontent
  rfl

section Runs

variable {app : App} {c : Process} {now : ℚ} {policies : PolicyStore}

/-- A policy that a request was handed was in the store then. -/
theorem entry_of_resolved (h : (eventLoop app).Reachable (.fresh now policies) c)
    {tid : ℕ} {part : ProcessLog} (hpart : part ⊆ c.log) {tenantId : String}
    {policy : TenantPolicy} (hresolved : Resolved (traceOf tid part) tenantId policy) :
    ∃ entry ∈ part, entry.before.policies.get? tenantId = some policy := by
  have hcoherent := (eventLoop_coherent h (Coherent.fresh now policies)).2
  rcases hresolved with hmem | hmem
  · obtain ⟨entry, hentry, _, haction⟩ := mem_traceOf_iff.mp hmem
    exact ⟨entry, hentry, hcoherent entry (hpart hentry) _ haction _ _ (.inl rfl)⟩
  · obtain ⟨entry, hentry, _, haction⟩ := mem_traceOf_iff.mp hmem
    exact ⟨entry, hentry, hcoherent entry (hpart hentry) _ haction _ _ (.inr rfl)⟩

/-- Equal digests of two requests of one run: they ask the same. -/
theorem sameQuestion_of_key (h : (eventLoop app).Reachable (.fresh now policies) c)
    (hdigest : NoCollision app c) {writer reader : Accepted}
    (hwriter : DigestTaken app c writer.cacheKeyFields)
    (hreader : DigestTaken app c reader.cacheKeyFields)
    {part part' : ProcessLog} (hpart : part ⊆ c.log) (hpart' : part' ⊆ c.log) {tid tid' : ℕ}
    (hresolved : Resolved (traceOf tid part) writer.identity.tenantId writer.policy)
    (hresolved' : Resolved (traceOf tid' part') reader.identity.tenantId reader.policy)
    (hkey : buildCacheKey app.sha256 writer.cacheKeyFields =
      buildCacheKey app.sha256 reader.cacheKeyFields) : SameQuestion writer reader := by
  obtain ⟨htenant, happlication, hmodel, hmaxTokens, htemperature, hmessages, _, hepoch⟩ :=
    CacheKeyFields.canonical_inj (hdigest _ _ hwriter hreader hkey)
  obtain ⟨first, hfirst, hget⟩ := entry_of_resolved h hpart hresolved
  obtain ⟨second, hsecond, hget'⟩ := entry_of_resolved h hpart' hresolved'
  have htenant : writer.identity.tenantId = reader.identity.tenantId := htenant
  rw [htenant] at hget
  exact {
    tenantId := htenant
    applicationId := happlication
    modelId := hmodel
    maxTokens := hmaxTokens
    temperature := htemperature
    messages := normalizeMessages_inj hmessages
    policy := (eventLoop_overGateway app).policy_of_epoch h.replay (hpart hfirst)
      (hpart' hsecond) hget hget' hepoch }

/-- Requests under one policy are not separated by a change. -/
theorem unseparated_of_policy (h : (eventLoop app).Reachable (.fresh now policies) c)
    {writer reader : Accepted} (hpolicy : writer.policy = reader.policy) (tid tid' : ℕ) :
    Unseparated c tid tid' writer reader := by
  intro earlier change later state updated hlog haction hbefore hafter
  have hearlier : earlier ⊆ c.log := by
    rw [hlog]
    exact List.subset_append_left _ _
  have hlater : later ⊆ c.log := by
    rw [hlog]
    exact fun entry hmem => by simp [hmem]
  obtain ⟨first, hfirst, hget⟩ := entry_of_resolved h hearlier hbefore
  obtain ⟨second, hsecond, hget'⟩ := entry_of_resolved h hlater hafter
  obtain ⟨past, between, rfl⟩ := List.append_of_mem hfirst
  obtain ⟨after, future, rfl⟩ := List.append_of_mem hsecond
  have hreplay := h.replay
  rw [hlog, List.append_assoc, List.cons_append] at hreplay
  have hlt := (eventLoop_overGateway app).epoch_lt_of_change hreplay hget haction hget'
  rw [hpolicy] at hlt
  exact lt_irrefl _ hlt

/-- An answer that says it comes from the cache repeats what a lookup of its request
has found. -/
theorem Answered.hit {request : HttpRequest} {history : History} {response : Response}
    (h : Answered app request history response) (hcached : FromCache response = true) :
    ∃ reader cached, Screens app request history reader ∧ reader.chatRequest.stream = false ∧
      ⟨.cacheGet (buildCacheKey app.sha256 reader.cacheKeyFields), some cached⟩ ∈ history ∧
      response = .json 200 (cachedReply reader.toAdmitted cached).modelDump := by
  rcases h with ⟨a, source, _, _, _, rfl⟩ | ⟨a, cached, hs, hstream, hmem, rfl⟩ |
    ⟨a, routed, _, _, rfl⟩
  · simp [FromCache] at hcached
  · exact ⟨a, cached, hs, hstream, hmem, rfl⟩
  · simp [FromCache, Json.field?, ChatResponse.modelDump, freshReply, List.lookup_cons] at hcached

theorem status_of_fromCache {response : Response} (h : FromCache response = true) :
    response.statusCode = 200 := by
  unfold FromCache at h
  split at h
  · rfl
  · cases h

/-- What a thread has done so far is part of all it does. -/
theorem traceOf_initial {past future : ProcessLog}
    {entry : Entry Answer GatewayState Job (Except Exn Unit)}
    (hlog : c.log = past ++ entry :: future) (tid : ℕ) :
    traceOf tid past <+: traceOf tid c.log := by
  rw [hlog, traceOf_append]
  exact List.prefix_append _ _

/-- Whose a write is. -/
theorem writtenFor_of_cacheSet (h : (eventLoop app).Reachable (.fresh now policies) c)
    {before future : ProcessLog} {put : Entry Answer GatewayState Job (Except Exn Unit)}
    {key : String} {value : CachedResponse} {result : Except Exn Unit}
    (hlog : c.log = before ++ put :: future)
    (haction : put.action = .did ⟨.cacheSet key value, result⟩) :
    ∃ writer, WrittenFor app c before put writer value ∧
      DigestTaken app c writer.cacheKeyFields ∧
      Resolved (traceOf put.tid before) writer.identity.tenantId writer.policy ∧
      key = buildCacheKey app.sha256 writer.cacheKeyFields := by
  obtain ⟨thread, request, writer, routed, hthread, hjob, hproduces, hkey, hvalue⟩ :=
    produces_of_cacheSet h hlog haction
  have hmem : ⟨.cacheSet key value, result⟩ ∈ traceOf put.tid c.log :=
    mem_traceOf_iff.mpr ⟨put, by simp [hlog], rfl, haction⟩
  refine ⟨writer, ⟨⟨result, hkey ▸ haction⟩, ?_⟩, ?_, hproduces.isResolved, hkey⟩
  · exact ⟨thread, request, routed, hthread, hjob, hproduces, hvalue⟩
  · exact ⟨put.tid, thread, request, traceOf put.tid before, writer, hthread, hjob,
      traceOf_initial hlog _, hproduces.toScreens, rfl, _, hmem, congrArg some hkey⟩

/-- **The provenance of cached answers.** -/
theorem cachedAnswer_provenance (h : (eventLoop app).Reachable (.fresh now policies) c)
    (hdigest : NoCollision app c) {past future : ProcessLog}
    {answer : Entry Answer GatewayState Job (Except Exn Unit)} {response : Response}
    {headers : List (String × String)} {sent : Except Exn Unit}
    {thread : Thread Query Answer Job (Except Exn Unit)} {request : HttpRequest}
    (hlog : c.log = past ++ answer :: future)
    (haction : answer.action = .did ⟨.sendStart response headers, sent⟩)
    (hthread : c.threads answer.tid = some thread) (hjob : thread.job = .chat request)
    (hcached : FromCache response = true) :
    CachedAnswer app c past request answer.tid response := by
  have howes := chat_meets h hlog haction hthread hjob
  obtain ⟨reader, cached, hs, hstream, hmem, hresponse⟩ :=
    (howes.1 (status_of_fromCache hcached)).hit hcached
  have hreader : DigestTaken app c reader.cacheKeyFields :=
    ⟨answer.tid, thread, request, traceOf answer.tid past, reader, hthread, hjob,
      traceOf_initial hlog _, hs, rfl, _, (traceOf_initial hlog _).subset hmem, rfl⟩
  have hpast : past ⊆ c.log := by
    rw [hlog]
    exact List.subset_append_left _ _
  obtain ⟨hit, hhit, htid, hlookup⟩ := mem_traceOf_iff.mp hmem
  obtain ⟨earlier, after, hearlier⟩ := List.append_of_mem hhit
  have hsplit : c.log = earlier ++ hit :: (after ++ answer :: future) := by simp [hlog, hearlier]
  obtain ⟨put, hput, ⟨result, hset⟩, hfresh⟩ :=
    (eventLoop_overGateway app).hit_written h.replay rfl hsplit hlookup
  obtain ⟨before, between, hbefore⟩ := List.append_of_mem hput
  have hwrite : c.log = before ++ put :: (between ++ hit :: (after ++ answer :: future)) := by
    simp [hsplit, hbefore]
  have hsub : before ⊆ c.log := by
    rw [hwrite]
    exact List.subset_append_left _ _
  obtain ⟨writer, hwritten, hwriter, hresolved, hkey⟩ := writtenFor_of_cacheSet h hwrite hset
  have hsame := sameQuestion_of_key h hdigest hwriter hreader hsub hpast hresolved
    hs.isResolved hkey.symm
  exact ⟨reader, cached, before, put, between, hit, after, writer, hs, hstream, hresponse,
    by simp [hearlier, hbefore], htid, hlookup, hwritten, hfresh, hsame,
    unseparated_of_policy h hsame.policy _ _⟩

end Runs

/-! ## A run with a cached answer -/

/-- The entry starts a response that says it comes from the cache. -/
def answersFromCache (entry : Entry Answer GatewayState Job (Except Exn Unit)) : Bool :=
  match entry.action with
  | .did ⟨.sendStart response _, _⟩ => FromCache response
  | _ => false

theorem action_of_answersFromCache {entry : Entry Answer GatewayState Job (Except Exn Unit)}
    (h : answersFromCache entry = true) : ∃ response headers sent,
      entry.action = .did ⟨.sendStart response headers, sent⟩ ∧ FromCache response = true := by
  unfold answersFromCache at h
  split at h
  case h_1 response headers sent haction => exact ⟨response, headers, sent, haction, h⟩
  case h_2 => cases h

/-- The job is a chat request. -/
def Job.isChat : Job → Bool
  | .chat _ => true
  | .setTenantState _ _ => false

/-- The same request twice. -/
def repeatedRequest : Process :=
  (eventLoopDriver App.plain).play (Machine.initial (.fresh 0 oneTenant)) [
    { tid := 0, job := some (.chat operatorRequest), oracle := servingWorld helloBody },
    { tid := 0, oracle := servingWorld helloBody },
    { tid := 1, job := some (.chat operatorRequest), oracle := servingWorld helloBody },
    { tid := 1, oracle := servingWorld helloBody },
    { tid := 1, oracle := servingWorld helloBody }]

theorem repeatedRequest_cached : ∃ entry ∈ repeatedRequest.log, answersFromCache entry = true ∧
    (repeatedRequest.threads entry.tid).any (·.job.isChat) = true := by
  decide +kernel

/-- The second answer comes from the cache, and has the provenance of one. -/
theorem cachedAnswer_provenance_repeatedRequest : ∃ past answer future response request,
    repeatedRequest.log = past ++ answer :: future ∧ FromCache response = true ∧
      CachedAnswer App.plain repeatedRequest past request answer.tid response := by
  have hreachable : (eventLoop App.plain).Reachable (.fresh 0 oneTenant) repeatedRequest :=
    Driver.play_reachable ..
  obtain ⟨answer, hmem, hanswers, hchat⟩ := repeatedRequest_cached
  obtain ⟨past, future, hlog⟩ := List.append_of_mem hmem
  obtain ⟨response, headers, sent, haction, hcached⟩ := action_of_answersFromCache hanswers
  obtain ⟨thread, hthread, hjob⟩ := (Option.any_eq_true ..).mp hchat
  cases hrequest : thread.job with
  | chat request =>
      exact ⟨past, answer, future, response, request, hlog, hcached,
        cachedAnswer_provenance hreachable (fun _ _ _ _ heq => heq) hlog haction hthread hrequest
          hcached⟩
  | setTenantState request tenantId => simp [hrequest, Job.isChat] at hjob

end BedrockGateway
