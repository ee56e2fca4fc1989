/-
# The retry loop

`BedrockClient.converse` with the reading of the SDK's response spelled out. The
response may have any shape, and it is read inside the `try` that also guards the call:
a response that cannot be read is a failure like any other, and one without an error
code. The loop has a fuel, which its own bound on the attempts keeps from running out.
-/

import BedrockGateway.Foundation.Json
import BedrockGateway.Foundation.Sequential
import BedrockGateway.Inference.BedrockClient
import Mathlib.Algebra.Order.BigOperators.Group.List
import Mathlib.Order.Bounds.Basic
import Mathlib.Tactic.Linarith
import Mathlib.Tactic.Ring

namespace BedrockGateway

open Foundation

/-! ## Outcomes of a call -/

/-- An exception, as the loop sees it: its text, and its `response` attribute if it has
one. -/
structure SdkException where
  text : String
  response : Option Json := none

/-- What the SDK's `converse` does: return a response of any shape, or raise. -/
abbrev SdkOutcome := Except SdkException Json

/-- `_extract_error_code`. An error dictionary of another shape than botocore's raises here;
its exception is known by its class. -/
def extractErrorCode (exc : SdkException) : Except Exn (Option String) :=
  match exc.response with
  | some (.obj fields) =>
      match (entryOf "Error" fields).getD (.obj []) with
      | .obj error =>
          match entryOf "Code" error with
          | none => .ok none
          | some .null => .ok none
          | some (.str code) => .ok (some code)
          | some _ => .error (.other "TypeError")
      | _ => .error (.other "AttributeError")
  | _ => .ok none

/-- `type(value).__name__` of a part of a response. -/
def typeName : Json → String
  | .null => "NoneType"
  | .bool _ => "bool"
  | .num literal => if literal.text.all fun c => c.isDigit || c == '-' then "int" else "float"
  | .str _ => "str"
  | .arr _ => "list"
  | .obj _ => "dict"

/-- `value[name]`; the text of a `KeyError` is the key in quotes. -/
def subscript (name : String) : Json → Except SdkException Json
  | .obj fields =>
      match entryOf name fields with
      | some value => .ok value
      | none => .error { text := s!"'{name}'" }
  | .arr _ => .error { text := "list indices must be integers or slices, not str" }
  | .str _ => .error { text := "string indices must be integers, not 'str'" }
  | value => .error { text := s!"'{typeName value}' object is not subscriptable" }

/-- `value.get(name, default)` -/
def getOr (name : String) (default : Json) : Json → Except SdkException Json
  | .obj fields => .ok ((entryOf name fields).getD default)
  | value => .error { text := s!"'{typeName value}' object has no attribute 'get'" }

/-- `for block in value` -/
def loopItems (value : Json) : Except SdkException (List Json) :=
  match iterItems value with
  | some items => .ok items
  | none => .error { text := s!"'{typeName value}' object is not iterable" }

/-- `block.get("text", "")` of every block. -/
def blockTexts : List Json → Except SdkException (List Json)
  | [] => .ok []
  | block :: blocks => do
      let text ← getOr "text" (.str "") block
      let texts ← blockTexts blocks
      pure (text :: texts)

/-- `"".join` of the texts, from the item with this index on. -/
def joinTexts (index : ℕ) : List Json → Except SdkException String
  | [] => .ok ""
  | .str text :: texts => do
      let rest ← joinTexts (index + 1) texts
      pure (text ++ rest)
  | value :: _ =>
      .error { text := s!"sequence item {index}: expected str instance, {typeName value} found" }

/-- What is read of a response. The token counts and the stop reason are passed on as they
are found. -/
structure SdkReading where
  text : String
  inputTokens : Json
  outputTokens : Json
  stopReason : Json

/-- The reading of a response in `converse`. -/
def readResponse (response : Json) : Except SdkException SdkReading := do
  let output ← subscript "output" response
  let outputMessage ← subscript "message" output
  let content ← getOr "content" (.arr []) outputMessage
  let blocks ← loopItems content
  let texts ← blockTexts blocks
  let text ← joinTexts 0 texts
  let usage ← getOr "usage" (.obj []) response
  let inputTokens ← getOr "inputTokens" (.int 0) usage
  let outputTokens ← getOr "outputTokens" (.int 0) usage
  let stopReason ← getOr "stopReason" .null response
  pure ⟨text, inputTokens, outputTokens, stopReason⟩

/-! ## The loop -/

/-- `ConverseResult`, with the token counts and the stop reason as they were found. -/
structure SdkResult where
  reading : SdkReading
  latencyMs : PyFloat
  retryCount : ℕ

/-- The questions of the loop. -/
inductive SdkQuery
  | /-- The SDK's `converse`. -/
    call (modelId : String) (conversation : Conversation)
  | /-- `round((time.perf_counter() - start) * 1000, 2)` -/
    latencyMs
  | /-- `random.uniform` -/
    uniform (low high : ℚ)
  | /-- `time.sleep` -/
    sleep (seconds : ℚ)

/-- The answers to a question. -/
@[reducible]
def SdkAnswer : SdkQuery → Type
  | .call _ _ => SdkOutcome
  | .latencyMs => PyFloat
  | .uniform _ _ => ℚ
  | .sleep _ => Unit

/-- A piece of the loop. -/
abbrev Sdk (α : Type) := Fallible SdkQuery SdkAnswer Exn α

namespace BedrockClient

/-- The body of the `try`. -/
def tryConverse (modelId : String) (conversation : Conversation) :
    Sdk (Except SdkException (SdkReading × PyFloat)) := do
  let called ← Fallible.ask (SdkQuery.call modelId conversation)
  match called with
  | .error exc => pure (.error exc)
  | .ok response =>
      let latencyMs ← Fallible.ask SdkQuery.latencyMs
      match readResponse response with
      | .error exc => pure (.error exc)
      | .ok reading => pure (.ok (reading, latencyMs))

/-- The `while True` of `converse`, for as many rounds as the fuel lasts; none when it has
run out. -/
def converseLoop (client : BedrockClient) (modelId : String) (conversation : Conversation) :
    (fuel attempt : ℕ) → Sdk (Option SdkResult)
  | 0, _ => pure none
  | fuel + 1, attempt => do
      let tried ← tryConverse modelId conversation
      match tried with
      | .ok (reading, latencyMs) => pure (some ⟨reading, latencyMs, attempt⟩)
      | .error exc =>
          match extractErrorCode exc with
          | .error exn => throw exn
          | .ok errorCode =>
              let retryable := errorCode.any (· ∈ retryableErrorCodes)
              let attempt := attempt + 1
              if retryable = false ∨ client.maxRetries < attempt then
                throw (.bedrockInvocation
                  s!"Bedrock invocation failed after {attempt} attempt(s): {exc.text}"
                  ((errorCode.filter (· ≠ "")).getD "UPSTREAM_ERROR") retryable)
              else
                let sleepS := client.baseBackoffS * 2 ^ (attempt - 1)
                let drawn ← Fallible.ask (SdkQuery.uniform 0 sleepS)
                let _ ← Fallible.ask (SdkQuery.sleep drawn)
                client.converseLoop modelId conversation fuel attempt

end BedrockClient

/-! ## What the loop does -/

/-- The sleeps of a trace. -/
def sleepsOf (trace : List (Event SdkAnswer)) : List ℚ :=
  trace.filterMap fun
    | ⟨.sleep seconds, _⟩ => some seconds
    | _ => none

theorem sleepsOf_append (first second : List (Event SdkAnswer)) :
    sleepsOf (first ++ second) = sleepsOf first ++ sleepsOf second := List.filterMap_append

/-- How the questions are answered after a number of calls: the next call has the next
outcome, and a uniform variate lies between its bounds if these are in order. -/
def UpstreamServes (outcomes : ℕ → SdkOutcome) (calls : ℕ) :
    (q : SdkQuery) → SdkAnswer q → ℕ → Prop
  | .call _ _, outcome, calls' => outcome = outcomes (calls + 1) ∧ calls' = calls + 1
  | .latencyMs, _, calls' => calls' = calls
  | .uniform low high, drawn, calls' =>
      (low ≤ high → low ≤ drawn ∧ drawn ≤ high) ∧ calls' = calls
  | .sleep _, _, calls' => calls' = calls

/-- A call and the reading of its response, together. -/
def readOutcome (outcome : SdkOutcome) : Except SdkException SdkReading :=
  outcome.bind readResponse

/-- The code an exception carries, or the default. -/
def SdkException.codeOrDefault (exc : SdkException) : String :=
  match extractErrorCode exc with
  | .ok errorCode => (errorCode.filter (· ≠ "")).getD "UPSTREAM_ERROR"
  | .error _ => "UPSTREAM_ERROR"

/-- Whether an exception is worth another attempt. -/
def SdkException.retryable (exc : SdkException) : Bool :=
  match extractErrorCode exc with
  | .ok errorCode => errorCode.any (· ∈ retryableErrorCodes)
  | .error _ => false

/-- An outcome that settles the matter: a well-formed response, or a failure that is not
worth another attempt. -/
def Settles (outcome : SdkOutcome) : Prop :=
  ∀ exc, readOutcome outcome = .error exc → exc.retryable = false

/-- What the last of a number of calls is turned into. -/
def Concludes (last : SdkOutcome) (calls : ℕ) (outcome : Except Exn (Option SdkResult)) : Prop :=
  match readOutcome last with
  | .ok reading => ∃ latencyMs, outcome = .ok (some ⟨reading, latencyMs, calls - 1⟩)
  | .error exc =>
      ∃ message, outcome = .error (.bedrockInvocation message exc.codeOrDefault exc.retryable)

/-- An outcome's error dictionary, if it has one, has botocore's shape. -/
def WellFormedError (outcome : SdkOutcome) : Prop :=
  ∀ exc, outcome = .error exc → ∃ errorCode, extractErrorCode exc = .ok errorCode

/-- What the interpreter raises has no error dictionary. -/
def Plain {α : Type} (x : Except SdkException α) : Prop :=
  ∀ exc, x = .error exc → exc.response = none

theorem Plain.ok {α : Type} (value : α) : Plain (.ok value : Except SdkException α) := by
  intro exc h
  cases h

theorem Plain.error {α : Type} (text : String) :
    Plain (.error { text := text } : Except SdkException α) := by
  intro exc h
  cases h
  rfl

theorem Plain.bind {α β : Type} {x : Except SdkException α} {f : α → Except SdkException β}
    (hx : Plain x) (hf : ∀ value, Plain (f value)) : Plain (x >>= f) := by
  cases x with
  | error raised =>
      intro exc h
      cases h
      exact hx raised rfl
  | ok value => exact hf value

theorem subscript_plain (name : String) (value : Json) : Plain (subscript name value) := by
  cases value with
  | obj fields =>
      dsimp only [subscript]
      split
      · exact .ok _
      · exact .error _
  | _ => exact .error _

theorem getOr_plain (name : String) (default value : Json) : Plain (getOr name default value) := by
  unfold getOr
  split
  · exact .ok _
  · exact .error _

theorem loopItems_plain (value : Json) : Plain (loopItems value) := by
  unfold loopItems
  split
  · exact .ok _
  · exact .error _

theorem blockTexts_plain (blocks : List Json) : Plain (blockTexts blocks) := by
  induction blocks with
  | nil => exact .ok _
  | cons block blocks ih => exact (getOr_plain _ _ _).bind fun _ => ih.bind fun _ => .ok _

theorem joinTexts_plain (index : ℕ) (texts : List Json) : Plain (joinTexts index texts) := by
  induction texts generalizing index with
  | nil => exact .ok _
  | cons text texts ih =>
      cases text with
      | str text => exact (ih _).bind fun _ => .ok _
      | _ => exact .error _

/-- An exception of the reading has no error dictionary, so it carries no code. -/
theorem readResponse_plain (response : Json) : Plain (readResponse response) := by
  unfold readResponse
  apply (subscript_plain _ _).bind
  intro output
  apply (subscript_plain _ _).bind
  intro outputMessage
  apply (getOr_plain _ _ _).bind
  intro content
  apply (loopItems_plain _).bind
  intro blocks
  apply (blockTexts_plain _).bind
  intro texts
  apply (joinTexts_plain _ _).bind
  intro text
  apply (getOr_plain _ _ _).bind
  intro usage
  apply (getOr_plain _ _ _).bind
  intro inputTokens
  apply (getOr_plain _ _ _).bind
  intro outputTokens
  apply (getOr_plain _ _ _).bind
  intro stopReason
  exact .ok _

theorem extractErrorCode_of_readOutcome {outcome : SdkOutcome} (hformed : WellFormedError outcome)
    {exc : SdkException} (h : readOutcome outcome = .error exc) :
    ∃ errorCode, extractErrorCode exc = .ok errorCode := by
  cases outcome with
  | error raised =>
      cases h
      exact hformed exc rfl
  | ok response =>
      have hnone := readResponse_plain response exc h
      exact ⟨none, by rw [extractErrorCode, hnone]⟩

section Loop

variable {client : BedrockClient} {modelId : String} {conversation : Conversation}
variable {outcomes : ℕ → SdkOutcome} {trace : List (Event SdkAnswer)} {calls calls' : ℕ}

/-- One round calls once. -/
theorem tryConverse_cases {tried : Except Exn (Except SdkException (SdkReading × PyFloat))}
    (h : Fallible.Ran (UpstreamServes outcomes)
      (BedrockClient.tryConverse modelId conversation) calls trace tried calls') :
    calls' = calls + 1 ∧ sleepsOf trace = [] ∧
      ((∃ reading latencyMs, readOutcome (outcomes (calls + 1)) = .ok reading ∧
          tried = .ok (.ok (reading, latencyMs))) ∨
        ∃ exc, readOutcome (outcomes (calls + 1)) = .error exc ∧ tried = .ok (.error exc)) := by
  obtain ⟨called, next, tail, rfl, ⟨rfl, rfl⟩, hrest⟩ := Fallible.ran_ask_bind_iff.mp h
  cases houtcome : outcomes (calls + 1) with
  | error exc =>
      rw [houtcome] at hrest
      obtain ⟨rfl, rfl, rfl⟩ := Fallible.ran_pure_iff.mp hrest
      exact ⟨rfl, rfl, .inr ⟨exc, rfl, rfl⟩⟩
  | ok response =>
      rw [houtcome] at hrest
      obtain ⟨latencyMs, next, tail, rfl, rfl, hrest⟩ := Fallible.ran_ask_bind_iff.mp hrest
      cases hread : readResponse response with
      | error exc =>
          simp only [hread] at hrest
          obtain ⟨rfl, rfl, rfl⟩ := Fallible.ran_pure_iff.mp hrest
          exact ⟨rfl, rfl, .inr ⟨exc, hread, rfl⟩⟩
      | ok reading =>
          simp only [hread] at hrest
          obtain ⟨rfl, rfl, rfl⟩ := Fallible.ran_pure_iff.mp hrest
          exact ⟨rfl, rfl, .inl ⟨reading, latencyMs, hread, rfl⟩⟩

/-- The sleeps between the calls from one on to another. -/
structure Backoffs (client : BedrockClient) (attempt calls : ℕ) (sleeps : List ℚ) : Prop where
  length_eq : sleeps.length = calls - 1 - attempt
  bounded : ∀ k seconds, sleeps[k]? = some seconds →
    0 ≤ seconds ∧ seconds ≤ client.baseBackoffS * 2 ^ (attempt + k)
  sum_le : sleeps.sum ≤ client.baseBackoffS * (2 ^ (calls - 1) - 2 ^ attempt)

theorem Backoffs.nil (client : BedrockClient) (attempt : ℕ) :
    Backoffs client attempt (attempt + 1) [] where
  length_eq := by simp
  bounded := by simp
  sum_le := by simp

theorem Backoffs.cons {attempt : ℕ} {seconds : ℚ} {sleeps : List ℚ}
    (hseconds : 0 ≤ seconds ∧ seconds ≤ client.baseBackoffS * 2 ^ attempt)
    (hlater : attempt + 1 < calls) (hsleeps : Backoffs client (attempt + 1) calls sleeps) :
    Backoffs client attempt calls (seconds :: sleeps) where
  length_eq := by
    rw [List.length_cons, hsleeps.length_eq]
    omega
  bounded k drawn hdrawn := by
    cases k with
    | zero =>
        rw [List.getElem?_cons_zero, Option.some.injEq] at hdrawn
        exact hdrawn ▸ hseconds
    | succ k =>
        have hshift : attempt + (k + 1) = attempt + 1 + k := by omega
        rw [hshift]
        exact hsleeps.bounded k drawn (by simpa using hdrawn)
  sum_le := by
    have hsum := hsleeps.sum_le
    rw [List.sum_cons]
    calc seconds + sleeps.sum
        ≤ client.baseBackoffS * 2 ^ attempt +
          client.baseBackoffS * (2 ^ (calls - 1) - 2 ^ (attempt + 1)) :=
        add_le_add hseconds.2 hsum
      _ = client.baseBackoffS * (2 ^ (calls - 1) - 2 ^ attempt) := by ring

/-- **The loop from some attempt on**, with fuel for all that are left: it goes on past
the outcomes that do not settle the matter, up to the last attempt. -/
theorem converseLoop_ran (hbackoff : 0 ≤ client.baseBackoffS)
    (hformed : ∀ i, WellFormedError (outcomes i)) {fuel attempt : ℕ}
    (hfuel : client.maxRetries < attempt + fuel) (hattempt : attempt ≤ client.maxRetries)
    {outcome : Except Exn (Option SdkResult)}
    (h : Fallible.Ran (UpstreamServes outcomes)
      (client.converseLoop modelId conversation fuel attempt) attempt trace outcome calls) :
    (attempt < calls ∧ calls ≤ client.maxRetries + 1) ∧
      (∀ i, attempt < i → i < calls → ¬ Settles (outcomes i)) ∧
      (Settles (outcomes calls) ∨ calls = client.maxRetries + 1) ∧
      Concludes (outcomes calls) calls outcome ∧
      Backoffs client attempt calls (sleepsOf trace) := by
  induction fuel generalizing attempt trace with
  | zero => omega
  | succ fuel ih =>
      rcases Fallible.ran_bind_iff.mp h with
        ⟨exn, hraised, _⟩ | ⟨first, second, tried, middle, rfl, htried, hrest⟩
      · obtain ⟨_, _, ⟨_, _, _, heq⟩ | ⟨_, _, heq⟩⟩ := tryConverse_cases hraised
        · cases heq
        · cases heq
      obtain ⟨rfl, hquiet, hread⟩ := tryConverse_cases htried
      rcases hread with ⟨reading, latencyMs, hread, heq⟩ | ⟨exc, hread, heq⟩
      · -- a well-formed response
        cases heq
        obtain ⟨rfl, rfl, rfl⟩ := Fallible.ran_pure_iff.mp hrest
        refine ⟨⟨by omega, by omega⟩, fun i _ _ => by omega, .inl ?_, ?_, ?_⟩
        · intro exc hexc
          rw [hread] at hexc
          cases hexc
        · rw [Concludes, hread]
          exact ⟨latencyMs, rfl⟩
        · rw [List.append_nil, hquiet]
          exact .nil client attempt
      · cases heq
        obtain ⟨errorCode, hcode⟩ := extractErrorCode_of_readOutcome (hformed _) hread
        have hretryable : exc.retryable = errorCode.any (· ∈ retryableErrorCodes) := by
          rw [SdkException.retryable, hcode]
        have hdefault : exc.codeOrDefault =
            (errorCode.filter (· ≠ "")).getD "UPSTREAM_ERROR" := by
          rw [SdkException.codeOrDefault, hcode]
        simp only [hcode, ← hretryable, ← hdefault] at hrest
        split at hrest
        case isTrue hlast =>
          -- the last attempt, or a failure not worth another one
          obtain ⟨rfl, rfl, rfl⟩ := Fallible.ran_throw_iff.mp hrest
          refine ⟨⟨by omega, by omega⟩, fun i _ _ => by omega, ?_, ?_, ?_⟩
          · rcases hlast with hfinal | hspent
            · refine .inl fun other hother => ?_
              rw [hread] at hother
              cases hother
              exact hfinal
            · exact .inr (by omega)
          · rw [Concludes, hread]
            exact ⟨_, rfl⟩
          · rw [List.append_nil, hquiet]
            exact .nil client attempt
        case isFalse hagain =>
          obtain ⟨hworth, hleft⟩ := not_or.mp hagain
          obtain ⟨drawn, _, tail, rfl, ⟨hdrawn, rfl⟩, hrest⟩ := Fallible.ran_ask_bind_iff.mp hrest
          obtain ⟨_, _, tail, rfl, rfl, hrest⟩ := Fallible.ran_ask_bind_iff.mp hrest
          obtain ⟨⟨hlt, hle⟩, hbefore, hsettles, hconcludes, hsleeps⟩ :=
            ih (by omega) (by omega) hrest
          refine ⟨⟨by omega, hle⟩, ?_, hsettles, hconcludes, ?_⟩
          · intro i hi hcalls
            rcases Nat.eq_or_lt_of_le (Nat.succ_le_of_lt hi) with rfl | hi
            · exact fun hsettled => hworth (hsettled exc hread)
            · exact hbefore i hi hcalls
          · have hall : sleepsOf (first ++
                ⟨.uniform 0 (client.baseBackoffS * 2 ^ (attempt + 1 - 1)), drawn⟩ ::
                ⟨.sleep drawn, ()⟩ :: tail) = drawn :: sleepsOf tail := by
              rw [sleepsOf_append, hquiet]
              rfl
            rw [hall]
            have hsleep : 0 ≤ client.baseBackoffS * 2 ^ attempt := by positivity
            exact .cons (hdrawn hsleep) hlt hsleeps

end Loop

/-- A float. -/
def oneFloat : PyFloat := ⟨['1', '.', '0'], by simp, by simp [isNumeric]⟩

/-- A throttled call, then a response. -/
def throttledOnce (n : ℕ) : SdkOutcome :=
  if n = 1 then .error {
    text := "slow down"
    response := some (.obj [("Error", .obj [("Code", .str "ThrottlingException")])]) }
  else .ok (.obj [("output", .obj [("message", .obj [("content",
    .arr [.obj [("text", .str "hello")], .obj [("image", .null)]])])])])

/-- Answer with the outcomes in turn, and draw the lower bound of every sleep. -/
def serveUpstream (outcomes : ℕ → SdkOutcome) (calls : ℕ) : (q : SdkQuery) → SdkAnswer q × ℕ
  | .call _ _ => (outcomes (calls + 1), calls + 1)
  | .latencyMs => (oneFloat, calls)
  | .uniform low _ => (low, calls)
  | .sleep _ => ((), calls)

theorem serveUpstream_serves (outcomes : ℕ → SdkOutcome) (calls : ℕ) (q : SdkQuery) :
    UpstreamServes outcomes calls q (serveUpstream outcomes calls q).1
      (serveUpstream outcomes calls q).2 := by
  cases q with
  | call modelId conversation => exact ⟨rfl, rfl⟩
  | latencyMs => exact rfl
  | uniform low high => exact ⟨fun hle => ⟨le_rfl, hle⟩, rfl⟩
  | sleep seconds => exact rfl

/-- A reading whose token counts are integers and whose stop reason is a string, as a
response. -/
structure Reads (reading : SdkReading) (response : UpstreamResponse) : Prop where
  text : String.join (response.content.map (·.getD "")) = reading.text
  inputTokens : reading.inputTokens = .int (response.inputTokens.getD 0)
  outputTokens : reading.outputTokens = .int (response.outputTokens.getD 0)
  stopReason : reading.stopReason = (response.stopReason.map Json.str).getD .null

/-- A result of the gateway's model stands for a result of the loop. -/
def Delivers (found : SdkResult) (result : ConverseResult) : Prop :=
  result.text = found.reading.text ∧ found.reading.inputTokens = .int result.inputTokens ∧
    found.reading.outputTokens = .int result.outputTokens ∧
    found.reading.stopReason = (result.stopReason.map Json.str).getD .null ∧
    result.latencyMs = found.latencyMs ∧ result.retryCount = found.retryCount

/-- An outcome of the gateway's model stands for an outcome of the loop. -/
def Conveys (outcome : Except Exn (Option SdkResult)) (outcome' : Except Exn ConverseResult) :
    Prop :=
  match outcome with
  | .error exn => outcome' = .error exn
  | .ok none => False
  | .ok (some found) => ∃ result, outcome' = .ok result ∧ Delivers found result

/-- **The client of the gateway's model follows the loop**: where the readings are typed,
what the loop does with the SDK's outcomes the client does with what they come to. -/
theorem converseLoop_follows {client : BedrockClient} {modelId : String}
    {conversation : Conversation} {outcomes : ℕ → SdkOutcome}
    (hformed : ∀ i, WellFormedError (outcomes i))
    (hreads : ∀ i reading, readOutcome (outcomes i) = .ok reading →
      ∃ response, Reads reading response) {fuel retries attempt calls : ℕ}
    (hfuel : retries < fuel) (hretries : attempt + retries = client.maxRetries)
    {trace : List (Event SdkAnswer)} {outcome : Except Exn (Option SdkResult)}
    (h : Fallible.Ran (UpstreamServes outcomes)
      (client.converseLoop modelId conversation fuel attempt) attempt trace outcome calls) :
    ∃ trace' outcome', Conveys outcome outcome' ∧
      Program.Exec (client.invokeLoop modelId conversation retries attempt).run
        trace' outcome' := by
  induction fuel generalizing attempt retries trace with
  | zero => omega
  | succ fuel ih =>
      rcases Fallible.ran_bind_iff.mp h with
        ⟨exn, hraised, _⟩ | ⟨first, second, tried, middle, rfl, htried, hrest⟩
      · obtain ⟨_, _, ⟨_, _, _, heq⟩ | ⟨_, _, heq⟩⟩ := tryConverse_cases hraised
        · cases heq
        · cases heq
      obtain ⟨rfl, _, ⟨reading, latencyMs, hread, heq⟩ | ⟨exc, hread, heq⟩⟩ :=
        tryConverse_cases htried
      · cases heq
        obtain ⟨rfl, rfl, rfl⟩ := Fallible.ran_pure_iff.mp hrest
        obtain ⟨response, hresponse⟩ := hreads _ _ hread
        rw [BedrockClient.invokeLoop]
        refine ⟨_, _, ?_, Program.exec_ask_iff.mpr ⟨.ok response, _, rfl,
          Program.exec_ask_iff.mpr ⟨latencyMs, [], rfl, .refl _⟩⟩⟩
        exact ⟨_, rfl, hresponse.text, hresponse.inputTokens, hresponse.outputTokens,
          hresponse.stopReason, rfl, rfl⟩
      · cases heq
        obtain ⟨errorCode, hcode⟩ := extractErrorCode_of_readOutcome (hformed _) hread
        simp only [hcode] at hrest
        rw [BedrockClient.invokeLoop]
        split at hrest
        case isTrue hlast =>
          obtain ⟨rfl, rfl, rfl⟩ := Fallible.ran_throw_iff.mp hrest
          refine ⟨_, _, rfl, Program.exec_ask_iff.mpr ⟨.error ⟨errorCode, exc.text⟩, [], rfl, ?_⟩⟩
          cases retries with
          | zero => exact .refl _
          | succ retries =>
              have hunworthy : errorCode.any (· ∈ retryableErrorCodes) = false := by
                rcases hlast with hfinal | hspent
                · exact hfinal
                · omega
              show Program.Exec (ite (UpstreamError.retryable ⟨errorCode, exc.text⟩ = true) _ _ :
                ClientPy ConverseResult).run [] _
              rw [if_neg (by simp [UpstreamError.retryable, hunworthy])]
              exact .refl _
        case isFalse hagain =>
          obtain ⟨hworth, hleft⟩ := not_or.mp hagain
          obtain ⟨drawn, _, tail, rfl, ⟨_, rfl⟩, hrest⟩ := Fallible.ran_ask_bind_iff.mp hrest
          obtain ⟨_, _, tail, rfl, rfl, hrest⟩ := Fallible.ran_ask_bind_iff.mp hrest
          cases retries with
          | zero => omega
          | succ retries =>
              have hremaining : attempt + 1 + retries = client.maxRetries := by omega
              obtain ⟨trace', outcome', hconveys, hexec⟩ := ih (by omega) hremaining hrest
              refine ⟨_, outcome', hconveys, Program.exec_ask_iff.mpr
                ⟨.error ⟨errorCode, exc.text⟩,
                  ⟨.sleep (client.baseBackoffS * 2 ^ attempt), ()⟩ :: trace', rfl, ?_⟩⟩
              have hworthy : errorCode.any (· ∈ retryableErrorCodes) = true :=
                Bool.of_not_eq_false hworth
              show Program.Exec (ite (UpstreamError.retryable ⟨errorCode, exc.text⟩ = true) _ _ :
                ClientPy ConverseResult).run _ _
              rw [if_pos (by simpa [UpstreamError.retryable] using hworthy)]
              exact Program.exec_ask_iff.mpr ⟨(), trace', rfl, hexec⟩

end BedrockGateway
