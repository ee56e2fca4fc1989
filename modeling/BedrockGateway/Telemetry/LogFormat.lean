/-
# Structured log lines

Every record becomes one line of JSON on the standard output, its fields in a fixed
order. The formatter finds them among the attributes of the platform's own log
record, and the handler that prints them is put in place at startup, replacing the
one of an earlier startup. A startup sets the level of the root logger and of the
service's own, and a logger without a level takes that of its nearest ancestor.

The records of a run are read back from the lines, one from each that is at the level
of its logger or above, whatever the texts in them.
-/

import BedrockGateway.Foundation.Framing
import BedrockGateway.Foundation.JsonReader
import BedrockGateway.Telemetry.Records
import Mathlib.Data.List.Induction

namespace BedrockGateway

open Foundation

/-- What the platform's clock, numbers, exceptions and upper case look like in print. -/
structure LogFormat where
  /-- `time.strftime("%Y-%m-%dT%H:%M:%S", time.gmtime(seconds))` -/
  secondsText : ℤ → String
  /-- `repr` of a float. -/
  floatRepr : ℚ → NumLiteral
  /-- `formatException` of the exception handled when a record is logged. -/
  traceback : ℚ → LogRecord → String
  /-- `s.upper()` -/
  upper : String → String

/-- Every float is printed as a JSON number. -/
def LogFormat.Numeric (fmt : LogFormat) : Prop :=
  ∀ x, Json.isNumber (fmt.floatRepr x).text = true

/-! ## Log records of the platform -/

/-- `_RESERVED_LOGRECORD_KEYS` -/
def reservedLogRecordKeys : List String := [
  "name", "msg", "args", "levelname", "levelno", "pathname", "filename",
  "module", "exc_info", "exc_text", "stack_info", "lineno", "funcName",
  "created", "msecs", "relativeCreated", "thread", "threadName",
  "processName", "process", "message", "taskName"]

/-- The keys `Logger.makeRecord` refuses in `extra`: the attributes a record has already,
and two that a formatter may set. -/
def refusedExtraKeys : List String := "asctime" :: reservedLogRecordKeys

/-- `extra={"request_id": request_id, "error": error, **fields}` of `log_event`. -/
def LogRecord.extra (record : LogRecord) : Fields :=
  ("request_id", .ofOption record.requestId) :: ("error", .ofOption record.error) :: record.fields

/-- The attributes `Logger.makeRecord` takes from `extra`; overwriting one is a `KeyError`. -/
def makeRecord (text : PyText) (extra : Fields) : Except Exn Fields :=
  match extra.find? fun pair => pair.1 ∈ refusedExtraKeys with
  | some pair => .error (.other s!"Attempt to overwrite {text.reprStr pair.1} in LogRecord")
  | none => .ok extra

/-! ## `JsonFormatter` -/

/-- `json.dumps(value, default=str)` of a field. -/
def LogFormat.json (fmt : LogFormat) : FieldValue → Json
  | .none => .null
  | .str text => .str text
  | .int value => .int value
  | .num value => .num (fmt.floatRepr value)
  | .bool value => .bool value

/-- `f"{n:03d}"` -/
def padThree (n : ℕ) : String :=
  let digits := Nat.toDigits 10 n
  String.ofList (List.replicate (3 - digits.length) '0' ++ digits)

/-- `_iso_ts` -/
def isoTs (fmt : LogFormat) (epochSeconds : ℚ) : String :=
  let millis := ⌊(epochSeconds - ⌊epochSeconds⌋) * 1000⌋.toNat
  s!"{fmt.secondsText ⌊epochSeconds⌋}.{padThree millis}Z"

/-- `levelname`, by the method `getattr(logger, level.lower(), logger.info)`. -/
inductive Severity
  | debug
  | info
  | warning
  | error
  | critical

/-- `levelname` -/
def Severity.name : Severity → String
  | .debug => "DEBUG"
  | .info => "INFO"
  | .warning => "WARNING"
  | .error => "ERROR"
  | .critical => "CRITICAL"

/-- `levelno` -/
def Severity.number : Severity → ℕ
  | .debug => 10
  | .info => 20
  | .warning => 30
  | .error => 40
  | .critical => 50

/-- The method that logs a record, named in lower case. -/
def LogRecord.method (record : LogRecord) : String :=
  String.ofList (record.level.toList.map Char.toLower)

/-- The level at which the method logs, if the logger has it or else by `logger.info`. -/
def Severity.ofMethod (method : String) : Severity :=
  if method = "debug" then .debug
  else if method = "warning" ∨ method = "warn" then .warning
  else if method = "error" ∨ method = "exception" then .error
  else if method = "critical" ∨ method = "fatal" then .critical
  else .info

/-- The level at which a record is logged. -/
def LogRecord.severity (record : LogRecord) : Severity := .ofMethod record.method

/-- The attributes `JsonFormatter.format` prints as they are. -/
def extraFields (attributes : Fields) : Fields :=
  attributes.filter fun pair =>
    pair.1 ∉ reservedLogRecordKeys ∧ pair.1.toList.head? ≠ some '_' ∧
      pair.1 ≠ "request_id" ∧ pair.1 ≠ "error"

/-- `JsonFormatter.format`, up to the final `json.dumps`. Only `logger.exception` gives a
record `exc_info`. -/
def formatRecord (fmt : LogFormat) (created : ℚ) (record : LogRecord) (attributes : Fields) :
    Json :=
  let find (key : String) : FieldValue :=
    ((attributes.find? fun pair => pair.1 = key).map Prod.snd).getD .none
  let error := find "error"
  .obj (Dict.ofList ([
      ("ts", .str (isoTs fmt created)), ("level", .str record.severity.name),
      ("logger", .str record.logger), ("request_id", fmt.json (find "request_id"))] ++
    (extraFields attributes).map (fun pair => (pair.1, fmt.json pair.2)) ++
    [("message", .str record.message)] ++
    if error ≠ .none then [("error", fmt.json error)]
    else if record.method = "exception" then [("error", .str (fmt.traceback created record))]
    else [])).entries

/-! ## Handlers -/

/-- A handler of the root logger. -/
inductive LogHandler
  | /-- `_GatewayStreamHandler` -/
    gateway
  | other (name : String)
  deriving DecidableEq

/-- What a handler writes of a formatted record to the standard output; where the other
handlers write is their own affair. -/
def LogHandler.print (line : List Char) : LogHandler → List Char
  | .gateway => line ++ ['\n']
  | .other _ => []

/-- What `configure_logging` sets up; a logger without a level is not in the table, or with
level 0. -/
structure LogConfig where
  rootLevel : ℕ
  levels : Dict String ℕ
  handlers : List LogHandler

/-- `_nameToLevel` of the platform. -/
def nameToLevel : List (String × ℕ) := [
  ("CRITICAL", 50), ("FATAL", 50), ("ERROR", 40), ("WARN", 30), ("WARNING", 30), ("INFO", 20),
  ("DEBUG", 10), ("NOTSET", 0)]

/-- The arguments of `configure_logging`. -/
structure Startup where
  serviceName : String
  level : String

/-- The number of the level a startup asks for. -/
def Startup.number (fmt : LogFormat) (startup : Startup) : Option ℕ :=
  nameToLevel.lookup (fmt.upper startup.level)

/-- The names of the root logger. -/
def rootNames : List String := ["", "root"]

/-- `logging.getLogger(name).setLevel(level)` -/
def LogConfig.setLevel (config : LogConfig) (name : String) (level : ℕ) : LogConfig :=
  if name ∈ rootNames then { config with rootLevel := level }
  else { config with levels := config.levels.set name level }

/-- `configure_logging` -/
def configureLogging (fmt : LogFormat) (text : PyText) (config : LogConfig) (startup : Startup) :
    Except Exn LogConfig :=
  match startup.number fmt with
  | none => .error (.valueError s!"Unknown level: {text.reprStr (fmt.upper startup.level)}")
  | some level =>
      let root := config.setLevel "" level
      let handlers : List LogHandler := root.handlers.filter (· ≠ .gateway) ++ [.gateway]
      .ok ({ root with handlers := handlers }.setLevel startup.serviceName level)

/-- A logger and its ancestors, the nearest first and without the root, for a name without
empty parts. -/
def lineage (name : String) : List String :=
  ((name.toList.splitOn '.').inits.reverse.map fun parts =>
    String.ofList (['.'].intercalate parts)).filter (· ∉ rootNames)

example : lineage "gateway.chat.stream" = ["gateway.chat.stream", "gateway.chat", "gateway"] := by
  decide +kernel

namespace LogConfig

/-- The level set on a logger itself. -/
def levelOf (config : LogConfig) (name : String) : Option ℕ :=
  (config.levels.get? name).filter (· ≠ 0)

/-- `Logger.getEffectiveLevel` -/
def effectiveLevel (config : LogConfig) (name : String) : ℕ :=
  ((lineage name).findSome? config.levelOf).getD config.rootLevel

/-- The logger of a record handles its level. -/
def enabled (config : LogConfig) (record : LogRecord) : Bool :=
  config.effectiveLevel record.logger ≤ record.severity.number

/-- What the handlers write of a formatted record to the standard output. -/
def printed (config : LogConfig) (line : List Char) : List Char :=
  config.handlers.flatMap (LogHandler.print line)

/-- What a call of `log_event` writes. -/
def emit (config : LogConfig) (fmt : LogFormat) (text : PyText) (created : ℚ)
    (record : LogRecord) : Except Exn (List Char) :=
  if config.enabled record then
    match makeRecord text record.extra with
    | .ok attributes =>
        .ok (config.printed (Json.render .spaced (formatRecord fmt created record attributes)))
    | .error exn => .error exn
  else .ok []

/-- What calls of `log_event` write, one after the other. -/
def write (config : LogConfig) (fmt : LogFormat) (text : PyText) :
    List (ℚ × LogRecord) → Except Exn (List Char)
  | [] => .ok []
  | (created, record) :: rest =>
      match config.emit fmt text created record, config.write fmt text rest with
      | .ok line, .ok more => .ok (line ++ more)
      | .error exn, _ => .error exn
      | _, .error exn => .error exn

end LogConfig

/-! ## The documented format -/

/-- The names that `log_event` and the line have for themselves. -/
def lineKeys : List String := ["ts", "level", "logger", "request_id", "error"]

/-- Fields can be logged under these names: they are different, and none is one of the
line's own, one of a log record's own or private. -/
def loggableNames (names : List String) : Bool :=
  names.Nodup && names.all fun name =>
    name ∉ lineKeys && name ∉ refusedExtraKeys && name.toList.head? ≠ some '_'

/-- The record can be logged under the names of its fields. -/
def LogRecord.loggable (record : LogRecord) : Bool := loggableNames (record.fields.map Prod.fst)

/-- The error of a line, if there is one. -/
def LogRecord.errorText (fmt : LogFormat) (created : ℚ) (record : LogRecord) : Option String :=
  record.error.or
    (if record.method = "exception" then some (fmt.traceback created record) else none)

/-- The object of a line: `ts`, `level`, `logger`, `request_id`, the fields of the event,
`message`, and `error` if there is one. -/
def lineFields (fmt : LogFormat) (created : ℚ) (record : LogRecord) : List (String × Json) :=
  [("ts", .str (isoTs fmt created)), ("level", .str record.severity.name),
    ("logger", .str record.logger), ("request_id", fmt.json (.ofOption record.requestId))] ++
  record.fields.map (fun pair => (pair.1, fmt.json pair.2)) ++
  [("message", .str record.message)] ++
  (record.errorText fmt created).toList.map fun error => ("error", .str error)

section Loggable

variable {record : LogRecord}

theorem LogRecord.loggable_iff : record.loggable = true ↔
    (record.fields.map Prod.fst).Nodup ∧ ∀ pair ∈ record.fields,
      pair.1 ∉ lineKeys ∧ pair.1 ∉ refusedExtraKeys ∧ pair.1.toList.head? ≠ some '_' := by
  simp [loggable, loggableNames, and_assoc]

/-- The platform takes the fields as they are. -/
theorem makeRecord_extra (h : record.loggable = true) (text : PyText) :
    makeRecord text record.extra = .ok record.extra := by
  have hfind : record.extra.find? (fun pair => pair.1 ∈ refusedExtraKeys) = none := by
    rw [List.find?_eq_none]
    intro pair hpair
    rcases List.mem_cons.mp hpair with rfl | hpair
    · simp [refusedExtraKeys, reservedLogRecordKeys]
    rcases List.mem_cons.mp hpair with rfl | hpair
    · simp [refusedExtraKeys, reservedLogRecordKeys]
    · simpa using ((LogRecord.loggable_iff.mp h).2 pair hpair).2.1
  rw [makeRecord, hfind]

/-- The formatter finds the fields of the event again. -/
theorem extraFields_extra (h : record.loggable = true) :
    extraFields record.extra = record.fields := by
  have hkept : record.fields.filter (fun pair => pair.1 ∉ reservedLogRecordKeys ∧
      pair.1.toList.head? ≠ some '_' ∧ pair.1 ≠ "request_id" ∧ pair.1 ≠ "error") =
      record.fields := by
    rw [List.filter_eq_self]
    intro pair hpair
    obtain ⟨hline, hrefused, hprivate⟩ := (LogRecord.loggable_iff.mp h).2 pair hpair
    have hreserved : pair.1 ∉ reservedLogRecordKeys := fun hmem =>
      hrefused (List.mem_cons_of_mem _ hmem)
    have hid : pair.1 ≠ "request_id" := fun heq => hline (by simp [heq, lineKeys])
    have herror : pair.1 ≠ "error" := fun heq => hline (by simp [heq, lineKeys])
    simp [hreserved, hprivate, hid, herror]
  simp only [extraFields, LogRecord.extra]
  rw [List.filter_cons_of_neg (by simp), List.filter_cons_of_neg (by simp), hkept]

/-- No name is on a line twice. -/
theorem nodup_lineFields (h : record.loggable = true) (fmt : LogFormat) (created : ℚ) :
    ((lineFields fmt created record).map Prod.fst).Nodup := by
  obtain ⟨hnodup, hfields⟩ := LogRecord.loggable_iff.mp h
  have hkeys : ∀ key ∈ record.fields.map Prod.fst, key ∉ lineKeys ∧ key ≠ "message" := by
    intro key hkey
    obtain ⟨pair, hpair, rfl⟩ := List.mem_map.mp hkey
    obtain ⟨hline, hrefused, _⟩ := hfields pair hpair
    exact ⟨hline, fun heq => hrefused (by simp [heq, refusedExtraKeys, reservedLogRecordKeys])⟩
  have hfirst : (["ts", "level", "logger", "request_id"] : List String) ⊆ lineKeys := by decide
  have hlast : ((record.errorText fmt created).toList.map fun _ => "error") ⊆ lineKeys := by
    cases record.errorText fmt created <;> simp [lineKeys]
  have hsplit : (lineFields fmt created record).map Prod.fst =
      ["ts", "level", "logger", "request_id"] ++ (record.fields.map Prod.fst ++
        ("message" :: (record.errorText fmt created).toList.map fun _ => "error")) := by
    simp [lineFields, Function.comp_def]
  rw [hsplit, List.nodup_append, List.nodup_append]
  refine ⟨by decide, ⟨hnodup, ?_, ?_⟩, ?_⟩
  · cases record.errorText fmt created <;> simp
  · rintro key hkey other hother rfl
    rcases List.mem_cons.mp hother with heq | herror
    · exact (hkeys key hkey).2 heq
    · exact (hkeys key hkey).1 (hlast herror)
  · rintro key hkey other hother rfl
    rcases List.mem_append.mp hother with hfield | hend
    · exact (hkeys key hfield).1 (hfirst hkey)
    · have hnames : key = "message" ∨ key = "error" := by
        cases herror : record.errorText fmt created <;> simp_all
      rcases hnames with rfl | rfl <;> simp at hkey

/-- **The formatter prints the documented fields in the documented order.** -/
theorem formatRecord_extra (h : record.loggable = true) (fmt : LogFormat) (created : ℚ) :
    formatRecord fmt created record record.extra = .obj (lineFields fmt created record) := by
  have hnodup := nodup_lineFields h fmt created
  rw [formatRecord, extraFields_extra h]
  refine congrArg Json.obj ?_
  rw [← Dict.entries_ofList hnodup]
  cases herror : record.error with
  | some error =>
      simp [lineFields, LogRecord.extra, LogRecord.errorText, herror, FieldValue.ofOption,
        LogFormat.json]
  | none =>
      by_cases hmethod : record.method = "exception" <;>
        simp [lineFields, LogRecord.extra, LogRecord.errorText, herror, hmethod,
          FieldValue.ofOption]

/-- The document of a line can be read back. -/
theorem wellFormed_lineFields (h : record.loggable = true) {fmt : LogFormat} (hfmt : fmt.Numeric)
    (created : ℚ) : Json.wellFormed (.obj (lineFields fmt created record)) = true := by
  have hjson : ∀ value, Json.wellFormed (fmt.json value) = true := by
    intro value
    cases value with
    | int n => exact Json.isNumber_ofInt n
    | num x => exact hfmt x
    | _ => rfl
  rw [Json.wellFormed, Bool.and_eq_true, decide_eq_true_eq]
  refine ⟨nodup_lineFields h fmt created, ?_⟩
  rw [Json.wellFormedFields_iff]
  intro pair hpair
  simp only [lineFields, List.mem_append, List.mem_cons, List.mem_map, List.not_mem_nil,
    or_false] at hpair
  rcases hpair with (((rfl | rfl | rfl | rfl) | ⟨field, _, rfl⟩) | rfl) | ⟨error, _, rfl⟩
  all_goals first | exact hjson _ | rfl

end Loggable

/-! ## Several startups, several records -/

section Startups

variable {fmt : LogFormat} {text : PyText} {config configured : LogConfig}

theorem LogConfig.get?_levels_setLevel (config : LogConfig) (name : String) (level : ℕ)
    {other : String} (h : other ∉ rootNames) : (config.setLevel name level).levels.get? other =
      if other = name then some level else config.levels.get? other := by
  rw [LogConfig.setLevel]
  split
  next hroot =>
    have hne : other ≠ name := fun heq => h (heq ▸ hroot)
    rw [if_neg hne]
  next => exact Dict.get?_set ..

/-- What one startup does. -/
theorem configureLogging_eq_ok {startup : Startup}
    (h : configureLogging fmt text config startup = .ok configured) :
    startup.number fmt = some configured.rootLevel ∧
      configured.handlers = config.handlers.filter (· ≠ .gateway) ++ [.gateway] ∧
      ∀ name ∉ rootNames, configured.levels.get? name =
        if name = startup.serviceName then startup.number fmt else config.levels.get? name := by
  unfold configureLogging at h
  split at h
  next => cases h
  next level hnumber =>
    cases h
    refine ⟨?_, ?_, fun name hname => ?_⟩
    · rw [hnumber]
      unfold LogConfig.setLevel
      split <;> rfl
    · unfold LogConfig.setLevel
      split <;> rfl
    · rw [LogConfig.get?_levels_setLevel _ _ _ hname, hnumber]
      rfl

/-- The level that was last set on a logger, by a startup or before. -/
def levelAsked (fmt : LogFormat) (config : LogConfig) (startups : List Startup) (name : String) :
    Option ℕ :=
  match startups.reverse.find? fun startup => name = startup.serviceName with
  | some startup => startup.number fmt
  | none => config.levels.get? name

theorem foldlM_concat_eq_ok {ε α β : Type} {f : β → α → Except ε β} {xs : List α} {x : α}
    {start value : β} (h : (xs ++ [x]).foldlM f start = .ok value) :
    ∃ middle, xs.foldlM f start = .ok middle ∧ f middle x = .ok value := by
  rw [List.foldlM_append] at h
  cases hmiddle : xs.foldlM f start with
  | error exn =>
      rw [hmiddle] at h
      cases h
  | ok middle =>
      rw [hmiddle] at h
      have hlast : (f middle x >>= pure) = .ok value := h
      exact ⟨middle, rfl, by rwa [bind_pure] at hlast⟩

/-- The levels after several startups. -/
theorem get?_levels_configured {startups : List Startup}
    (h : startups.foldlM (configureLogging fmt text) config = .ok configured) {name : String}
    (hname : name ∉ rootNames) :
    configured.levels.get? name = levelAsked fmt config startups name := by
  induction startups using List.reverseRecOn generalizing configured with
  | nil =>
      cases h
      rfl
  | append_singleton startups last ih =>
      obtain ⟨middle, hmiddle, hlast⟩ := foldlM_concat_eq_ok h
      have hlevels := (configureLogging_eq_ok hlast).2.2 name hname
      rw [hlevels, levelAsked, List.reverse_append, List.reverse_singleton, List.singleton_append,
        List.find?_cons]
      by_cases heq : name = last.serviceName
      · simp [heq]
      · simpa [heq, levelAsked] using ih hmiddle

/-- The last startup, whatever came before. -/
theorem exists_last_startup {startups : List Startup} (hne : startups ≠ [])
    (h : startups.foldlM (configureLogging fmt text) config = .ok configured) :
    ∃ middle, configureLogging fmt text middle (startups.getLast hne) = .ok configured := by
  rw [← List.dropLast_append_getLast hne] at h
  obtain ⟨middle, _, hlast⟩ := foldlM_concat_eq_ok h
  exact ⟨middle, hlast⟩

/-- **The level of a logger after several startups**: the one last set on it or, if that is
none, on its nearest ancestor that has one, and else the level of the last startup. -/
theorem effectiveLevel_configured {startups : List Startup} (hne : startups ≠ [])
    (h : startups.foldlM (configureLogging fmt text) config = .ok configured) (name : String) :
    some (configured.effectiveLevel name) =
      ((lineage name).findSome? fun logger =>
        (levelAsked fmt config startups logger).filter (· ≠ 0)).or
          ((startups.getLast hne).number fmt) := by
  obtain ⟨middle, hlast⟩ := exists_last_startup hne h
  have hlevels : ∀ logger ∈ lineage name, configured.levelOf logger =
      (levelAsked fmt config startups logger).filter (· ≠ 0) := by
    intro logger hlogger
    have hroot : logger ∉ rootNames := by simpa using (List.mem_filter.mp hlogger).2
    rw [LogConfig.levelOf, get?_levels_configured h hroot]
  rw [LogConfig.effectiveLevel, (configureLogging_eq_ok hlast).1,
    ← List.head?_filterMap, List.filterMap_congr hlevels, List.head?_filterMap]
  cases (lineage name).findSome? _ <;> rfl

end Startups

/-- The line of a record, without its newline. -/
def logLine (fmt : LogFormat) (call : ℚ × LogRecord) : List Char :=
  Json.render .spaced (.obj (lineFields fmt call.1 call.2))

/-- There is nothing in a line at which a reader would break it. -/
theorem isBreak_logLine (breaks : LineBreaks) (fmt : LogFormat) (call : ℚ × LogRecord) :
    ∀ c ∈ logLine fmt call, breaks.isBreak c = false := by
  intro c hc
  have hprintable := Json.isPrintable_render Json.Layout.printable_spaced _ c hc
  simp only [Json.isPrintable, Bool.and_eq_true, decide_eq_true_eq] at hprintable
  exact breaks.printable c hprintable.1 hprintable.2

namespace LogConfig

variable {fmt : LogFormat} {text : PyText}

variable {config configured : LogConfig} {startup : Startup}

/-- The handler of this module prints every record once. -/
theorem printed_configured (h : configureLogging fmt text config startup = .ok configured)
    (line : List Char) : configured.printed line = line ++ ['\n'] := by
  have hothers : (config.handlers.filter (· ≠ .gateway)).flatMap (LogHandler.print line) = [] := by
    rw [List.flatMap_eq_nil_iff]
    intro handler hhandler
    cases handler with
    | gateway => simp at hhandler
    | other name => rfl
  rw [printed, (configureLogging_eq_ok h).2.1, List.flatMap_append, hothers,
    List.flatMap_singleton, List.nil_append, LogHandler.print]

theorem emit_configured (h : configureLogging fmt text config startup = .ok configured)
    {record : LogRecord} (hloggable : record.loggable = true) (created : ℚ) :
    configured.emit fmt text created record =
      .ok (if configured.enabled record then logLine fmt (created, record) ++ ['\n'] else []) := by
  unfold emit
  split
  · rw [makeRecord_extra hloggable]
    dsimp only
    rw [formatRecord_extra hloggable, printed_configured h, logLine]
  · rfl

theorem write_configured (h : configureLogging fmt text config startup = .ok configured)
    {calls : List (ℚ × LogRecord)} (hloggable : ∀ call ∈ calls, call.2.loggable = true) :
    configured.write fmt text calls =
      .ok (((calls.filter fun call => configured.enabled call.2).map
        (logLine fmt)).flatMap (· ++ ['\n'])) := by
  induction calls with
  | nil => rfl
  | cons call calls ih =>
      obtain ⟨hcall, hcalls⟩ := List.forall_mem_cons.mp hloggable
      rw [write, emit_configured h hcall, ih hcalls, List.filter_cons]
      dsimp only
      split <;> simp

/-- **The lines are the records.** -/
theorem read_write (h : configureLogging fmt text config startup = .ok configured)
    {calls : List (ℚ × LogRecord)} (hfmt : fmt.Numeric)
    (hloggable : ∀ call ∈ calls, call.2.loggable = true) (breaks : LineBreaks) :
    ∃ output, configured.write fmt text calls = .ok output ∧
      (breaks.splitlines output).map Json.loads =
        (calls.filter fun call => configured.enabled call.2).map fun call =>
          some (.obj (lineFields fmt call.1 call.2)) := by
  refine ⟨_, write_configured h hloggable, ?_⟩
  rw [LineBreaks.splitlines_terminated, List.map_map]
  · refine List.map_congr_left fun call hcall => ?_
    have hread := Json.loads_dumps Json.Layout.blank_spaced
      (wellFormed_lineFields (hloggable call (List.mem_of_mem_filter hcall)) hfmt call.1)
    rwa [Json.dumps, String.toList_ofList] at hread
  · intro line hline
    obtain ⟨call, _, rfl⟩ := List.mem_map.mp hline
    exact isBreak_logLine breaks fmt call

end LogConfig

end BedrockGateway
