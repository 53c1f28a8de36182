import SessionSquash.Cli.Parse
import SessionSquash.Cli.Trace
import SessionSquash.Cli.Host
import SessionSquash.Cli.Workspace
import SessionSquash.Cli.Report
import SessionSquash.Settings
import SessionSquash.Log.Line
import SessionSquash.Squash.Engine
import SessionSquash.Replay.View

namespace SessionSquash.Cli

/-- What a finished run leaves behind. -/
structure Outcome where
  exitCode : Nat
  stdout : String
  stderr : String
deriving Inhabited

/-- The two output streams written so far. -/
structure Console where
  out : String := ""
  err : String := ""
deriving Inhabited

/-- What ends a run early: a message and the errors behind it, outermost first. -/
structure Failure where
  message : String
  causes : List String := []
deriving Inhabited

namespace Failure

/-- The message and its causes on one line, joined by colons. -/
def chain (f : Failure) : String := ": ".intercalate (f.message :: f.causes)

/-- A cause, indented under `Caused by:`, numbered when there are several. -/
def indentCause (numbered : Bool) (index : Nat) (cause : String) : String :=
  let number := toString index
  let first := if numbered then "".pushn ' ' (5 - number.length) ++ number ++ ": " else "    "
  let rest := if numbered then "       " else "    "
  match cause.splitOn "\n" with
  | [] => first
  | line :: more => first ++ line ++ String.join (more.map fun l => "\n" ++ rest ++ l)

/-- The closing lines of a failed run. -/
def report (f : Failure) : String :=
  let numbered := f.causes.length > 1
  "Error: " ++ f.message ++
    (if f.causes.isEmpty then ""
     else "\n\nCaused by:" ++
       String.join (f.causes.zipIdx.map fun (c, i) => "\n" ++ indentCause numbered i c)) ++
    "\n"

end Failure

/-- The environment variables a run can see, by name. -/
abbrev Environment := List (String × String)

abbrev Run (m : Type → Type) := ReaderT Tracer (ExceptT Failure (StateT Console m))

section

variable {m : Type → Type} [Monad m] [Host m]

def say (text : String) : Run m Unit := modify fun c => { c with out := c.out ++ text }

def complain (text : String) : Run m Unit := modify fun c => { c with err := c.err ++ text }

def note (e : Event) : Run m Unit := do complain ((← read).render e)

def report (mode : OutputMode) (p : Problem) : Run m Unit := complain (p.render mode)

def abort {α : Type} (message : String) (causes : List String) : Run m α :=
  throw { message, causes }

def probe (path : String) : Run m Bool := do return ← (Host.isPresent path : m Bool)

def fetch (path : String) : Run m (Except OsError String) := do
  return ← (Host.readText path : m (Except OsError String))

def store (path text : String) : Run m (Except OsError Unit) := do
  return ← (Host.writeText path text : m (Except OsError Unit))

def standardInput : Run m String := do return ← (Host.readStdin : m String)

/-- Reads settings from a file that may be absent, which gives the defaults. -/
def readSettingsFile (path : String) : Run m (Except Failure Settings) := do
  if !(← probe path) then
    note ⟨.debug, "recap_core::config", "no config file, using defaults", [("path", .text path)]⟩
    return .ok {}
  match ← fetch path with
  | .error e => return .error { message := "Failed to read " ++ path, causes := [e.message] }
  | .ok text =>
    match Settings.parse text with
    | .ok s => return .ok s
    | .error e => return .error { message := "Failed to parse " ++ path, causes := [e.render text] }

/-- The settings from the file named on the command line, which must exist, or from
`recap.toml` in the working directory. -/
def loadSettings (named : Option String) (cwd : String) (mode : OutputMode) : Run m Settings := do
  let loaded ← match named with
    | some path => do
      if !(← probe path) then
        report mode ⟨.inputNotFound, path⟩
        abort ("config file not found: " ++ path) []
      readSettingsFile path
    | none => readSettingsFile (cwd ++ "/recap.toml")
  match loaded with
  | .ok s => return s
  | .error f =>
    report mode ⟨.configParseError, f.chain⟩
    throw f

/-- The text of an input: standard input for `-`, else a file that must exist. -/
def readInput (path : String) (mode : OutputMode) : Run m String := do
  if path == "-" then return ← standardInput
  if !(← probe path) then
    report mode ⟨.inputNotFound, path⟩
    abort ("input not found: " ++ path) []
  match ← fetch path with
  | .ok text => return text
  | .error e => abort ("Failed to read " ++ path) [e.message]

/-- Reads a record log, noting each line skipped for an unknown kind. -/
def loadRecords (path : String) (registry : Registry) (mode : OutputMode) :
    Run m (List TimedRecord) := do
  let text ← readInput path mode
  let (parsed, fault) := RecordLog.read registry text
  for (line, kind) in parsed.skipped do
    note ⟨.warn, "recap_core::log::parser", "skipping line with unknown record kind",
      [("line", .number line), ("kind", .text kind)]⟩
  match fault with
  | none =>
    note ⟨.debug, "recap::cmd", "record log loaded",
      [("path", .text path), ("records", .number parsed.records.length)]⟩
    return parsed.records
  | some (lineNo, e) =>
    let code : ErrorCode := match e with
      | .versionMismatch _ => .unsupportedLogVersion
      | _ => .logParseFailed
    let detail := path ++ ":" ++ toString lineNo ++ ": " ++ e.message
    report mode ⟨code, detail⟩
    abort detail []

end

/-- The diagnostic the engine gives for a note. -/
def engineEvent : SquashNote → Event
  | .undecoded kind time =>
    ⟨.warn, "recap_core::squash", "opaque record of a decoded kind; passing through",
      [("kind", .text kind.name), ("time", .number time.toInt)]⟩
  | .orphanBlock time change =>
    let p := change.position
    ⟨.trace, "recap_core::squash", "block change outside tracked chunks dropped",
      [("time", .number time.toInt), ("change", .text
        (s!"BlockChangeRecord \x7b position: BlockPos \x7b x: {p.x.toInt}, y: {p.y.toInt}, " ++
          s!"z: {p.z.toInt} \x7d, block: {change.block.toNat} \x7d"))]⟩
  | .respawn entities chunks =>
    ⟨.debug, "recap_core::squash", "respawn: discarding world state",
      [("entities", .number entities), ("chunks", .number chunks)]⟩

def completionEvent (r : SquashReport) : Event :=
  ⟨.info, "recap_core::squash", "squash complete",
    [("consumed", .number r.recordsConsumed), ("emitted", .number r.recordsEmitted),
      ("dropped", .number r.dropped), ("entities", .number r.entitiesTracked),
      ("chunks", .number r.chunksTracked), ("teams", .number r.teamsTracked)]⟩

section

variable {m : Type → Type} [Monad m] [Host m]

/-- `recap squash`: the squashed log goes to the output file or standard output,
and the summary to standard output or, when the log took it, standard error. -/
def runSquash (request : SquashRequest) (settings : Settings) (mode : OutputMode) : Run m Unit := do
  let records ← loadRecords request.input Registry.squash mode
  let lastTime : Int64 := match records.map (·.time) with
    | [] => 0
    | t :: ts => ts.foldl max t
  let endTime : Int64 := request.endTime.getD lastTime
  if endTime.toInt < lastTime.toInt then
    report mode ⟨.invalidEndTime,
      s!"--end-time {endTime.toInt} is before the last record at {lastTime.toInt}"⟩
    abort s!"end time {endTime.toInt} precedes last record at {lastTime.toInt}" []
  let config : SquashConfig :=
    { dropParticles := settings.squash.dropParticles && !request.keepParticles
      dropTransactionConfirms := settings.squash.dropTransactionConfirms && !request.keepConfirms }
  let verify := settings.output.verify && !request.noVerify
  note ⟨.debug, "recap::cmd::squash", "squashing", [("squash_config", .text config.describe),
    ("verify", .flag verify), ("end_time", .number endTime.toInt)]⟩
  let engine := (Squasher.new config).consumeAll records
  for n in engine.notes do note (engineEvent n)
  for team in engine.teams.uninformed do
    note ⟨.warn, "recap_core::squash::team", "created team has no display info",
      [("team", .text team)]⟩
  let (squashed, squashReport) := engine.finish endTime
  note (completionEvent squashReport)
  let digest ← if verify then do
      let expected := ReplayView.replay records
      let actual := ReplayView.replay squashed
      if !expected.agrees actual then
        report mode ⟨.verificationFailed, "original " ++ expected.digest ++ " vs squashed " ++
          actual.digest⟩
        abort "squashed log does not replay to the original state" []
      pure (some actual.digest)
    else pure none
  let text ← match RecordLog.write squashed with
    | .ok text => pure text
    | .error e => do
      report mode ⟨.logWriteFailed, e.message⟩
      abort e.message []
  let summary : SquashSummary :=
    { input := request.input, output := request.output, endTime, report := squashReport, digest }
  match request.output with
  | some path =>
    match ← store path text with
    | .error e => abort ("Failed to write " ++ path) [e.message]
    | .ok () => say (summary.render mode)
  | none =>
    say text
    complain (summary.render mode)

/-- `recap stats`: counts without decoding any payload. -/
def runStats (input : String) (mode : OutputMode) : Run m Unit := do
  let records ← loadRecords input Registry.empty mode
  say ((LogStats.collect records).render mode input)

/-- `recap verify`: replays both logs and compares the states they reach. -/
def runVerify (recording squashed : String) (mode : OutputMode) : Run m Unit := do
  let first ← loadRecords recording Registry.squash mode
  let second ← loadRecords squashed Registry.squash mode
  let expected := ReplayView.replay first
  let actual := ReplayView.replay second
  let verdict : VerifyReport :=
    { matched := expected.agrees actual, recording := ViewSummary.of first.length expected,
      squashed := ViewSummary.of second.length actual }
  note ⟨.info, "recap::cmd::verify", "verification finished",
    [("matched", .flag verdict.matched)]⟩
  if !verdict.matched then
    report mode ⟨.verificationFailed, s!"{recording} ({verdict.recording.digest}) vs " ++
      s!"{squashed} ({verdict.squashed.digest})"⟩
    abort s!"{squashed} does not replay to the state of {recording}" []
  say (verdict.render mode)

def runInvocation (inv : Invocation) (env : Environment) (cwd : String) : Run m Unit := do
  if inv.verbose then
    note ⟨.info, "recap", "Verbose mode enabled", []⟩
  let mode := OutputMode.resolve inv.format inv.json (env.lookup "FORMAT")
  let settings ← loadSettings inv.config cwd mode
  match inv.task with
  | .squash request => runSquash request settings mode
  | .stats input => runStats input mode
  | .verify recording squashed => runVerify recording squashed mode

/-- How diagnostics are written: `RECAP_LOG` chooses what passes, `RECAP_LOG_FORMAT`
chooses JSON lines, and colours are on unless `NO_COLOR` is set to something. -/
def Tracer.ofEnvironment (env : Environment) (verbose : Bool) (clock : String) : Tracer :=
  { filter := Filter.choose (env.lookup "RECAP_LOG") (verbose || (env.lookup "DEBUG").isSome)
    style := if env.lookup "RECAP_LOG_FORMAT" == some "json" then .json
      else .compact (match env.lookup "NO_COLOR" with
        | some v => v.isEmpty
        | none => true)
    clock }

/-- Runs the tool on a command line, without the program's name, in the working
directory `cwd`; `clock` is the time stamp diagnostics carry. -/
def run (args : List String) (env : Environment) (cwd clock : String) : m Outcome := do
  match readCommandLine args with
  | .error (.print text) => return ⟨0, text, ""⟩
  | .error (.reject text) => return ⟨2, "", text⟩
  | .ok inv =>
    let tracer := Tracer.ofEnvironment env inv.verbose clock
    let (result, console) ← ((runInvocation inv env cwd).run tracer).run.run {}
    match result with
    | .ok () => return ⟨0, console.out, console.err⟩
    | .error f => return ⟨1, console.out, console.err ++ f.report⟩

end

/-- A run in a directory held in memory, which is also the working directory; gives
the outcome and the directory afterwards. -/
def Workspace.runTool (w : Workspace) (args : List String) (env : Environment) (clock : String) :
    Outcome × Workspace :=
  (run args env w.root clock : StateM Workspace Outcome).run w

end SessionSquash.Cli
