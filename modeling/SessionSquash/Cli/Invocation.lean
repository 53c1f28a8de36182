namespace SessionSquash.Cli

/-- How reports and error reports are written. -/
inductive OutputMode where
  /-- Sections with a rule under each heading and aligned keys. -/
  | pretty
  /-- Plain `key value` lines. -/
  | text
  /-- Pretty-printed JSON. -/
  | json
deriving DecidableEq, Inhabited, Repr

namespace OutputMode

def ofName? : String → Option OutputMode
  | "pretty" => some .pretty
  | "text" => some .text
  | "json" => some .json
  | _ => none

/-- The mode a run uses: the `--format` option, else `--json`, else the
`FORMAT` variable when it names a mode in any case, else plain text (output
goes to a pipe, not a terminal). -/
def resolve (format : Option OutputMode) (json : Bool) (setting : Option String) :
    OutputMode :=
  match format with
  | some mode => mode
  | none =>
    if json then .json
    else (setting.bind fun v => ofName? (String.map Char.toLower v)).getD .text

end OutputMode

/-- The arguments of `recap squash`. -/
structure SquashRequest where
  input : String
  output : Option String := none
  endTime : Option Int64 := none
  noVerify : Bool := false
  keepParticles : Bool := false
  keepConfirms : Bool := false
deriving Inhabited

inductive Task where
  | squash (request : SquashRequest)
  | stats (input : String)
  | verify (recording squashed : String)
deriving Inhabited

/-- A command line that asks for a task. -/
structure Invocation where
  verbose : Bool := false
  json : Bool := false
  format : Option OutputMode := none
  config : Option String := none
  task : Task
deriving Inhabited

end SessionSquash.Cli
