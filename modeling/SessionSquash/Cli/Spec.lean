namespace SessionSquash.Cli

/-- What an option takes after its name. -/
inductive ValueShape where
  /-- Nothing: the option is a switch. -/
  | switch
  /-- A path: any text but the empty one. -/
  | path
  /-- A signed 64-bit integer. -/
  | integer
  /-- One of a fixed list of names, each with its help text. -/
  | choice (names : List (String × String))
deriving Inhabited

/-- What giving an option does beyond recording it. -/
inductive OptionRole where
  | plain
  | help
  | version
deriving DecidableEq, Inhabited

/-- A named option such as `-o, --output <OUTPUT>`. -/
structure OptionSpec where
  id : String
  short : Option Char
  long : String
  help : String
  /-- Options are listed by this number first, then by their letter or name. -/
  order : Nat
  shape : ValueShape := .switch
  valueName : String := ""
  role : OptionRole := .plain
deriving Inhabited

/-- A positional argument such as `<INPUT>`. -/
structure PositionalSpec where
  id : String
  valueName : String
  help : String
  required : Bool := true
  repeated : Bool := false
deriving Inhabited

/-- One command of the tool, with everything its help page shows. -/
structure CommandSpec where
  /-- The command's own name, as typed. -/
  name : String
  /-- The words that start its usage line, such as `recap squash`. -/
  usageName : String
  about : String
  longAbout : Option String := none
  afterHelp : Option String := none
  positionals : List PositionalSpec := []
  options : List OptionSpec := []
  /-- The subcommands, by name and one-line description. -/
  subcommands : List (String × String) := []
  /-- The arguments declared together with the command, by id, in the order declared; some
  errors show them as one group. -/
  group : List String := []
deriving Inhabited

namespace OptionSpec

def takesValue (o : OptionSpec) : Bool :=
  match o.shape with
  | .switch => false
  | _ => true

/-- The option as messages name it: its long form and its value. -/
def display (o : OptionSpec) : String :=
  "--" ++ o.long ++ if o.takesValue then " <" ++ o.valueName ++ ">" else ""

/-- The left column of the option's help line. -/
def heading (o : OptionSpec) : String :=
  "  " ++ (match o.short with
    | some c => "-" ++ c.toString ++ ", "
    | none => "    ") ++ o.display

/-- The second part of the listing order: the lower-cased letter marked by its
case, or the long name for an option without a letter. -/
def sortKey (o : OptionSpec) : String :=
  match o.short with
  | some c => (c.toLower.toString).push (if c.isLower then '0' else '1')
  | none => o.long

def listedBefore (a b : OptionSpec) : Bool :=
  a.order < b.order || (a.order == b.order && decide (a.sortKey < b.sortKey))

/-- The names a choice option accepts. -/
def choiceNames (o : OptionSpec) : List String :=
  match o.shape with
  | .choice names => names.map Prod.fst
  | _ => []

end OptionSpec

namespace PositionalSpec

def display (p : PositionalSpec) : String :=
  (if p.required then "<" ++ p.valueName ++ ">" else "[" ++ p.valueName ++ "]") ++
    if p.repeated then "..." else ""

end PositionalSpec

def helpOption : OptionSpec :=
  { id := "help", short := some 'h', long := "help", order := 999, role := .help,
    help := "Print help" }

def versionOption : OptionSpec :=
  { id := "version", short := some 'V', long := "version", order := 999, role := .version,
    help := "Print version" }

/-- The output formats, with their help texts. -/
def formatChoices : List (String × String) :=
  [("pretty", "Human-optimized output with sections"),
   ("text", "Plain `key value` lines for scripts and pipes"),
   ("json", "Machine-readable JSON")]

/-- The options every command accepts, wherever they are given. -/
def sharedOptions : List OptionSpec :=
  [{ id := "verbose", short := some 'v', long := "verbose", order := 0,
     help := "Enable verbose logging" },
   { id := "json", short := none, long := "json", order := 1,
     help := "Emit JSON output instead of human-readable text" },
   { id := "format", short := none, long := "format", order := 2,
     shape := .choice formatChoices, valueName := "FORMAT",
     help := "Output format (overrides --json and the FORMAT env var)" },
   { id := "config", short := none, long := "config", order := 3,
     shape := .path, valueName := "PATH",
     help := "Read settings from this file instead of ./recap.toml" }]

inductive Subcommand where
  | squash
  | stats
  | verify
deriving DecidableEq, Inhabited

namespace Subcommand

def all : List Subcommand := [.squash, .stats, .verify]

def name : Subcommand → String
  | .squash => "squash"
  | .stats => "stats"
  | .verify => "verify"

def about : Subcommand → String
  | .squash => "Squash a record log"
  | .stats => "Summarize a record log"
  | .verify => "Check a squashed log against its source"

def ofName? (s : String) : Option Subcommand := all.find? (·.name == s)

def squashOptions : List OptionSpec :=
  [{ id := "output", short := some 'o', long := "output", order := 0,
     shape := .path, valueName := "OUTPUT",
     help := "Write the squashed log here instead of stdout" },
   { id := "end_time", short := none, long := "end-time", order := 1,
     shape := .integer, valueName := "MS",
     help := "Timestamp stamped on team and map records (defaults to the last record)" },
   { id := "no_verify", short := none, long := "no-verify", order := 2,
     help := "Skip replaying both logs to check they reach the same state" },
   { id := "keep_particles", short := none, long := "keep-particles", order := 3,
     help := "Keep particle records instead of dropping them" },
   { id := "keep_confirms", short := none, long := "keep-confirms", order := 4,
     help := "Keep transaction-confirm records instead of dropping them" }]

def spec : Subcommand → CommandSpec
  | .squash =>
    { name := "squash", usageName := "recap squash", about := about .squash,
      longAbout := some
        "Fold a record log into the shortest log that replays to the same client state.",
      afterHelp := some ("EXAMPLES:\n    # Squash a recording into a snapshot file\n" ++
        "    recap squash session.log -o snapshot.log\n\n" ++
        "    # Squash up to a later timestamp, stamping teams and maps there\n" ++
        "    recap squash session.log -o snapshot.log --end-time 60000\n\n" ++
        "    # Read from stdin, write to stdout\n" ++
        "    cat session.log | recap squash - > snapshot.log\n\n" ++
        "    # Emit a machine-readable report\n" ++
        "    recap squash session.log -o snapshot.log --json"),
      positionals :=
        [{ id := "input", valueName := "INPUT", help := "Record log to squash (`-` reads stdin)" }],
      options := squashOptions ++ sharedOptions ++ [helpOption],
      group := "input" :: squashOptions.map (·.id) }
  | .stats =>
    { name := "stats", usageName := "recap stats", about := about .stats,
      longAbout := some
        "Count records per kind and per domain and report the covered time span.",
      afterHelp := some ("EXAMPLES:\n    # Show record counts\n    recap stats session.log\n\n" ++
        "    # Emit machine-readable output\n    recap stats session.log --json"),
      positionals :=
        [{ id := "input", valueName := "INPUT", help := "Record log to inspect (`-` reads stdin)" }],
      options := sharedOptions ++ [helpOption],
      group := ["input"] }
  | .verify =>
    { name := "verify", usageName := "recap verify", about := about .verify,
      longAbout := some "Replay both logs and compare the resulting client state.",
      afterHelp := some ("EXAMPLES:\n    # Verify a snapshot\n" ++
        "    recap verify session.log snapshot.log\n\n" ++
        "    # Emit machine-readable output\n    recap verify session.log snapshot.log --json"),
      positionals := [
        { id := "recording", valueName := "ORIGINAL", help := "The unsquashed recording" },
        { id := "squashed", valueName := "SQUASHED",
          help := "The squashed log to check against it" }],
      options := sharedOptions ++ [helpOption],
      group := ["recording", "squashed"] }

end Subcommand

def helpAbout : String := "Print this message or the help of the given subcommand(s)"

/-- The top-level command. -/
def toolSpec : CommandSpec :=
  { name := "recap", usageName := "recap",
    about := "recap: squash recorded game sessions into replayable snapshots",
    options := sharedOptions ++ [helpOption, versionOption],
    subcommands := Subcommand.all.map (fun s => (s.name, s.about)) ++ [("help", helpAbout)],
    group := sharedOptions.map (·.id) }

/-- The `help` subcommand, which prints the long help of the command it names. -/
def helpSpec : CommandSpec :=
  { name := "help", usageName := "recap help", about := helpAbout,
    positionals :=
      [{ id := "subcommand", valueName := "COMMAND", required := false, repeated := true,
         help := "Print help for the subcommand(s)" }] }

/-- The command a subcommand name leads to from a command, for `help`. -/
def CommandSpec.child? (c : CommandSpec) (word : String) : Option CommandSpec :=
  if c.name != toolSpec.name then none
  else if word == "help" then some helpSpec
  else (Subcommand.ofName? word).map Subcommand.spec

def versionText : String := "recap-cli 0.4.1\n"

def padRight (s : String) (width : Nat) : String :=
  s ++ "".pushn ' ' (width - s.length)

namespace CommandSpec

def findLong? (c : CommandSpec) (long : String) : Option OptionSpec :=
  c.options.find? (·.long == long)

def findShort? (c : CommandSpec) (letter : Char) : Option OptionSpec :=
  c.options.find? (·.short == some letter)

def findOption? (c : CommandSpec) (id : String) : Option OptionSpec :=
  c.options.find? (·.id == id)

def findPositional? (c : CommandSpec) (id : String) : Option PositionalSpec :=
  c.positionals.find? (·.id == id)

/-- Whether the command has a help option, to which errors point. -/
def hasHelp (c : CommandSpec) : Bool :=
  c.options.any (·.role == .help)

/-- Whether the usage line mentions `[OPTIONS]`: some option other than help
and version exists. -/
def hasOptions (c : CommandSpec) : Bool :=
  c.options.any (·.role == .plain)

/-- The usage line of a help page and of most errors: every required
positional, and the subcommand placeholder when the command has subcommands. -/
def fullUsage (c : CommandSpec) : String :=
  c.usageName ++ (if c.hasOptions then " [OPTIONS]" else "") ++
    String.join (c.positionals.map (" " ++ ·.display)) ++
    if c.subcommands.isEmpty then "" else " <COMMAND>"

/-- The usage line of an error that names the arguments already given: the given
options in the order given, then every required or given positional in order. -/
def givenUsage (c : CommandSpec) (given : List String) : String :=
  let options := (given.filterMap c.findOption?).map OptionSpec.display
  let positionals := c.positionals.filter (fun p => p.required || given.contains p.id)
  c.usageName ++ String.join (options.eraseDups.map (" " ++ ·)) ++
    String.join (positionals.map (" " ++ ·.display)) ++
    if c.subcommands.isEmpty then "" else " <COMMAND>"

/-- The usage line an error shows: the full one when nothing was given. -/
def usageFor (c : CommandSpec) (given : List String) : String :=
  if given.isEmpty then c.fullUsage else c.givenUsage given

/-- The command's group as a usage line shows it: `<A|--b <B>|--c>`, positionals by their
value name and options as messages name them. -/
def groupText (c : CommandSpec) : String :=
  let member (id : String) : String :=
    match c.findPositional? id, c.findOption? id with
    | some p, _ => p.valueName
    | none, some o => o.display
    | none, none => id
  "<" ++ "|".intercalate (c.group.map member) ++ ">"

/-- The usage line of an error about a value attached to a switch: the options settled so far
and the switch, in the order given, then every required positional. When an argument of the
command's group was settled, the group is shown once, after the options, in place of its
members. -/
def attachedUsage (c : CommandSpec) (settled : List String) (switch : String) : String :=
  let grouped := settled.any c.group.contains
  let given := settled ++ [switch]
  let shown (id : String) : Bool := !(grouped && c.group.contains id)
  let options := ((given.filter shown).filterMap c.findOption?).map OptionSpec.display
  let groups := if grouped then [c.groupText] else []
  let positionals := c.positionals.filter fun p => shown p.id && (p.required || given.contains p.id)
  c.usageName ++ String.join ((options.eraseDups ++ groups).map (" " ++ ·)) ++
    String.join (positionals.map (" " ++ ·.display)) ++
    if c.subcommands.isEmpty then "" else " <COMMAND>"

def sortedOptions (c : CommandSpec) : List OptionSpec :=
  c.options.mergeSort (fun a b => !b.listedBefore a)

def optionHelp (o : OptionSpec) (long : Bool) : String :=
  match o.role with
  | .help => if long then "Print help (see a summary with '-h')" else "Print help (see more with '--help')"
  | _ => o.help

/-- What a short page appends to an option's help: its possible values. -/
def shortExtra (o : OptionSpec) : String :=
  match o.shape with
  | .choice names => " [possible values: " ++ ", ".intercalate (names.map Prod.fst) ++ "]"
  | _ => ""

/-- What a long page appends to an option's help: its possible values, one a line. -/
def longExtra (o : OptionSpec) : String :=
  match o.shape with
  | .choice names =>
    let width := (names.map (·.1.length)).foldl max 0
    "\n\n          Possible values:" ++ String.join (names.map fun (n, h) =>
      "\n          - " ++ n ++ ": " ++ "".pushn ' ' (width - n.length) ++ h)
  | _ => ""

def indentNext : String := "\n          "

def subcommandLines (c : CommandSpec) : String :=
  let width := (c.subcommands.map (·.1.length)).foldl max 2
  "\n".intercalate (c.subcommands.map fun (n, a) => "  " ++ padRight n (width + 2) ++ a)

def positionalLines (c : CommandSpec) (long : Bool) : String :=
  let width := (c.positionals.map (·.display.length)).foldl max 0
  if long then
    "\n\n".intercalate (c.positionals.map fun p => "  " ++ p.display ++ indentNext ++ p.help)
  else
    "\n".intercalate (c.positionals.map fun p => "  " ++ padRight p.display (width + 2) ++ p.help)

def optionLines (c : CommandSpec) (long : Bool) : String :=
  let options := c.sortedOptions
  let width := (options.map (·.display.length)).foldl max 0
  if long then
    "\n\n".intercalate (options.map fun o =>
      o.heading ++ indentNext ++ optionHelp o true ++ longExtra o)
  else
    "\n".intercalate (options.map fun o =>
      padRight o.heading (width + 8) ++ optionHelp o false ++ shortExtra o)

/-- The help page, short (`-h`) or long (`--help`). -/
def helpPage (c : CommandSpec) (long : Bool) : String :=
  let about := if long then c.longAbout.getD c.about else c.about
  let sections :=
    (if c.subcommands.isEmpty then [] else ["Commands:\n" ++ c.subcommandLines]) ++
    (if c.positionals.isEmpty then [] else ["Arguments:\n" ++ c.positionalLines long]) ++
    (if c.options.isEmpty then [] else ["Options:\n" ++ c.optionLines long])
  let page := about ++ "\n\nUsage: " ++ c.fullUsage ++ "\n\n" ++ "\n\n".intercalate sections ++
    match c.afterHelp with
    | some text => "\n\n" ++ text
    | none => ""
  page.trimAsciiEnd.toString ++ "\n"

end CommandSpec

end SessionSquash.Cli
