import SessionSquash.Cli.Spec
import SessionSquash.Cli.Similar
import SessionSquash.Cli.Invocation
import SessionSquash.Text.Integer

namespace SessionSquash.Cli

/-- Why a command line is refused. -/
inductive UsageError where
  /-- An option or word that fits nowhere, with a similar option and tips. -/
  | unknownArgument (word : String) (similar : Option String) (tips : List String)
      (usage : String)
  /-- A word where a subcommand was expected, with similar subcommands. -/
  | unknownSubcommand (word : String) (similar : List String) (usage : String)
  /-- A subcommand's name after `--`. -/
  | escapedSubcommand (word : String) (usage : String)
  | missingArguments (names : List String) (usage : String)
  | missingSubcommand (names : List String) (usage : String)
  /-- A value that is not one of a choice's names, with a similar name. -/
  | invalidChoice (option value : String) (names : List String) (similar : Option String)
  /-- A value its option cannot read, with the reason. -/
  | invalidValue (option value reason : String)
  /-- An option with no value, or an empty one. -/
  | missingValue (option : String) (names : List String)
  | repeated (option : String) (usage : String)
  /-- A value attached to a switch. -/
  | unexpectedValue (option value : String) (usage : String)
deriving Inhabited

namespace UsageError

def quoteList (words : List String) : String :=
  ", ".intercalate (words.map fun w => "'" ++ w ++ "'")

def valuesLine (label : String) (names : List String) : String :=
  if names.isEmpty then "" else "\n  [" ++ label ++ ": " ++ ", ".intercalate names ++ "]"

def usageBlock (usage : String) : String := "\n\nUsage: " ++ usage

def tipLines (tips : List String) : String := String.join (tips.map ("\n  tip: " ++ ·))

/-- The error as printed: the message, its tips, the usage line when it has one,
and, when the command has a help option, the pointer to `--help`. -/
def render (e : UsageError) (pointer : Bool := true) : String :=
  let body := match e with
    | .unknownArgument word similar tips usage =>
      let similarLine := match similar with
        | some s => "\n\n  tip: a similar argument exists: '" ++ s ++ "'"
        | none => ""
      "unexpected argument '" ++ word ++ "' found" ++ similarLine ++
        (if tips.isEmpty then "" else (if similar.isSome then "" else "\n") ++ tipLines tips) ++
        usageBlock usage
    | .unknownSubcommand word similar usage =>
      let tip := match similar with
        | [] => ""
        | [s] => "\n\n  tip: a similar subcommand exists: '" ++ s ++ "'"
        | many => "\n\n  tip: some similar subcommands exist: " ++ quoteList many
      "unrecognized subcommand '" ++ word ++ "'" ++ tip ++ usageBlock usage
    | .escapedSubcommand word usage =>
      "unexpected argument '" ++ word ++ "' found\n\n  tip: subcommand '" ++ word ++
        "' exists; to use it, remove the '--' before it" ++ usageBlock usage
    | .missingArguments names usage =>
      "the following required arguments were not provided:" ++
        String.join (names.map ("\n  " ++ ·)) ++ usageBlock usage
    | .missingSubcommand names usage =>
      "'recap' requires a subcommand but one was not provided" ++
        valuesLine "subcommands" names ++ usageBlock usage
    | .invalidChoice option value names similar =>
      "invalid value '" ++ value ++ "' for '" ++ option ++ "'" ++
        valuesLine "possible values" names ++
        match similar with
        | some s => "\n\n  tip: a similar value exists: '" ++ s ++ "'"
        | none => ""
    | .invalidValue option value reason =>
      "invalid value '" ++ value ++ "' for '" ++ option ++ "': " ++ reason
    | .missingValue option names =>
      "a value is required for '" ++ option ++ "' but none was supplied" ++
        valuesLine "possible values" names
    | .repeated option usage =>
      "the argument '" ++ option ++ "' cannot be used multiple times" ++ usageBlock usage
    | .unexpectedValue option value usage =>
      "unexpected value '" ++ value ++ "' for '" ++ option ++ "' found; no more were expected" ++
        usageBlock usage
  "error: " ++ body ++ (if pointer then "\n\nFor more information, try '--help'.\n" else "\n")

end UsageError

/-- How reading a command line can end without a task. -/
inductive Stop where
  /-- A help page or the version, for standard output; the run succeeds. -/
  | print (text : String)
  /-- An error or a help page, for standard error; the run fails with status 2. -/
  | reject (text : String)
deriving Inhabited

def UsageError.stop (e : UsageError) : Stop := .reject e.render

/-- What one command's words have given so far. -/
structure Given where
  /-- Each argument given, by id, with its value, in the order first given. -/
  values : List (String × String) := []
  /-- The last option read, with its value once one has followed it. -/
  pending : Option (OptionSpec × Option String) := none
  /-- How many positionals have been filled. -/
  filled : Nat := 0
  /-- Whether `--` has been read. -/
  escaped : Bool := false
  /-- The positional read last, with its word, until the next option or positional settles it. -/
  fresh : Option (PositionalSpec × String) := none
deriving Inhabited

namespace Given

def ids (g : Given) : List String := g.values.map Prod.fst

def has (g : Given) (id : String) : Bool := g.ids.contains id

def lookup (g : Given) (id : String) : Option String := (g.values.find? (·.1 == id)).map (·.2)

def record (g : Given) (id value : String) : Given := { g with values := g.values ++ [(id, value)] }

/-- The arguments given and settled: all but a positional read last. -/
def settledIds (g : Given) : List String :=
  match g.fresh with
  | some (p, _) => g.ids.erase p.id
  | none => g.ids

end Given

/-- Checks an option's value against its shape, giving the text it keeps. -/
def checkValue (o : OptionSpec) (value : String) : Except UsageError String :=
  match o.shape with
  | .switch => pure value
  | .path => if value.isEmpty then throw (.missingValue o.display []) else pure value
  | .integer =>
    match Text.readInt64 value with
    | .ok _ => pure value
    | .error e => throw (.invalidValue o.display value e.message)
  | .choice _ =>
    let names := o.choiceNames
    if names.contains value then pure value
    else if value.isEmpty then throw (.missingValue o.display names)
    else throw (.invalidChoice o.display value names (closestWord? value names))

namespace CommandSpec

/-- Records a complete option: one with its value, or a switch. -/
def accept (c : CommandSpec) (g : Given) (o : OptionSpec) (value : Option String) :
    Except UsageError Given :=
  match o.takesValue, value with
  | false, _ =>
    if g.has o.id then throw (.repeated o.display c.fullUsage) else pure (g.record o.id "true")
  | true, none => throw (.missingValue o.display o.choiceNames)
  | true, some v =>
    if g.has o.id then throw (.repeated o.display c.fullUsage)
    else do
      let kept ← checkValue o v
      pure (g.record o.id kept)

/-- Completes the option or positional read last, if any: an option needs its value, and a
positional a word that is not empty. -/
def settle (c : CommandSpec) (g : Given) : Except Stop Given := do
  let g ← match g.fresh with
    | some (p, word) =>
      if word.isEmpty then throw (UsageError.missingValue p.display []).stop
      else pure { g with fresh := none }
    | none => pure g
  match g.pending with
  | none => pure g
  | some (o, v) => (c.accept { g with pending := none } o v).mapError UsageError.stop

/-- Completes the option read last before another fault is reported: with a
value it counts as given whether or not the value fits. -/
def settleQuietly (c : CommandSpec) (g : Given) : Given :=
  let g := { g with fresh := none }
  match g.pending with
  | none => g
  | some (_, none) => { g with pending := none }
  | some (o, some v) =>
    let g := { g with pending := none }
    match c.accept g o (some v) with
    | .ok g' => g'
    | .error _ => if g.has o.id then g else g.record o.id v

/-- Acts on a complete switch: help and version end reading. -/
def react (c : CommandSpec) (g : Given) (o : OptionSpec) (long : Bool) : Except Stop Given :=
  match o.role with
  | .help => throw (.print (c.helpPage long))
  | .version => throw (.print versionText)
  | .plain => (c.accept g o none).mapError UsageError.stop

/-- The tip for passing a word that looks like an option as a positional. -/
def escapeTip (c : CommandSpec) (g : Given) (word : String) : List String :=
  if !g.escaped && !c.positionals.isEmpty then
    ["to pass '" ++ word ++ "' as a value, use '-- " ++ word ++ "'"]
  else []

/-- The best similar option among the subcommands named later on the line. -/
def laterSubcommandOption? (c : CommandSpec) (name : String) (rest : List String) :
    Option (String × String) :=
  let found := c.subcommands.filterMap fun (sub, _) =>
    match c.child? sub, rest.idxOf? sub with
    | some spec, some place =>
      (closestWord? name (spec.options.map (·.long))).map fun best => (place, best, sub)
    | _, _ => none
  let first := found.foldl (fun (best : Option (Nat × String × String)) x =>
    match best with
    | some b => if x.1 < b.1 then some x else some b
    | none => some x) none
  first.map fun (_, option, sub) => (option, sub)

/-- The error for an unknown `--name`. -/
def unknownLong (c : CommandSpec) (g : Given) (name : String) (rest : List String) :
    UsageError :=
  let word := "--" ++ name
  match closestWord? name (c.options.map (·.long)) with
  | some best =>
    let given := match c.findLong? best with
      | some o => if g.has o.id then g.ids else g.ids ++ [o.id]
      | none => g.ids
    .unknownArgument word (some ("--" ++ best)) [] (c.usageFor given)
  | none =>
    match c.laterSubcommandOption? name rest with
    | some (option, sub) =>
      .unknownArgument word none ["'" ++ sub ++ " --" ++ option ++ "' exists"] (c.usageFor g.ids)
    | none => .unknownArgument word none (c.escapeTip g word) (c.usageFor g.ids)

/-- Reads `--name` or `--name=value`. -/
def readLong (c : CommandSpec) (g : Given) (body : String) (rest : List String) :
    Except Stop Given :=
  let (name, value) : String × Option String :=
    match body.splitOn "=" with
    | n :: v :: vs => (n, some ("=".intercalate (v :: vs)))
    | _ => (body, none)
  match c.findLong? name with
  | some o =>
    if o.takesValue then
      match value with
      | some v => do
        let g ← c.settle g
        (c.accept g o (some v)).mapError UsageError.stop
      | none => do
        let g ← c.settle g
        pure { g with pending := some (o, none) }
    else
      match value with
      | some v =>
        throw (UsageError.unexpectedValue o.display v (c.attachedUsage g.settledIds o.id)).stop
      | none => do
        let g ← c.settle g
        c.react g o true
  | none => throw (c.unknownLong (c.settleQuietly g) name rest).stop

/-- Reads the letters of `-abc`; an option that takes a value takes the rest of
the word, after one optional `=`, or else the next word. -/
def readShort (c : CommandSpec) : Given → List Char → Except Stop Given
  | g, [] => pure g
  | g, letter :: more =>
    let word := "-" ++ letter.toString
    match c.findShort? letter with
    | none => throw (UsageError.unknownArgument word none (c.escapeTip g word) c.fullUsage).stop
    | some o =>
      if o.takesValue then
        match more with
        | [] => do
          let g ← c.settle g
          pure { g with pending := some (o, none) }
        | '=' :: value => do
          let g ← c.settle g
          (c.accept g o (some (String.ofList value))).mapError UsageError.stop
        | value => do
          let g ← c.settle g
          (c.accept g o (some (String.ofList value))).mapError UsageError.stop
      else do
        let g ← c.settle g
        let g ← c.react g o false
        c.readShort g more

/-- The error for a word that no positional takes. -/
def extraWord (c : CommandSpec) (g : Given) (word : String) : UsageError :=
  if c.subcommands.isEmpty then .unknownArgument word none [] c.fullUsage
  else if g.escaped && c.subcommands.any (·.1 == word) then .escapedSubcommand word c.fullUsage
  else .unknownSubcommand word (similarWords word (c.subcommands.map (·.1))) c.fullUsage

/-- Gives a word to the next positional; an empty word is refused when it is settled. -/
def readPositional (c : CommandSpec) (g : Given) (word : String) : Except Stop Given :=
  match c.positionals[g.filled]? with
  | some p => do
    let g ← c.settle g
    let g := { g.record p.id word with fresh := some (p, word) }
    pure (if p.repeated then g else { g with filled := g.filled + 1 })
  | none => throw (c.extraWord (c.settleQuietly g) word).stop

/-- Where reading a command's words stopped. -/
inductive Scan where
  /-- The words ran out. -/
  | done (g : Given)
  /-- A subcommand's name, with the words after it. -/
  | enter (g : Given) (name : String) (rest : List String)

/-- Reads a command's words until they run out or a subcommand's name comes. An option
still waiting for its value takes the next plain word, even when the word names a
subcommand; after `--` every word is positional, and an option still waiting then has no
value. -/
def scan (c : CommandSpec) : Given → List String → Except Stop Scan
  | g, [] => pure (.done g)
  | g, word :: rest =>
    let positional : Except Stop Scan :=
      if !g.escaped && c.subcommands.any (·.1 == word) then pure (.enter g word rest)
      else do
        let g ← c.readPositional g word
        c.scan g rest
    let plain : Except Stop Scan :=
      match g.pending with
      | some (o, none) => c.scan { g with pending := some (o, some word) } rest
      | _ => positional
    if g.escaped then positional
    else if word == "--" then c.scan { g with escaped := true } rest
    else if word.startsWith "--" then do
      let g ← c.readLong g (word.drop 2).toString rest
      c.scan g rest
    else if word.startsWith "-" && word.length > 1 then do
      let g ← c.readShort g (word.drop 1).toString.toList
      c.scan g rest
    else plain

/-- Checks that every required positional was given. -/
def checkComplete (c : CommandSpec) (g : Given) : Except Stop Given :=
  let missing := c.positionals.filter fun p => p.required && !g.has p.id
  if missing.isEmpty then pure g
  else
    throw (UsageError.missingArguments (missing.map (·.display))
      (c.usageFor (g.ids ++ missing.map (·.id)))).stop

/-- Reads a subcommand's words to the end. -/
def readAll (c : CommandSpec) (words : List String) : Except Stop Given := do
  let g ← match ← c.scan {} words with
    | .done g => pure g
    | .enter g _ _ => pure g
  let g ← c.settle g
  c.checkComplete g

end CommandSpec

/-- The long help page `help` prints for the commands it names in turn. -/
def helpTopic : CommandSpec → List String → Stop
  | c, [] => .print (c.helpPage true)
  | c, word :: rest =>
    match c.child? word with
    | some d => helpTopic d rest
    | none => .reject ((UsageError.unknownSubcommand word [] c.fullUsage).render c.hasHelp)

/-- Builds the task from the words given to its subcommand and to the tool;
a shared option given to both takes the subcommand's value. -/
def Invocation.ofGiven (top sub : Given) (s : Subcommand) : Invocation :=
  let shared (id : String) : Option String := (sub.lookup id).orElse fun _ => top.lookup id
  let flag (id : String) : Bool := (shared id).isSome
  let own (id : String) : String := (sub.lookup id).getD ""
  let task : Task := match s with
    | .squash => .squash
      { input := own "input", output := sub.lookup "output",
        endTime := (sub.lookup "end_time").bind fun t => (Text.readInt64 t).toOption,
        noVerify := (sub.lookup "no_verify").isSome,
        keepParticles := (sub.lookup "keep_particles").isSome,
        keepConfirms := (sub.lookup "keep_confirms").isSome }
    | .stats => .stats (own "input")
    | .verify => .verify (own "recording") (own "squashed")
  { verbose := flag "verbose", json := flag "json",
    format := (shared "format").bind OutputMode.ofName?,
    config := shared "config", task }

/-- Reads a command line, without the program's name. -/
def readCommandLine (words : List String) : Except Stop Invocation := do
  match ← toolSpec.scan {} words with
  | .done g =>
    let g ← toolSpec.settle g
    if g.values.isEmpty then throw (.reject (toolSpec.helpPage false))
    else throw (UsageError.missingSubcommand (toolSpec.subcommands.map (·.1))
      toolSpec.fullUsage).stop
  | .enter g name rest =>
    match Subcommand.ofName? name with
    | none => throw (helpTopic toolSpec rest)
    | some s => do
      let sub ← s.spec.readAll rest
      let g ← toolSpec.settle g
      pure (Invocation.ofGiven g sub s)

end SessionSquash.Cli
