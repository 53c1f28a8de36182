import SessionSquash.Cli.Program

namespace SessionSquash.Cli

/-- The system's refusal as the tool reports it. -/
def osErrorOf : IO.Error → OsError
  | .noFileOrDirectory _ _ _ => .notFound
  | .inappropriateType _ 21 _ | .otherError 21 _ => .isDirectory
  | .inappropriateType _ 20 _ | .otherError 20 _ => .notDirectory
  | e => .other (toString e)

instance : Host IO where
  isPresent path := (System.mkFilePath [path]).pathExists
  readText path := do
    try return .ok (← IO.FS.readFile (System.mkFilePath [path]))
    catch e => return .error (osErrorOf e)
  writeText path text := do
    try
      IO.FS.writeFile (System.mkFilePath [path]) text
      return .ok ()
    catch e => return .error (osErrorOf e)
  readStdin := do (← IO.getStdin).readToEnd

/-- The variables a run reads. -/
def watchedVariables : List String :=
  ["FORMAT", "RECAP_LOG", "RECAP_LOG_FORMAT", "DEBUG", "NO_COLOR"]

/-- Seconds since an arbitrary start, to the millisecond, stamped on diagnostics. -/
def clockText (ms : Nat) : String :=
  let fraction := toString (ms % 1000)
  toString (ms / 1000) ++ "." ++ "".pushn '0' (3 - fraction.length) ++ fraction ++ "s"

end SessionSquash.Cli

open SessionSquash.Cli in
def main (args : List String) : IO UInt32 := do
  let env ← watchedVariables.filterMapM fun name => do
    return (← IO.getEnv name).map fun value => (name, value)
  let cwd := toString (← IO.currentDir)
  let clock := clockText (← IO.monoMsNow)
  let outcome ← run args env cwd clock
  IO.print outcome.stdout
  IO.eprint outcome.stderr
  return outcome.exitCode.toUInt32
