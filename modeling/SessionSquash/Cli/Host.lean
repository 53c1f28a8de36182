namespace SessionSquash.Cli

/-- Why the system refused to read or write a file. -/
inductive OsError where
  | notFound
  | isDirectory
  | notDirectory
  | other (message : String)
deriving DecidableEq, Inhabited

/-- The system's wording, with its error number. -/
def OsError.message : OsError → String
  | .notFound => "No such file or directory (os error 2)"
  | .isDirectory => "Is a directory (os error 21)"
  | .notDirectory => "Not a directory (os error 20)"
  | .other m => m

class Host (m : Type → Type) where
  /-- Whether something, a file or a directory, is at the path. -/
  isPresent : String → m Bool
  readText : String → m (Except OsError String)
  /-- Creates or replaces a file. -/
  writeText : String → String → m (Except OsError Unit)
  readStdin : m String

end SessionSquash.Cli
