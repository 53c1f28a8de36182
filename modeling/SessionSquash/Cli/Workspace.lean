import SessionSquash.Cli.Host

namespace SessionSquash.Cli

structure Workspace where
  /-- The absolute path the directory is known by. -/
  root : String
  /-- Files by their path from the directory, parts joined by `/`, oldest first. -/
  files : List (String × String)
  /-- What standard input still holds; reading it takes all of it. -/
  stdin : String := ""
deriving Inhabited

/-- What a path names. -/
inductive PathKind where
  | file
  | directory
  | missing
deriving DecidableEq, Inhabited

/-- Where a walk along a path stands. -/
inductive Place where
  /-- At the parts' path from the directory, which may or may not exist. -/
  | inside (parts : List String)
  /-- At a directory above the directory, or at the system's root. -/
  | above
  /-- At a name in a directory above: nothing is known there. -/
  | unknown
deriving DecidableEq, Inhabited

namespace Workspace

def key (parts : List String) : String := "/".intercalate parts

def isFile (w : Workspace) (parts : List String) : Bool := w.files.any (·.1 == key parts)

/-- What the parts name. -/
def kindOf (w : Workspace) (parts : List String) : PathKind :=
  if parts.isEmpty then .directory
  else if w.isFile parts then .file
  else if w.files.any (·.1.startsWith (key parts ++ "/")) then .directory
  else .missing

def placeKind (w : Workspace) : Place → PathKind
  | .inside parts => w.kindOf parts
  | .above => .directory
  | .unknown => .missing

/-- One step of a walk: the place must be a directory; an empty part or `.` stays there,
`..` steps up, and a name steps down. -/
def step (w : Workspace) (place : Place) (part : String) : Except OsError Place :=
  match w.placeKind place with
  | .file => .error .notDirectory
  | .missing => .error .notFound
  | .directory =>
    if part == "" || part == "." then .ok place
    else if part == ".." then
      .ok (match place with
        | .inside [] => .above
        | .inside parts => .inside parts.dropLast
        | p => p)
    else
      .ok (match place with
        | .inside parts => .inside (parts ++ [part])
        | _ => .unknown)

/-- Where a walk starts for a path, with the parts still to walk. -/
def start (w : Workspace) (path : String) : Place × List String :=
  if path == w.root then (.inside [], [])
  else if path.startsWith (w.root ++ "/") then
    (.inside [], (path.drop (w.root.length + 1)).toString.splitOn "/")
  else if path.startsWith "/" then (.above, (path.drop 1).toString.splitOn "/")
  else (.inside [], path.splitOn "/")

/-- Walks the parts; the last part may name something missing. -/
def walk (w : Workspace) (place : Place) : List String → Except OsError Place
  | [] => .ok place
  | part :: rest => do walk w (← w.step place part) rest

/-- Where a path leads; an empty path leads nowhere. -/
def resolve (w : Workspace) (path : String) : Except OsError Place :=
  if path.isEmpty then .error .notFound
  else
    let (place, parts) := w.start path
    w.walk place parts

def present (w : Workspace) (path : String) : Bool :=
  match w.resolve path with
  | .ok place => w.placeKind place != .missing
  | .error _ => false

def read (w : Workspace) (path : String) : Except OsError String := do
  match ← w.resolve path with
  | .inside parts =>
    match w.kindOf parts with
    | .directory => .error .isDirectory
    | _ =>
      match w.files.find? (·.1 == key parts) with
      | some (_, text) => .ok text
      | none => .error .notFound
  | .above => .error .isDirectory
  | .unknown => .error .notFound

/-- The path with its trailing slashes dropped, and whether it had any. -/
def trimSlashes (path : String) : String × Bool :=
  let kept := (path.toList.reverse.dropWhile (· == '/')).reverse
  if kept.isEmpty then (path, false) else (String.ofList kept, kept.length < path.length)

/-- Creates or replaces a file; a replaced file keeps its place. A path with a trailing
slash names a directory, so no file can be made there. A file in a directory above is
written where nothing here records it. -/
def write (w : Workspace) (path text : String) : Except OsError Workspace := do
  let (name, slashed) := trimSlashes path
  match ← w.resolve name with
  | .inside parts =>
    match w.kindOf parts with
    | .directory => .error .isDirectory
    | .file =>
      if slashed then .error .notDirectory
      else .ok { w with files := w.files.map fun (k, t) => if k == key parts then (k, text) else (k, t) }
    | .missing =>
      if slashed then .error .isDirectory
      else .ok { w with files := w.files ++ [(key parts, text)] }
  | .above => .error .isDirectory
  | .unknown => if slashed then .error .isDirectory else .ok w

/-- The key a given file is stored under: its path's names, without empty parts or `.`. -/
def keyOf (path : String) : String :=
  key ((path.splitOn "/").filter fun part => part != "" && part != ".")

/-- A directory holding the given files, each at its path from the directory. -/
def ofFiles (root : String) (given : List (String × String)) (stdin : String) : Workspace :=
  { root, stdin, files := given.map fun (path, text) => (keyOf path, text) }

end Workspace

instance : Host (StateM Workspace) where
  isPresent path := do return (← get).present path
  readText path := do return (← get).read path
  writeText path text := do
    match (← get).write path text with
    | .ok w => set w; return .ok ()
    | .error e => return .error e
  readStdin := do
    let w ← get
    set { w with stdin := "" }
    return w.stdin

end SessionSquash.Cli
