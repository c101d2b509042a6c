import RouteDoc.Command.Run
import RouteDoc.Go.Source

/-! The program: reads the files that a command needs, runs the command and puts out its result. -/
namespace RouteDoc

def usage : String :=
  "Usage: routedoc <COMMAND> [OPTIONS]\n\n" ++
  "Commands:\n" ++
  "  endpoints  List every registered HTTP endpoint\n" ++
  "  spec       Generate the OpenAPI document\n" ++
  "  help       Print this message\n\n" ++
  "Options:\n" ++
  "  -p, --project <DIR>          Path to the Go project root\n" ++
  "      --ms <NAME>              Only services whose name contains NAME (repeatable)\n" ++
  "  -o, --output <FILE>          Output file path\n" ++
  "  -f, --format <FORMAT>        yaml, json or table\n" ++
  "  -v, --verbose                Enable verbose output\n" ++
  "      --title <TITLE>          Document title (spec)\n" ++
  "      --api-version <VERSION>  Document version (spec)\n" ++
  "      --description <TEXT>     Document description (spec)\n"

def Command.Refusal.text : Command.Refusal → String × Bool
  | .help => (usage, true)
  | .version => ("routedoc 0.1.0\n", true)
  | .missingSubcommand => (usage, false)
  | .invalidSubcommand => ("error: unrecognized subcommand\n\n" ++ usage, false)
  | .unknownArgument => ("error: unexpected argument\n\n" ++ usage, false)
  | .invalidValue => ("error: invalid or missing value\n\n" ++ usage, false)
  | .argumentConflict => ("error: an argument cannot be used multiple times\n\n" ++ usage, false)
  | .tooManyValues => ("error: unexpected value\n\n" ++ usage, false)

/-- The file or directory at a path. The entries of a directory are read one by one as given. -/
def readNode (readEntry : String → IO (Option Disk.Node)) (path : String) :
    IO (Option Disk.Node) := do
  let here := (← IO.currentDir) / path
  if ← here.isDir then
    let mut entries : List (String × Disk.Node) := []
    for entry in ← here.readDir do
      if let some node ← readEntry entry.path.toString then
        entries := (entry.fileName, node) :: entries
    return some (.ofList entries)
  else if ← here.pathExists then
    return some (.file (String.fromUTF8? (← IO.FS.readBinFile here)))
  else return none

/-- The file or directory at a path with all that lies below it. Links are not followed there. -/
partial def readTree (path : String) : IO (Option Disk.Node) :=
  readNode (fun entry => do
    match (← ((← IO.currentDir) / entry).symlinkMetadata).type with
    | .symlink => return none
    | _ => readTree entry) path

/-- The place that a path spells, names followed by two dots being dropped. -/
def spelledPlace (d : Disk) (path : String) : Disk.Place :=
  (Disk.pieces path).foldl (fun place name =>
    if name = "" || name = "." then place
    else if name = ".." then place.dropLast
    else place ++ [name]) (d.start path)

def readInto (d : Disk) (path : String) (read : String → IO (Option Disk.Node)) : IO Disk := do
  match ← read path with
  | none => return d
  | some node => return { d with root := d.root.put (spelledPlace d path) node }

/-- The tree that a command works on: the project's own directory with nothing below its entries, then
the three trees that its configuration names. A service may be a link. -/
def readDisk (c : Command) : IO Disk := do
  let current := (Disk.pieces (← IO.currentDir).toString).filter (· ≠ "")
  let d : Disk := { root := (Disk.Node.dir []).put current (.dir []), current }
  let dir := c.projectDir d
  let d ← readInto d dir (readNode (readNode fun _ => return none))
  match Config.load d dir with
  | .error _ => return d
  | .ok config =>
    let d ← readInto d (config.serviceRoot dir) (readNode readTree)
    let d ← readInto d (config.domainRoot dir) readTree
    readInto d (config.modelsRoot dir) readTree

def succeeds (act : IO Unit) : IO Bool := do
  try
    act
    return true
  catch _ => return false

def writeResult (path text : String) : IO (Option Command.Failure) := do
  if let some dir := Disk.FilePath.parent? path then
    if dir ≠ "" then
      unless ← succeeds (IO.FS.createDirAll dir) do
        return some (.noOutputDir dir)
  unless ← succeeds (IO.FS.writeFile path text) do
    return some (.noOutput path)
  return none

def perform (c : Command) : IO (Option Command.Failure) := do
  match c.loadProject (← readDisk c) Go.File.parse with
  | .error failure => return some failure
  | .ok project =>
    let text := c.content project
    match c.output with
    | some path => writeResult path text
    | none =>
      IO.print text
      return none

end RouteDoc

def main (args : List String) : IO UInt32 := do
  match RouteDoc.Command.parse args with
  | .ok command =>
    match ← RouteDoc.perform command with
    | none => return 0
    | some failure =>
      IO.eprintln ("Error: " ++ failure.message)
      return 1
  | .error refusal =>
    let (text, wanted) := refusal.text
    if wanted then
      IO.print text
      return 0
    else
      IO.eprint text
      return 2
