import RouteDoc.Command.Line
import RouteDoc.Document.Json
import RouteDoc.Json.Text
import RouteDoc.Project
import RouteDoc.Yaml.Text

/-! Running a command on a directory tree. Its result is JSON, YAML or a table in plain text with
aligned columns. -/
namespace RouteDoc

namespace Text

def padTo (width : Nat) (s : String) : String :=
  s ++ String.ofList (List.replicate (width - s.length) ' ')

/-- The widths of columns wide enough for a further row. -/
def widen : List Nat → List String → List Nat
  | [], _ => []
  | ws, [] => ws
  | w :: ws, cell :: cells => max w cell.length :: widen ws cells

def tableLine (widths : List Nat) (cells : List String) : String :=
  let line := String.intercalate "  " (List.zipWith padTo widths cells)
  String.ofList (trimEnd line.toList) ++ "\n"

def table (headers : List String) (rows : List (List String)) : String :=
  let widths := rows.foldl widen (headers.map String.length)
  let dashes := widths.map fun w => String.ofList (List.replicate w '-')
  String.join ((headers :: dashes :: rows).map (tableLine widths))

end Text

def Route.row (r : Route) : List String :=
  [r.microservice, r.method.name, r.path, r.handler, String.intercalate ", " r.middleware]

def routeTable (routes : List Route) : String :=
  Text.table ["MICROSERVICE", "METHOD", "PATH", "HANDLER", "MIDDLEWARE"] (routes.map Route.row)
    ++ "\n" ++ toString routes.length ++ " endpoints\n"

def requirementText (scheme : String) (scopes : List String) : String :=
  if scopes.isEmpty then scheme else scheme ++ "(" ++ String.intercalate " " scopes ++ ")"

def Operation.row (path : String) (m : Method) (op : Operation) : List String :=
  let requirements := op.security.flatMap fun r =>
    r.entries.map fun (scheme, scopes) => requirementText scheme scopes
  [m.name, path, op.operationId, String.intercalate ", " op.tags,
    String.intercalate " " op.responses.keys, String.intercalate ", " requirements]

def Document.table (d : Document) : String :=
  Text.table ["METHOD", "PATH", "OPERATION", "TAGS", "RESPONSES", "SECURITY"]
      (d.operations.map fun (path, m, op) => op.row path m)
    ++ "\n" ++ toString d.operationCount ++ " operations, " ++ toString d.schemas.size ++ " schemas\n"

def Format.routes (f : Format) (routes : List Route) : String :=
  match f with
  | .yaml => Yaml.document (.array (routes.map Route.toJson))
  | .json => (Json.array (routes.map Route.toJson)).text
  | .table => routeTable routes

def Format.document (f : Format) (d : Document) : String :=
  match f with
  | .yaml => Yaml.document d.toJson
  | .json => d.toJson.text
  | .table => d.table

namespace Command
open Disk (FilePath)

inductive Failure where
  | noProject (path : FilePath)
  | notADirectory (path : FilePath)
  | badConfig (path : FilePath)
  | noOutputDir (path : FilePath)
  | noOutput (path : FilePath)
deriving Repr, DecidableEq

def Failure.message : Failure → String
  | .noProject p => "Project path does not exist: " ++ p
  | .notADirectory p => "Project path is not a directory: " ++ p
  | .badConfig p => "Failed to load configuration from " ++ p
  | .noOutputDir p => "Failed to create directory: " ++ p
  | .noOutput p => "Failed to write to file: " ++ p

def currentPath (d : Disk) : FilePath := "/" ++ String.intercalate "/" d.current

/-- The project that a command is about: the one that it names, or that of the current directory. -/
def projectDir (c : Command) (d : Disk) : FilePath := c.project.getD (currentPath d)

def loadProject (c : Command) (d : Disk) (parse : Go.Parser) : Except Failure Project := do
  let dir := c.projectDir d
  match d.find? dir with
  | none => throw (.noProject dir)
  | some (.file _) => throw (.notADirectory dir)
  | some (.dir _) =>
    match Project.load d parse dir with
    | .ok p => return p
    | .error _ => throw (.badConfig dir)

def content (c : Command) (p : Project) : String :=
  match c.document with
  | none => c.format.routes (p.inventory c.services)
  | some (title, version, description) =>
    c.format.document
      (p.document { title, version, description := some description, filters := c.services })

/-- Writes a file, with the directory that it belongs in. -/
def save (d : Disk) (path : FilePath) (text : String) : Except Failure Disk := do
  let d ← match FilePath.parent? path with
    | none => pure d
    | some "" => pure d
    | some dir =>
      match d.makeDirs dir with
      | .ok d => pure d
      | .error _ => throw (.noOutputDir dir)
  match d.write path text with
  | .ok d => return d
  | .error _ => throw (.noOutput path)

/-- Runs a command. The result is the tree afterwards and what is printed. -/
def run (c : Command) (d : Disk) (parse : Go.Parser) : Except Failure (Disk × String) := do
  let text := c.content (← c.loadProject d parse)
  match c.output with
  | some path => return (← save d path text, "")
  | none => return (d, text)

end Command

end RouteDoc
