import RouteDoc.Config
import RouteDoc.Disk.Scan
import RouteDoc.Document.Draft
import RouteDoc.Endpoint.Describe
import RouteDoc.Route.Extract

/-! Projects: what is known from the Go files of a directory tree, the routes of all services, and the
document that they give. A file that cannot be read or parsed is passed over, so that it never spoils
what the other files say. -/
namespace RouteDoc

namespace Disk
variable (d : Disk) (parse : Go.Parser)

def parseFile (p : FilePath) : Except Error Go.File :=
  match d.read p with
  | .error fault => throw (.ofFault fault)
  | .ok text =>
    match parse text with
    | .ok file => return file
    | .error place => throw (.parse p (Go.syntaxError place))

def parsedFiles (paths : List FilePath) : List (FilePath × Go.File) :=
  paths.filterMap fun p => (d.parseFile parse p).toOption.map (p, ·)

def packageFiles (dir : FilePath) : List Go.File :=
  (d.parsedFiles parse (d.sourcesIn dir)).map (·.2)

def symbols (dir : FilePath) : Symbols := .ofFiles (d.packageFiles parse dir)

def models (root : FilePath) : ModelIndex :=
  .ofFiles root (d.parsedFiles parse (d.scan isSource root).files)

/-- The business layers of a tree of packages: those in directories whose name ends as given. -/
def layers (root : FilePath) (suffix : String) : Except Error Layers :=
  if d.isDir root then
    return (d.dirsEndingWith suffix root).foldl
      (fun l dir => l.addPackage (d.packageFiles parse dir)) {}
  else throw (.disk .notFound ("domain directory not found: " ++ root))

end Disk

open Disk (FilePath Service)

/-- A project: a directory, its configuration, and the parser by which its files are read. -/
structure Project where
  disk : Disk
  parse : Go.Parser
  dir : FilePath
  config : Config

namespace Project

def load (d : Disk) (parse : Go.Parser) (dir : FilePath) : Except Error Project := do
  return ⟨d, parse, dir, ← Config.load d dir⟩

def services (p : Project) (filters : List String) : List Service :=
  p.disk.services (p.config.serviceRoot p.dir) p.config.serviceMark filters

def controllers (p : Project) (s : Service) : List (FilePath × Go.File) :=
  p.disk.parsedFiles p.parse (p.disk.scan Disk.isController s.path).files

def serviceRoutes (p : Project) (s : Service) : List (FilePath × List Route) :=
  (p.controllers s).map fun (path, file) => (path, file.routes s.name)

def foundRoutes (p : Project) (filters : List String) : List (FilePath × List Route) :=
  (p.services filters).flatMap p.serviceRoutes

/-- The routes of the selected services in the order in which they are found. -/
def scanned (p : Project) (filters : List String) : List Route :=
  (p.foundRoutes filters).flatMap (·.2)

def precedes (a b : Route) : Bool :=
  a.microservice < b.microservice || (a.microservice == b.microservice && !(b.path < a.path))

/-- All routes of the selected services. Those with the same service and path stay in the order in
which they are found. -/
def inventory (p : Project) (filters : List String) : List Route :=
  (p.scanned filters).mergeSort precedes

end Project

structure Options where
  title : Option String := none
  version : String := "1.0.0"
  description : Option String := none
  /-- Texts of which the name of a service must contain one. -/
  filters : List String := []
deriving Repr, DecidableEq

/-- A word with a capital first letter, the others being kept. -/
def titleWord : List Char → List Char
  | [] => []
  | c :: cs => Text.upperChar c ++ cs

def serviceTitle (name mark : String) : String :=
  let cs := name.toList
  let words := (((mark.toList.isPrefixOf? cs).getD cs).splitOn '_').filter (· ≠ [])
  if words.isEmpty then "API"
  else String.intercalate " " (words.map fun w => String.ofList (titleWord w)) ++ " API"

/-- A title that differs from the configured one wins. Otherwise a single filter names the
document. -/
def Options.effectiveTitle (o : Options) (c : Config) : String :=
  let title := o.title.getD c.title
  if title ≠ c.title then title
  else match o.filters with
    | [name] => serviceTitle name c.serviceMark
    | _ => title

namespace Project

/-- Business layers are not needed: without a domain directory there are none. -/
def layers (p : Project) : Layers :=
  match p.disk.layers p.parse (p.config.domainRoot p.dir) p.config.layerSuffix with
  | .ok layers => layers
  | .error _ => {}

def models (p : Project) : ModelIndex := p.disk.models p.parse (p.config.modelsRoot p.dir)

/-- What the handlers of a file see: the package that the file belongs to, and what all share. -/
def contextOf (p : Project) (layers : Layers) (models : ModelIndex) (file : FilePath) : Context :=
  ⟨p.disk.symbols p.parse ((Disk.FilePath.parent? file).getD ""), layers, models⟩

def addFile (p : Project) (layers : Layers) (models : ModelIndex)
    (s : Draft × SchemaTable) (file : FilePath × List Route) : Draft × SchemaTable :=
  let (endpoints, table) := (p.contextOf layers models file.1).describeAll file.2 s.2
  (endpoints.foldl Draft.addEndpoint s.1, table)

def draft (p : Project) (o : Options) : Draft :=
  { Draft.start with
    info := ⟨o.effectiveTitle p.config, o.description, o.version⟩
    servers := p.config.servers }

def document (p : Project) (o : Options) : Document :=
  let (draft, table) :=
    (p.foundRoutes o.filters).foldl (p.addFile p.layers p.models) (p.draft o, {})
  (draft.addPermissions p.config.authorizeUrl p.config.tokenUrl).finish table

end Project

end RouteDoc
