import RouteDoc.Disk.Path
import RouteDoc.KeyMap

/-! Directory trees, and reading and writing files in them. -/
namespace RouteDoc.Disk

/-- A file, or a directory with its entries in the order of their names. The bytes of a file that is
not valid UTF-8 are not kept. -/
inductive Node where
  | file (text : Option String)
  | dir (entries : List (String × Node))

namespace Node

/-- A directory with the given entries, of which the last counts where several have one name. -/
def ofList (entries : List (String × Node)) : Node := .dir (KeyMap.ofList entries).entries

def isFile : Node → Bool
  | .file _ => true
  | .dir _ => false

def isDir (n : Node) : Bool := !n.isFile

def at? : List String → Node → Option Node
  | [], n => some n
  | name :: names, .dir entries => (entries.lookup name).bind (at? names)
  | _ :: _, .file _ => none

/-- Puts a node at a place below another, with the directories on the way to it. -/
def put : Node → List String → Node → Node
  | _, [], node => node
  | .dir entries, name :: names, node =>
    .dir (insertEntry name (((entries.lookup name).getD (.dir [])).put names node) entries)
  | .file _, name :: names, node => .dir [(name, (Node.dir []).put names node)]

end Node

inductive Fault where
  | notFound
  | notADirectory
  | isADirectory
  | invalidData
deriving Repr, DecidableEq

def Fault.message : Fault → String
  | .notFound => "No such file or directory"
  | .notADirectory => "Not a directory"
  | .isADirectory => "Is a directory"
  | .invalidData => "stream did not contain valid UTF-8"

/-- The place of a file or directory: the names on the way to it from the root. -/
abbrev Place := List String

end Disk

/-- A directory tree, and the directory at which relative paths start. -/
structure Disk where
  root : Disk.Node := .dir []
  current : Disk.Place := []

namespace Disk

/-- One step along a path. Only a directory can be stepped from. -/
def step (d : Disk) (place : Place) (name : String) : Except Fault Place :=
  match d.root.at? place with
  | none => throw .notFound
  | some (.file _) => throw .notADirectory
  | some (.dir entries) =>
    if name = "" || name = "." then return place
    else if name = ".." then return place.dropLast
    else if (entries.lookup name).isSome then return place ++ [name]
    else throw .notFound

def start (d : Disk) (p : FilePath) : Place := if FilePath.isAbsolute p then [] else d.current

def pieces (p : FilePath) : List String := (p.toList.splitOn '/').map String.ofList

def locate (d : Disk) (p : FilePath) : Except Fault Place :=
  if p = "" then throw .notFound else (pieces p).foldlM d.step (d.start p)

def find (d : Disk) (p : FilePath) : Except Fault Node := do
  match d.root.at? (← d.locate p) with
  | some n => return n
  | none => throw .notFound

def find? (d : Disk) (p : FilePath) : Option Node := (d.find p).toOption

def isFile (d : Disk) (p : FilePath) : Bool := (d.find? p).any Node.isFile

def isDir (d : Disk) (p : FilePath) : Bool := (d.find? p).any Node.isDir

def read (d : Disk) (p : FilePath) : Except Fault String := do
  match ← d.find p with
  | .file (some text) => return text
  | .file none => throw .invalidData
  | .dir _ => throw .isADirectory

def entries (d : Disk) (p : FilePath) : List (String × Node) :=
  match d.find? p with
  | some (.dir entries) => entries
  | _ => []

/-- A step that makes the directory it leads to. -/
def stepMaking (s : Disk × Place) (name : String) : Except Fault (Disk × Place) :=
  match s.1.step s.2 name with
  | .ok place => return (s.1, place)
  | .error .notFound =>
    let place := s.2 ++ [name]
    return ({ s.1 with root := s.1.root.put place (.dir []) }, place)
  | .error fault => throw fault

def makeDirs (d : Disk) (p : FilePath) : Except Fault Disk := do
  let (d, place) ← (pieces p).foldlM stepMaking (d, d.start p)
  if (d.root.at? place).any Node.isDir then return d else throw .notADirectory

def write (d : Disk) (p : FilePath) (text : String) : Except Fault Disk := do
  let name := (pieces p).getLastD ""
  let dir ← (pieces p).dropLast.foldlM d.step (d.start p)
  if ["", ".", ".."].contains name then throw .isADirectory
  match d.root.at? dir with
  | some (.dir entries) =>
    if (entries.lookup name).any Node.isDir then throw .isADirectory
    return { d with root := d.root.put (dir ++ [name]) (.file (some text)) }
  | _ => throw .notADirectory

end Disk

end RouteDoc
