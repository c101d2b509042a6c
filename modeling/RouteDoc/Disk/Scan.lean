import RouteDoc.Disk.Tree
import RouteDoc.Text.Case

/-! Searching directory trees for Go files. A walk goes depth first, takes the entries of each
directory in the order of their names and leaves out directories that hold no sources of the
project. -/
namespace RouteDoc.Disk

structure Entry where
  path : FilePath
  name : String
  node : Node

/-- Directories that a walk does not enter: hidden ones, vendored code and test data. -/
def isSkipped (name : String) (node : Node) : Bool :=
  node.isDir && (name.toList.head? == some '.' || name == "vendor" || name == "testdata")

mutual
/-- All entries below a node, which itself is not among them. -/
def Node.content (path : FilePath) : Node → List Entry
  | .file _ => []
  | .dir entries => walkEntries path entries

def walkEntries (dir : FilePath) : List (String × Node) → List Entry
  | [] => []
  | (name, node) :: rest =>
    let path := FilePath.join dir name
    (if isSkipped name node then [] else ⟨path, name, node⟩ :: node.content path)
      ++ walkEntries dir rest
end

/-- The name by which a walk knows its start: the last name of the path, or the whole path where it
ends in none. -/
def startName (p : FilePath) : String :=
  match (FilePath.components p).getLast? with
  | some name => if ["/", ".", ".."].contains name then p else name
  | none => p

/-- The start of a walk and all entries below it, or none if there is no such path. -/
def walk? (d : Disk) (p : FilePath) : Option (List Entry) :=
  (d.find? p).map fun node => ⟨p, startName p, node⟩ :: node.content p

def isSource (name : String) : Bool :=
  ".go".toList.isSuffixOf name.toList && !"_test.go".toList.isSuffixOf name.toList

def isController (name : String) : Bool :=
  let lower := Text.lower name.toList
  isSource name &&
    ["controller", "http", "setup"].any fun word => Text.contains lower word.toList

/-- The files found by a walk, and the number of paths that could not be visited. -/
structure Scan where
  files : List FilePath
  warnings : Nat := 0

/-- The files at or below a path with a name that is accepted. -/
def scan (d : Disk) (accepts : String → Bool) (p : FilePath) : Scan :=
  match d.walk? p with
  | some es => { files := (es.filter fun e => e.node.isFile && accepts e.name).map (·.path) }
  | none => { files := [], warnings := 1 }

def sourcesIn (d : Disk) (dir : FilePath) : List FilePath :=
  ((d.entries dir).filter fun (name, node) => node.isFile && isSource name).map fun (name, _) =>
    FilePath.join dir name

def dirsEndingWith (d : Disk) (suffix : String) (p : FilePath) : List FilePath :=
  (((d.walk? p).getD []).filter fun e =>
    e.node.isDir && suffix.toList.isSuffixOf e.name.toList).map (·.path)

structure Service where
  name : String
  path : FilePath
deriving Repr, DecidableEq

/-- A name is selected by a list of filters that is empty or has one contained in the name. -/
def isSelected (filters : List String) (name : String) : Bool :=
  filters.isEmpty || filters.any fun f => Text.contains name.toList f.toList

/-- The selected services: the directories whose name starts with the mark of a service. -/
def services (d : Disk) (dir : FilePath) (mark : String) (filters : List String) : List Service :=
  ((d.entries dir).filter fun (name, node) =>
    node.isDir && mark.toList.isPrefixOf name.toList && isSelected filters name).map
      fun (name, _) => ⟨name, FilePath.join dir name⟩

end RouteDoc.Disk
