import RouteDoc.Disk.Tree

/-! What can go wrong with the files of a project. -/
namespace RouteDoc

inductive Error where
  | disk (fault : Disk.Fault) (message : String)
  | parse (file : Disk.FilePath) (message : String)
  | config (path : Disk.FilePath) (message : String)
  | serialization (message : String)
deriving Repr, DecidableEq

namespace Error

def ofFault (fault : Disk.Fault) : Error := .disk fault fault.message

def ofJson (message : String) : Error := .serialization ("JSON serialization failed: " ++ message)

def ofYaml (message : String) : Error := .serialization ("YAML serialization failed: " ++ message)

def message : Error → String
  | .disk _ m => "IO error: " ++ m
  | .parse file m => "Parse error in " ++ file ++ ": " ++ m
  | .config path m => "Invalid configuration " ++ path ++ ": " ++ m
  | .serialization m => "Serialization error: " ++ m

/-- Only faults of the disk are errors in their own right that an error is made from. -/
def hasCause : Error → Bool
  | .disk _ _ => true
  | _ => false

end Error

end RouteDoc
