import RouteDoc.Text.Basic

/-! Paths of files and directories. A path is kept as it was written; two paths with the same
components lead to the same place. -/
namespace RouteDoc.Disk

abbrev FilePath := String

namespace FilePath

def isAbsolute (p : FilePath) : Bool := p.toList.head? == some '/'

/-- The names along a path, with a slash in front for an absolute one. Empty names are skipped, and
so is a dot that does not stand first. -/
def components (p : FilePath) : List String :=
  let names := (p.toList.splitOn '/').map String.ofList
  if isAbsolute p then "/" :: names.filter fun n => n != "" && n != "."
  else match names with
    | "." :: rest => "." :: rest.filter fun n => n != "" && n != "."
    | names => names.filter fun n => n != "" && n != "."

def same (p q : FilePath) : Bool := components p == components q

def isUnder (p dir : FilePath) : Bool := (components dir).isPrefixOf (components p)

/-- A path below a directory; an absolute one stays as it is. -/
def join (dir p : FilePath) : FilePath :=
  if isAbsolute p || dir == "" then p
  else if dir.toList.getLast? == some '/' then dir ++ p
  else dir ++ "/" ++ p

/-- Drops slashes and dots after the last name of a reversed path; the root stays. -/
def trimTail : List Char → List Char
  | ['/'] => ['/']
  | '/' :: cs => trimTail cs
  | '.' :: '/' :: cs => trimTail ('/' :: cs)
  | cs => cs

/-- The directory that holds what the path leads to. The root and the empty path have none. -/
def parent? (p : FilePath) : Option FilePath :=
  match trimTail p.toList.reverse with
  | [] => none
  | ['/'] => none
  | cs => some (String.ofList (trimTail (cs.dropWhile (· != '/'))).reverse)

def name (p : FilePath) : String := (components p).getLastD ""

end FilePath

end RouteDoc.Disk
