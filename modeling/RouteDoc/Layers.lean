import RouteDoc.Go.TypeText
import RouteDoc.KeyMap
import RouteDoc.Text.Basic

/-! Business layers: the types behind the handlers, and the result types of their methods. -/
namespace RouteDoc
open Go

def layerSuffix : String := "BusinessLayer"

def isLayerName (name : String) : Bool := layerSuffix.toList.isSuffixOf name.toList

/-- Result types of methods as text, by package, layer type and method. -/
structure Layers where
  methods : KeyMap (KeyMap (KeyMap (List String))) := {}

/-- The first result that is no error. -/
def primaryResult? (results : List String) : Option String :=
  results.find? fun t => t != "error" && !".error".toList.isSuffixOf t.toList

/-- One type for each result, also where results share one. -/
def Go.FuncDecl.resultTypes (d : FuncDecl) : List String :=
  d.results.flatMap fun f => List.replicate (max f.names.length 1) f.type.render

namespace Layers

def add (l : Layers) (package type method : String) (results : List String) : Layers :=
  let types := (l.methods.get? package).getD {}
  let methods := ((types.get? type).getD {}).insert method results
  ⟨l.methods.insert package (types.insert type methods)⟩

def typesOf (files : List File) : List String :=
  (files.flatMap fun f => f.types.map (·.name)).filter isLayerName

def addMethod (types : List String) (package : String) (l : Layers) (d : FuncDecl) : Layers :=
  match d.receiverType? with
  | some type =>
    if types.contains type then l.add package type d.name d.resultTypes else l
  | none => l

def addPackage (l : Layers) (files : List File) : Layers :=
  let types := typesOf files
  files.foldl (fun l f => f.functions.foldl (addMethod types f.package) l) l

def results? (l : Layers) (package type method : String) : Option (List String) :=
  (l.methods.get? package).bind fun types =>
    (types.get? type).bind fun methods => methods.get? method

/-- The result type of a method. Where the package has no such method, the first package in order
that has it on a layer of the same name answers. -/
def resultType? (l : Layers) (package type method : String) : Option String :=
  let found := match l.results? package type method with
    | some results => some results
    | none => l.methods.keys.findSome? (l.results? · type method)
  found.bind primaryResult?

/-- The result type of a method called through a field of type such as `*pkg.Type`. -/
def fieldCall? (l : Layers) (fieldType method : String) : Option String := do
  let (package, type) ← Text.cutAt? (· == '.') (fieldType.toList.dropWhile (· == '*'))
  if type.contains '.' then none
  else l.resultType? (String.ofList package) (String.ofList type) method

def methodCount (l : Layers) : Nat :=
  (l.methods.values.flatMap fun types => types.values.flatMap KeyMap.keys).length

def isEmpty (l : Layers) : Bool := l.methods.isEmpty

end Layers

end RouteDoc
