import RouteDoc.Error
import RouteDoc.Yaml.Read

/-! The configuration of a project: where its parts are found, and what the document says about the
API as a whole. -/
namespace RouteDoc

structure Config where
  serviceDir : String := "internal/ms"
  /-- How the name of a service's directory starts. -/
  serviceMark : String := "ms_"
  domainDir : String := "internal/domain"
  /-- How the name of a business layer's directory ends. -/
  layerSuffix : String := "_business_layer"
  modelsDir : String := "pkg/models"
  title : String := "API"
  servers : List String := []
  authorizeUrl : String := ""
  tokenUrl : String := ""
deriving Repr, DecidableEq

namespace Yaml.Value

def text? : Value → Option String
  | .scalar text _ => some text
  | _ => none

/-- The texts of a sequence of scalars; nothing counts as an empty sequence. -/
def texts? (v : Value) : Option (List String) :=
  match v with
  | .sequence items => items.mapM text?
  | v => if v.isNull then some [] else none

end Yaml.Value

namespace Config
open Yaml (Value)

def keys : List String :=
  ["microservice_dir", "microservice_prefix", "domain_dir", "business_layer_suffix", "models_dir",
   "openapi_title", "openapi_servers", "oauth_authorize", "oauth_token"]

/-- Takes over one entry of a configuration file. Unknown keys are passed over. -/
def set? (c : Config) (key : String) (v : Value) : Option Config :=
  match key with
  | "microservice_dir" => v.text?.map fun s => { c with serviceDir := s }
  | "microservice_prefix" => v.text?.map fun s => { c with serviceMark := s }
  | "domain_dir" => v.text?.map fun s => { c with domainDir := s }
  | "business_layer_suffix" => v.text?.map fun s => { c with layerSuffix := s }
  | "models_dir" => v.text?.map fun s => { c with modelsDir := s }
  | "openapi_title" => v.text?.map fun s => { c with title := s }
  | "openapi_servers" => v.texts?.map fun ss => { c with servers := ss }
  | "oauth_authorize" => v.text?.map fun s => { c with authorizeUrl := s }
  | "oauth_token" => v.text?.map fun s => { c with tokenUrl := s }
  | _ => some c

/-- The entries of a mapping by the texts of their keys, none of the known keys twice. -/
def entries? (known : List String) : Value → Option (List (String × Value))
  | .mapping entries => do
    let entries ← entries.mapM fun (k, v) => k.text?.map (·, v)
    if known.all fun key => (entries.filter (·.1 == key)).length ≤ 1 then some entries else none
  | _ => none

def ofSection? (v : Value) : Option Config :=
  if v.isNull then some {}
  else (entries? keys v).bind fun entries => entries.foldlM (fun c (key, v) => c.set? key v) {}

/-- The settings of a document, which stand in its section `generate`. -/
def ofDocument? (v : Value) : Option Config :=
  if v.isNull then some {}
  else (entries? ["generate"] v).bind fun entries =>
    match entries.lookup "generate" with
    | some v => ofSection? v
    | none => some {}

def ofText? (text : String) : Option Config := (Yaml.read? text).bind ofDocument?

/-- The names under which a configuration is looked for, the first file found counting. -/
def fileNames : List String := [".openapi-from-go.yaml", "openapi-from-go.yaml"]

def loadFile (d : Disk) (path : Disk.FilePath) : Except Error Config :=
  match d.read path with
  | .error fault => throw (.config path fault.message)
  | .ok text =>
    match ofText? text with
    | some c => return c
    | none => throw (.config path "not a configuration")

/-- The configuration of the project in a directory; without a file it is the default one. -/
def load (d : Disk) (dir : Disk.FilePath) : Except Error Config :=
  match (fileNames.map (Disk.FilePath.join dir)).find? d.isFile with
  | some path => loadFile d path
  | none => return {}

def serviceRoot (c : Config) (dir : Disk.FilePath) : Disk.FilePath :=
  Disk.FilePath.join dir c.serviceDir

def domainRoot (c : Config) (dir : Disk.FilePath) : Disk.FilePath :=
  Disk.FilePath.join dir c.domainDir

def modelsRoot (c : Config) (dir : Disk.FilePath) : Disk.FilePath :=
  Disk.FilePath.join dir c.modelsDir

end Config

end RouteDoc
