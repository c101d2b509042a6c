import RouteDoc.Disk.Path
import RouteDoc.Text.Basic

/-! The command line. -/
namespace RouteDoc

inductive Format where
  | yaml
  | json
  | table
deriving Repr, DecidableEq

def Format.ofName? : String → Option Format
  | "yaml" => some .yaml
  | "yml" => some .yaml
  | "json" => some .json
  | "table" => some .table
  | _ => none

namespace Command

inductive Refusal where
  | help
  | missingSubcommand
  | version
  | invalidSubcommand
  | unknownArgument
  | invalidValue
  | argumentConflict
  | tooManyValues
deriving Repr, DecidableEq

inductive Subcommand where
  | endpoints
  | spec
deriving Repr, DecidableEq

inductive Setting where
  | project
  | service
  | output
  | format
  | title
  | apiVersion
  | description
deriving Repr, DecidableEq

inductive Wish where
  | help
  | verbose
  | setting (s : Setting)
deriving Repr, DecidableEq

/-- Options by their long names. Those about the document itself belong to `spec`. -/
def wishOfName? (sub : Subcommand) (name : String) : Option Wish :=
  match name, sub with
  | "help", _ => some .help
  | "verbose", _ => some .verbose
  | "project", _ => some (.setting .project)
  | "ms", _ => some (.setting .service)
  | "output", _ => some (.setting .output)
  | "format", _ => some (.setting .format)
  | "title", .spec => some (.setting .title)
  | "api-version", .spec => some (.setting .apiVersion)
  | "description", .spec => some (.setting .description)
  | _, _ => none

def wishOfLetter? : Char → Option Wish
  | 'h' => some .help
  | 'v' => some .verbose
  | 'p' => some (.setting .project)
  | 'o' => some (.setting .output)
  | 'f' => some (.setting .format)
  | _ => none

structure State where
  project : Option String := none
  services : List String := []
  output : Option String := none
  format : Option Format := none
  title : Option String := none
  apiVersion : Option String := none
  description : Option String := none
  verbose : Bool := false
  /-- An option that is not taken over yet, with its value once that is there. -/
  pending : Option (Setting × Option String) := none

/-- A setting may be given once. -/
def once {α : Type} (old : Option α) (new : Except Refusal α) : Except Refusal (Option α) :=
  if old.isSome then throw .argumentConflict else new.map some

def pathValue (v : String) : Except Refusal String :=
  if v = "" then throw .invalidValue else return v

def formatValue (v : String) : Except Refusal Format :=
  match Format.ofName? v with
  | some f => return f
  | none => throw .invalidValue

/-- Takes over a setting. Only services may be given several times. -/
def State.take (s : State) (o : Setting) (v : String) : Except Refusal State := do
  match o with
  | .project => return { s with project := ← once s.project (pathValue v) }
  | .service => return { s with services := s.services ++ [v] }
  | .output => return { s with output := ← once s.output (pathValue v) }
  | .format => return { s with format := ← once s.format (formatValue v) }
  | .title => return { s with title := ← once s.title (.ok v) }
  | .apiVersion => return { s with apiVersion := ← once s.apiVersion (.ok v) }
  | .description => return { s with description := ← once s.description (.ok v) }

def State.settle (s : State) : Except Refusal State :=
  match s.pending with
  | none => return s
  | some (_, none) => throw .invalidValue
  | some (o, some v) => { s with pending := none }.take o v

def State.flag (s : State) (help : Bool) : Except Refusal State := do
  let s ← s.settle
  if help then throw .help
  else if s.verbose then throw .argumentConflict
  else return { s with verbose := true }

/-- An option with a value, which either is attached to it or follows. -/
def State.setting (s : State) (o : Setting) (attached : Option String) : Except Refusal State := do
  let s ← s.settle
  match attached with
  | some v => s.take o v
  | none => return { s with pending := some (o, none) }

def longParts (cs : List Char) : String × Option String :=
  match Text.cutAt? (· == '=') cs with
  | some (name, value) => (String.ofList name, some (String.ofList value))
  | none => (String.ofList cs, none)

def State.long (sub : Subcommand) (s : State) (cs : List Char) : Except Refusal State :=
  let (name, attached) := longParts cs
  match wishOfName? sub name with
  | some (.setting o) => s.setting o attached
  | some wish => if attached.isSome then throw .tooManyValues else s.flag (wish = .help)
  | none => throw .unknownArgument

/-- Short options after their dash. The first that takes a value takes what follows it. -/
def State.short : State → List Char → Except Refusal State
  | s, [] => return s
  | s, c :: cs =>
    match wishOfLetter? c with
    | some (.setting o) =>
      let attached := match cs with
        | [] => none
        | '=' :: value => some (String.ofList value)
        | value => some (String.ofList value)
      s.setting o attached
    | some wish => do (← s.flag (wish = .help)).short cs
    | none => throw .unknownArgument

/-- Arguments that stand alone are the values of options; there are no others. After two dashes not
even these may follow. -/
def readArgs (sub : Subcommand) : State → List String → Except Refusal State
  | s, [] => s.settle
  | s, arg :: args =>
    match arg.toList with
    | ['-', '-'] => if args.isEmpty then s.settle else throw .unknownArgument
    | '-' :: '-' :: cs => do readArgs sub (← s.long sub cs) args
    | '-' :: c :: cs => do readArgs sub (← s.short (c :: cs)) args
    | _ =>
      match s.pending with
      | some (o, none) => readArgs sub { s with pending := some (o, some arg) } args
      | _ => throw .unknownArgument

end Command

structure Command where
  project : Option String
  services : List String
  output : Option String
  format : Format
  verbose : Bool
  /-- The title, version and description of a document; without them routes are listed. -/
  document : Option (Option String × String × String)
deriving Repr, DecidableEq

namespace Command

def ofState (sub : Subcommand) (s : State) : Command :=
  let (format, document) : Format × Option (Option String × String × String) := match sub with
    | .endpoints => (.json, none)
    | .spec => (.yaml, some (s.title, s.apiVersion.getD "1.0.0",
        s.description.getD "Auto-generated API documentation"))
  { project := s.project, services := s.services, output := s.output, verbose := s.verbose
    format := s.format.getD format, document }

def ofArgs (sub : Subcommand) (args : List String) : Except Refusal Command :=
  (readArgs sub {} args).map (ofState sub)

def helpOn : List String → Refusal
  | [] => .help
  | [name] => if ["endpoints", "spec", "help"].contains name then .help else .invalidSubcommand
  | _ => .invalidSubcommand

def leadingLong (cs : List Char) : Refusal :=
  let (name, attached) := longParts cs
  if name ≠ "help" && name ≠ "version" then .unknownArgument
  else if attached.isSome then .tooManyValues
  else if name = "help" then .help
  else .version

def leadingShort : Char → Refusal
  | 'h' => .help
  | 'V' => .version
  | _ => .unknownArgument

def parse : List String → Except Refusal Command
  | [] => throw .missingSubcommand
  | "endpoints" :: args => ofArgs .endpoints args
  | "spec" :: args => ofArgs .spec args
  | "help" :: args => throw (helpOn args)
  | "--" :: args =>
    match args with
    | [] => throw .missingSubcommand
    | arg :: _ =>
      if ["endpoints", "spec", "help"].contains arg then throw .unknownArgument
      else throw .invalidSubcommand
  | arg :: _ =>
    match arg.toList with
    | '-' :: '-' :: cs => throw (leadingLong cs)
    | '-' :: c :: _ => throw (leadingShort c)
    | _ => throw .invalidSubcommand

end Command

end RouteDoc
