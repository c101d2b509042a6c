import RouteDoc.Endpoint.Basic
import RouteDoc.Go.Literal

/-! What a chain of middleware demands of a caller. -/
namespace RouteDoc

/-- Calls whose arguments are permission scopes. The flag says that commas separate several. -/
def permissionCalls : List (String × Bool) :=
  [("hasPermission(", false), ("AllFeaturesOf(", true), ("AnyFeaturesOf(", true),
   ("RequirePermissions(", true), ("RequireAnyPermission(", true)]

def permissionNames : List (String × String) :=
  [("session_manager_models.SuperadminRoleFeature", "superadmin")]

/-- The text before the parenthesis that closes one already open, `depth` more being open inside. -/
def beforeClosing? (depth : Nat) : List Char → Option (List Char)
  | [] => none
  | c :: cs =>
    if c = '(' then (beforeClosing? (depth + 1) cs).map (c :: ·)
    else if c = ')' then
      match depth with
      | 0 => some []
      | depth + 1 => (beforeClosing? depth cs).map (c :: ·)
    else (beforeClosing? depth cs).map (c :: ·)

/-- The scope that an argument names, without blanks and quotes around it. -/
def permission? (arg : List Char) : Option String :=
  let arg := Text.trim arg
  let arg := (Go.between? '"' arg <|> Go.between? '\'' arg).getD arg
  if arg = [] then none
  else
    let name := String.ofList arg
    some ((permissionNames.lookup name).getD name)

def callPermissions (middleware call : List Char) (several : Bool) : List String :=
  match (Text.afterFirst? call middleware).bind (beforeClosing? 0) with
  | none => []
  | some args => (if several then args.splitOn ',' else [args]).filterMap permission?

def permissions (middleware : String) : List String :=
  permissionCalls.flatMap fun (call, several) =>
    callPermissions middleware.toList call.toList several

def addNew (known : List String) (s : String) : List String :=
  if known.contains s then known else known ++ [s]

/-- The requirement of a chain of middleware. Without a check of authentication, or with one that
asks for its absence, nothing is required. -/
def security (middleware : List String) : List Requirement :=
  let mentions (word : String) : Bool :=
    middleware.any fun m => Text.contains m.toList word.toList
  if mentions "NotAuthenticated" || !mentions "Authenticated" then []
  else
    let scopes := (middleware.flatMap permissions).foldl addNew []
    if scopes.isEmpty then [⟨bearerScheme, []⟩] else [⟨permissionsScheme, scopes⟩]

end RouteDoc
