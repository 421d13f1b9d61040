import EntitySql.Association
import EntitySql.Dialect
import EntitySql.Fault

/-!
# The dialect registry

Dialects are made by target name and options.  New targets may be added, and
a built-in target may be given another meaning.
-/

namespace EntitySql

/-- The backends before their options are chosen. -/
inductive BackendKind where
  | sqlServer
  | postgres
  | sqlite
  deriving DecidableEq, Repr

namespace BackendKind

def defaultStyle : BackendKind → PlaceholderStyle
  | sqlite => .colon
  | _ => .atSign

def optionNames : BackendKind → List String
  | postgres => ["param_style", "case_folding"]
  | _ => ["param_style"]

/-- The placeholder style among the options.  An empty choice is no choice. -/
def styleOption (kind : BackendKind) (options : List (String × Value)) :
    Except Fault PlaceholderStyle :=
  match Association.find options "param_style" with
  | none => .ok kind.defaultStyle
  | some given =>
    if given.isGiven then Choice.paramStyle.pick PlaceholderStyle.ofSpelling given
    else .ok kind.defaultStyle

/-- The folding among the options; an empty choice is refused. -/
def foldingOption (options : List (String × Value)) : Except Fault Folding :=
  match Association.find options "case_folding" with
  | none => .ok .keep
  | some given => Choice.caseFolding.pick Folding.ofSpelling given

def create (kind : BackendKind) (options : List (String × Value)) : Except Fault Dialect :=
  match (options.map (·.1)).find? fun option => !kind.optionNames.contains option with
  | some option => .error (.misfit (.unknownOption option))
  | none => do
    let style ← kind.styleOption options
    match kind with
    | sqlServer => .ok ⟨.sqlServer, style⟩
    | sqlite => .ok ⟨.sqlite, style⟩
    | postgres =>
      let folding ← foldingOption options
      .ok ⟨.postgres folding, style⟩

end BackendKind

/-- The backends by target name.  A target may go without a name. -/
structure Registry where
  targets : Association (Option String) BackendKind
  deriving Repr

namespace Registry

def builtIn : Registry :=
  ⟨[(some "sqlserver", .sqlServer), (some "postgres", .postgres), (some "sqlite", .sqlite)]⟩

def register (registry : Registry) (target : Option String) (kind : BackendKind) : Registry :=
  ⟨Association.put registry.targets target kind⟩

/-- The names of the targets in alphabetical order, in which one without a
name has no place. -/
def targetNames (registry : Registry) : Except Fault (List String) :=
  match registry.targets.mapM (·.1) with
  | some names => .ok (names.mergeSort fun first second => decide (first ≤ second))
  | none => .error (.misfit (.notName .null))

def kind (registry : Registry) (target : Option String) : Except Fault BackendKind :=
  match Association.find registry.targets target with
  | some kind => .ok kind
  | none => do
    let names ← registry.targetNames
    .error (.configuration (.unknownTarget (target.getD Value.null.plainText) names))

/-- Makes the dialect of a target.  The target itself is not one of the options. -/
def create (registry : Registry) (target : Option String) (options : List (String × Value)) :
    Except Fault Dialect := do
  if Association.has options "name" then .error (.misfit (.unknownOption "name"))
  else
    let kind ← registry.kind target
    kind.create options

end Registry

end EntitySql
