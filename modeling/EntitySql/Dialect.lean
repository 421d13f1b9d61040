import EntitySql.Text.Casing
import EntitySql.Text.Quoted

/-!
# Dialects

A dialect is a backend together with the way it writes placeholders.  It
holds no state; everything a renderer needs to know is decided here.
-/

namespace EntitySql

/-- How a placeholder for a named parameter is written. -/
inductive PlaceholderStyle where
  | atSign
  | percent
  | colon
  deriving DecidableEq, Repr

namespace PlaceholderStyle

def all : List PlaceholderStyle := [atSign, percent, colon]

def spelling : PlaceholderStyle → String
  | atSign => "at"
  | percent => "pyformat"
  | colon => "named"

def ofSpelling (spelling : String) : Option PlaceholderStyle :=
  all.find? (·.spelling == spelling)

def render (style : PlaceholderStyle) (parameter : String) : String :=
  match style with
  | atSign => "@" ++ parameter
  | percent => "%(" ++ parameter ++ ")s"
  | colon => ":" ++ parameter

end PlaceholderStyle

/-- How member names are turned into stored identifiers. -/
inductive Folding where
  | keep
  | lower
  | lowerSnake
  deriving DecidableEq, Repr

namespace Folding

def all : List Folding := [keep, lower, lowerSnake]

def spelling : Folding → String
  | keep => "none"
  | lower => "lower"
  | lowerSnake => "lower_snake"

def ofSpelling (spelling : String) : Option Folding :=
  all.find? (·.spelling == spelling)

def apply (folding : Folding) (name : String) : String :=
  match folding with
  | keep => name
  | lower => Text.lowercase name
  | lowerSnake => Text.snakeCase name

end Folding

inductive Backend where
  | sqlServer
  | postgres (folding : Folding)
  | sqlite
  deriving DecidableEq, Repr

structure Dialect where
  backend : Backend
  style : PlaceholderStyle
  deriving DecidableEq, Repr

namespace Dialect

def name (dialect : Dialect) : String :=
  match dialect.backend with
  | .sqlServer => "sqlserver"
  | .postgres _ => "postgres"
  | .sqlite => "sqlite"

/-- Whether several statements go to the driver in one call. -/
def batches (dialect : Dialect) : Bool :=
  match dialect.backend with
  | .sqlServer => true
  | _ => false

/-- The characters around a quoted identifier. -/
def delimiters (dialect : Dialect) : Text.Delimiters :=
  match dialect.backend with
  | .sqlServer => ⟨'[', ']'⟩
  | _ => ⟨'"', '"'⟩

/-- The folding of names; only one backend folds them. -/
def folding (dialect : Dialect) : Folding :=
  match dialect.backend with
  | .postgres folding => folding
  | _ => .keep

/-- The form in which the backend stores a name. -/
def fold (dialect : Dialect) (name : String) : String := dialect.folding.apply name

def placeholder (dialect : Dialect) (parameter : String) : String :=
  dialect.style.render parameter

def truthLiteral (dialect : Dialect) (truth : Bool) : String :=
  match dialect.backend, truth with
  | .sqlServer, true => "1"
  | .sqlServer, false => "0"
  | _, true => "TRUE"
  | _, false => "FALSE"

end Dialect

end EntitySql
