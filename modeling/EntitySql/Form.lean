import EntitySql.Fault

/-!
# Forms

A form is a set of named fields that are read one by one.  Reading a form
reports everything that is wrong with it and not only the first thing.
-/

namespace EntitySql

/-- What reading gave: a value, or everything that is wrong. -/
inductive Checked (α : Type) where
  | valid (value : α)
  | invalid (issues : List Issue)
  deriving Repr

namespace Checked

variable {α β : Type}

/-- Applies a checked function to a checked value, collecting the issues of both. -/
def apply (function : Checked (α → β)) (argument : Checked α) : Checked β :=
  match function, argument with
  | valid function, valid value => valid (function value)
  | valid _, invalid issues => invalid issues
  | invalid issues, valid _ => invalid issues
  | invalid issues, invalid others => invalid (issues ++ others)

instance : Applicative Checked where
  pure := valid
  seq := fun function argument => apply function (argument ())

def issue (kind : String) : Checked α := invalid [⟨[], kind⟩]

def below (step : String) : Checked α → Checked α
  | valid value => valid value
  | invalid issues => invalid (issues.map fun issue => { issue with path := step :: issue.path })

/-- A further check of a value that was read. -/
def refine (checked : Checked α) (next : α → Checked β) : Checked β :=
  match checked with
  | valid value => next value
  | invalid issues => invalid issues

/-- Reads every item, the path of an item being its number. -/
def each (reader : Value → Checked α) (number : Nat) : List Value → Checked (List α)
  | [] => valid []
  | item :: rest =>
    (List.cons <$> (reader item).below (toString number)) <*> each reader (number + 1) rest

/-- The value, or one fault with the issues in alphabetical order. -/
def toExcept : Checked α → Except Fault α
  | valid value => .ok value
  | invalid issues => .error (.ofIssues issues)

end Checked

/-- The fields that a form was filled in with.  They are named by texts;
other names are an issue of the form. -/
abbrev Fields := List (Value × Value)

namespace Fields

variable {α : Type}

def find (fields : Fields) (name : String) : Option Value :=
  (fields.find? fun field =>
    match field.1 with
    | .text given => given == name
    | _ => false).map (·.2)

def optional (fields : Fields) (name : String) (reader : Value → Checked α) (default : α) :
    Checked α :=
  match fields.find name with
  | some value => (reader value).below name
  | none => .valid default

def required (fields : Fields) (name : String) (reader : Value → Checked α) : Checked α :=
  match fields.find name with
  | some value => (reader value).below name
  | none => .invalid [⟨[name], "missing"⟩]

/-- The name under which a field is given: the public one, if it is there. -/
def nameUsed (fields : Fields) (publicName name : String) : String :=
  if (fields.find publicName).isSome then publicName else name

/-- Reads a field under its public name or, if that is absent, its plain name. -/
def aliased (fields : Fields) (publicName name : String) (reader : Value → Checked α)
    (default : α) : Checked α :=
  fields.optional (fields.nameUsed publicName name) reader default

/-- The step of a path to a field whose name is no text; truth values count as numbers. -/
def stepOf : Value → String
  | .bool truth => if truth then "1" else "0"
  | name => name.display

def nameIssue (expected : List String) (name : Value) : Option Issue :=
  match name with
  | .text given => if expected.contains given then none else some ⟨[given], "extra_forbidden"⟩
  | other => some ⟨[stepOf other], "invalid_key"⟩

/-- Refuses every field that is not expected. -/
def expectOnly (fields : Fields) (expected : List String) : Checked Unit :=
  match fields.filterMap fun field => nameIssue expected field.1 with
  | [] => .valid ()
  | issues => .invalid issues

end Fields

end EntitySql
