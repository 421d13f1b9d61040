import EntitySql.Predicate.Display
import EntitySql.Session.State

/-!
# Faults

Everything that can go wrong, as causes with the data their wording needs.
The causes fall into families; the wording of each family stands in one
function.
-/

namespace EntitySql

/-- Entity metadata or wiring that cannot support an operation. -/
inductive ConfigurationCause where
  | noMetadata (typeName : String)
  | unresolvedEntity
  | noKeys (name typeName : String)
  | noKeysForUpdate (name typeName : String)
  | nothingToUpdate (name typeName : String)
  | compositeKey (name typeName : String)
  | unknownTarget (name : String) (registered : List String)
  | deleteWithoutType
  deriving Repr

namespace ConfigurationCause

def message : ConfigurationCause → String
  | noMetadata typeName =>
    "Type '" ++ typeName ++ "' has no entity metadata. " ++
      "Decorate it with @entity or make it a dataclass or pydantic model."
  | unresolvedEntity => "Cannot resolve the entity type of the query."
  | noKeys name _ => "Entity '" ++ name ++ "' has no key columns."
  | noKeysForUpdate name _ =>
    "Entity '" ++ name ++ "' has no key columns; cannot update by key."
  | nothingToUpdate name _ => "Entity '" ++ name ++ "' has no updatable columns."
  | compositeKey name _ => "Entity '" ++ name ++ "' has a composite key; use get_by_keys."
  | unknownTarget name registered =>
    "Unsupported dialect target: '" ++ name ++ "'. Registered targets: " ++
      (Value.list (registered.map .text)).display ++ "."
  | deleteWithoutType => "A delete needs an entity type."

def entity : ConfigurationCause → Option String
  | noMetadata typeName => some typeName
  | noKeys _ typeName => some typeName
  | noKeysForUpdate _ typeName => some typeName
  | nothingToUpdate _ typeName => some typeName
  | compositeKey _ typeName => some typeName
  | _ => none

end ConfigurationCause

/-- An argument that is missing or malformed. -/
inductive ArgumentCause where
  | functionName (name : String)
  | negativeCount (parameter : String)
  | misplacedOrdering
  | missingKeys
  | missingKey (member : String)
  deriving Repr

namespace ArgumentCause

def message : ArgumentCause → String
  | functionName name => "Invalid function name '" ++ name ++ "'."
  | negativeCount parameter => "'" ++ parameter ++ "' must be a non-negative integer."
  | misplacedOrdering => "then_by must directly follow an ordering."
  | missingKeys => "Key values must not be None."
  | missingKey member => "Missing value for key '" ++ member ++ "'."

def argument : ArgumentCause → String
  | functionName _ => "function"
  | negativeCount parameter => parameter
  | misplacedOrdering => "member"
  | missingKeys => "keys"
  | missingKey member => member

end ArgumentCause

/-- A condition that has no meaning in SQL. -/
inductive ConditionCause where
  | shape (given : Value)
  | operandShape (given : Value)
  | operandCount (op : String)
  | predicateCount (op : String)
  | membershipShape (op : String)
  | membershipColumn (op : String)
  | unknownOperator (op : String)
  | notCollection
  | unmappedMember (member : String)
  | nullOrder (op : Comparator)
  | orientation
  | notSingleComparison
  | unsupported (predicate : Predicate)
  deriving Repr

def ConditionCause.message : ConditionCause → String
  | shape given => "Invalid predicate shape: " ++ given.display
  | operandShape given =>
    "Operand must be \x7b'col': ...\x7d or \x7b'value': ...\x7d, got " ++ given.display ++ "."
  | operandCount op => "'" ++ op ++ "' takes exactly two operands."
  | predicateCount op => "'" ++ op ++ "' takes two or more predicates."
  | membershipShape op => "'" ++ op ++ "' takes a column and a list of values."
  | membershipColumn op => "'" ++ op ++ "' must test a column."
  | unknownOperator op => "Unknown predicate operator '" ++ op ++ "'."
  | notCollection => "Membership test requires a collection of values."
  | unmappedMember member => "Member '" ++ member ++ "' is not mapped to a column."
  | nullOrder op => "Cannot compare with NULL using '" ++ op.token ++ "'."
  | orientation => "A comparison needs one member and one constant operand."
  | notSingleComparison => "Only a single binary comparison is supported here."
  | unsupported predicate => "Unsupported predicate: " ++ predicate.display

/-- A connection or transaction that is not in a usable state. -/
inductive ResourceCause where
  | disposed
  | closeDuringTransaction
  | beginDuring (phase : Phase)
  | nothingToRollBack
  | alreadyCompleted
  | notOpen
  deriving DecidableEq, Repr

def ResourceCause.message : ResourceCause → String
  | disposed => "The connection manager has been disposed."
  | closeDuringTransaction => "Cannot close the connection while a transaction is active."
  | beginDuring phase => "Cannot begin a transaction while " ++ phase.name ++ "."
  | nothingToRollBack => "No active transaction to roll back."
  | alreadyCompleted => "Transaction has already been completed."
  | notOpen => "The connection is not open."

/-- The closed sets of spellings that an option may be chosen from. -/
inductive Choice where
  | paramStyle
  | caseFolding
  | isolationLevel
  | comparator
  deriving DecidableEq, Repr

def Choice.name : Choice → String
  | paramStyle => "ParamStyle"
  | caseFolding => "CaseFolding"
  | isolationLevel => "IsolationLevel"
  | comparator => "ComparisonOp"

/-- One thing wrong with the fields of a form: where it is and of what kind. -/
structure Issue where
  path : List String
  kind : String
  deriving DecidableEq, Repr

def Issue.label (issue : Issue) : String :=
  ".".intercalate issue.path ++ ":" ++ issue.kind

def Issue.noSource : Issue :=
  ⟨[], "value_error:A SELECT needs a table or a function source."⟩

/-- A call whose arguments do not fit what is called. -/
inductive MisfitCause where
  | unknownOption (option : String)
  | missingMember (member : String)
  | unknownMember (member : String)
  | requiredAfterDefault (member : String)
  | memberName (name : String)
  | foreignBase (typeName : String)
  | notType (given : Value)
  | notAttributes (given : Value)
  | notIterable
  | notCondition
  | notName (given : Value)
  | notKey (given : Value)
  deriving Repr

/-- Something that does not have what is asked of it. -/
inductive LackingCause where
  | connectionGone
  | noType
  | noStorage (typeName : String)
  | noColumns (typeName : String)
  | readOnly (name : String)
  | notTextual (given : Value)
  | notMember (given : Predicate)
  deriving Repr

/-- What cannot be the default of a field because all instances would share
it: collections that can change, and members that a base keeps hidden. -/
inductive SharedKind where
  | list
  | dict
  | hidden
  deriving DecidableEq, Repr

namespace SharedKind

def name : SharedKind → String
  | list => "list"
  | dict => "dict"
  | hidden => "pydantic.fields.ModelPrivateAttr"

def ofValue : Value → Option SharedKind
  | .list _ => some list
  | .dict _ => some dict
  | _ => none

end SharedKind

/-- Anything that can go wrong in the sense of an ordinary exception, the
driver's and other collaborators' included.  Interrupts and requests to exit,
which are no such exceptions and pass handlers by, are left out. -/
inductive Fault where
  | configuration (cause : ConfigurationCause)
  | argument (cause : ArgumentCause)
  | condition (cause : ConditionCause)
  | resource (cause : ResourceCause)
  | manyRows (count : Nat)
  | unknownChoice (choice : Choice) (given : Value)
  | sharedDefault (member : String) (kind : SharedKind)
  | tooManyDigits (count : Option Nat)
  | invalid (issues : List Issue)
  | misfit (cause : MisfitCause)
  | lacking (cause : LackingCause)
  | nullCharacter
  | unwritable (name : String)
  | outOfRange (number : Int)
  | collaborator (text : String)
  deriving Repr

/-- The fault of a form in which something is wrong; issues are listed in
the alphabetical order of their labels. -/
def Fault.ofIssues (issues : List Issue) : Fault :=
  .invalid (issues.mergeSort fun first second => decide (first.label ≤ second.label))

def Fault.message : Fault → Option String
  | configuration cause => some cause.message
  | argument cause => some cause.message
  | condition cause => some cause.message
  | resource cause => some cause.message
  | manyRows count => some ("Expected at most one row, got " ++ toString count ++ ".")
  | unknownChoice choice given => some (given.display ++ " is not a valid " ++ choice.name)
  | sharedDefault member kind =>
    some ("mutable default <class '" ++ kind.name ++ "'> for field " ++ member ++
      " is not allowed: use default_factory")
  | tooManyDigits count =>
    some ("Exceeds the limit (" ++ toString Text.Numeral.longest ++
      " digits) for integer string conversion" ++
      (count.elim "" fun number => ": value has " ++ toString number ++ " digits") ++
      "; use sys.set_int_max_str_digits() to increase the limit")
  | nullCharacter => some "type name must not contain null characters"
  | invalid _ => none
  | misfit _ => none
  | lacking _ => none
  | unwritable _ => none
  | outOfRange _ => none
  | collaborator text => some text

/-- A chain of steps answers if each of them does. -/
theorem Fault.bind_eq_ok {α β : Type} {first : Except Fault α} {next : α → Except Fault β}
    {answer : β} :
    (first >>= next) = .ok answer ↔ ∃ value, first = .ok value ∧ next value = .ok answer := by
  cases first <;> simp [bind, Except.bind]

theorem Fault.map_eq_ok {α β : Type} {result : Except Fault α} {view : α → β} {answer : β} :
    result.map view = .ok answer ↔ ∃ value, result = .ok value ∧ view value = answer := by
  cases result <;> simp [Except.map]

/-- What is seen of an answer comes from an answer. -/
theorem Fault.ok_of_seen {α β : Type} {result : Except Fault α} {view : α → β} {seen : β}
    (given : result.toOption.map view = some seen) :
    ∃ value, result = .ok value ∧ view value = seen := by
  cases result with
  | error fault => cases given
  | ok value => exact ⟨value, rfl, Option.some.inj given⟩

def Choice.pick {α : Type} (choice : Choice) (ofSpelling : String → Option α) (given : Value) :
    Except Fault α :=
  match given with
  | .text spelling =>
    match ofSpelling spelling with
    | some value => .ok value
    | none => .error (.unknownChoice choice given)
  | _ => .error (.unknownChoice choice given)

end EntitySql
