import EntitySql.Form.Reading
import EntitySql.Options
import EntitySql.Selection

/-!
# The forms of the library's records

How options, columns, metadata and selections are read from named fields.  As
documented for models that forbid extra fields, all fields are validated before
the record is refused, a name that is not expected is an issue of its own, and
checks of the record as a whole are made only once its fields are in order.
-/

namespace EntitySql

open Form

/-- Reads statement options, whose fields have a public name and a plain one. -/
def Options.ofFields (fields : Fields) : Checked Options :=
  (fun tableName selectAfterMutation _ => ({ tableName, selectAfterMutation } : Options)) <$>
    fields.aliased "TableName" "table_name" (readNullable readText) none <*>
    fields.aliased "SelectAfterMutation" "select_after_mutation" readBool false <*>
    fields.expectOnly
      [fields.nameUsed "TableName" "table_name",
        fields.nameUsed "SelectAfterMutation" "select_after_mutation"]

def readGeneration (value : Value) : Checked Generation :=
  let spelling :=
    match value with
    | .text content => some content
    | .bytes content => decoded? content
    | _ => none
  match spelling.bind Generation.ofSpelling with
  | some mode => .valid mode
  | none => .issue "enum"

def Column.ofFields (fields : Fields) : Checked Column :=
  (fun name column key generated notMapped _ =>
      ({ name, column, key, generated, notMapped } : Column)) <$>
    fields.required "name" readText <*>
    fields.optional "column" (readNullable readText) none <*>
    fields.optional "key" readBool false <*>
    fields.optional "generated" readGeneration .none <*>
    fields.optional "not_mapped" readBool false <*>
    fields.expectOnly ["name", "column", "key", "generated", "not_mapped"]

def Metadata.ofFields (fields : Fields) : Checked Metadata :=
  (fun name table columns _ => ({ name, table, columns } : Metadata)) <$>
    fields.required "name" readText <*>
    fields.optional "table" (readNullable readText) none <*>
    fields.optional "columns" (readList (readForm Column.ofFields)) [] <*>
    fields.expectOnly ["name", "table", "columns"]

def SortTerm.ofFields (fields : Fields) : Checked SortTerm :=
  (fun column descending _ => ({ column, descending } : SortTerm)) <$>
    fields.required "column" readText <*>
    fields.optional "descending" readBool false <*>
    fields.expectOnly ["column", "descending"]

/-- Reads the kind of a join, of which there is only one. -/
def readJoinKind (value : Value) : Checked Unit :=
  match value with
  | .text spelling => if spelling == "INNER" then .valid () else .issue "literal_error"
  | _ => .issue "literal_error"

def Join.ofFields (fields : Fields) : Checked Join :=
  (fun table leftColumn rightColumn _ _ => ({ table, leftColumn, rightColumn } : Join)) <$>
    fields.required "table" readText <*>
    fields.required "left_column" readText <*>
    fields.required "right_column" readText <*>
    fields.optional "kind" readJoinKind () <*>
    fields.expectOnly ["table", "left_column", "right_column", "kind"]

def TableFunction.ofFields (fields : Fields) : Checked TableFunction :=
  (fun name arguments _ => ({ name, arguments } : TableFunction)) <$>
    fields.required "name" readText <*>
    fields.optional "args" readSequence [] <*>
    fields.expectOnly ["name", "args"]

/-- A selection reads from a table or from a function, and not from both. -/
def chooseSource (table : Option String) (function : Option TableFunction) : Checked Source :=
  match table, function with
  | some _, some _ =>
    .invalid [⟨[], "value_error:A SELECT reads from a table or a function, not both."⟩]
  | none, none => .invalid [.noSource]
  | some name, none => .valid (.table name)
  | none, some source => .valid (.function source)

/-- Reads a selection.  Its source is checked only when every field is in order. -/
def Selection.ofFields (fields : Fields) : Checked Selection :=
  let read :=
    (fun table function columns condition primaryKeys skip take orderBy joins (_ : Unit) =>
        (table, function, fun source =>
          ({ source, columns, condition, primaryKeys, skip, take, orderBy, joins } :
            Selection))) <$>
      fields.optional "table" (readNullable readText) none <*>
      fields.optional "function" (readNullable (readForm TableFunction.ofFields)) none <*>
      fields.optional "columns" (readList readText) [] <*>
      fields.optional "where_sql" (readNullable readText) none <*>
      fields.optional "primary_keys" (readList readText) [] <*>
      fields.optional "skip" (readNullable readCount) none <*>
      fields.optional "take" (readNullable readCount) none <*>
      fields.optional "order_by" (readList (readForm SortTerm.ofFields)) [] <*>
      fields.optional "joins" (readList (readForm Join.ofFields)) [] <*>
      fields.expectOnly
        ["table", "function", "columns", "where_sql", "primary_keys", "skip", "take", "order_by",
          "joins"]
  read.refine fun (table, function, complete) => complete <$> chooseSource table function

/-- Reads a selection whose counts do not have too many digits to be written. -/
def Selection.writable (fields : Fields) : Except Fault Selection := do
  let selection ← (Selection.ofFields fields).toExcept
  let tooLong (count : Nat) : Bool := Nat.pow 10 Text.Numeral.longest ≤ count
  if selection.skip.any tooLong || selection.take.any tooLong then
    throw (.tooManyDigits none)
  else return selection

/-- Changes an attribute of a record.  Its fields never change; names with an
underscore in front are no fields, and what is stored under them is not part
of the record.  Three of them mean something to every record: its type, which
no value can be, the table of its attributes, and a reference to it that
cannot be set. -/
def setAttribute (name value : Value) : Except Fault Unit :=
  match name, value with
  | .text "__class__", given => .error (.misfit (.notType given))
  | .text "__weakref__", _ => .error (.lacking (.readOnly "__weakref__"))
  | .text "__dict__", .dict _ => .ok ()
  | .text "__dict__", given => .error (.misfit (.notAttributes given))
  | .text content, _ =>
    if content.toList.head? == some '_' then .ok ()
    else .error (.invalid [⟨[content], "frozen_instance"⟩])
  | other, _ => .error (.misfit (.notName other))

end EntitySql
