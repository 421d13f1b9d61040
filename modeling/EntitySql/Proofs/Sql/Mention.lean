import EntitySql.Condition
import EntitySql.Dialect.Mutation
import Mathlib.Data.List.Forall2

/-!
# What statements mention

The text of a statement consists of plain words, in which nothing is quoted and no
placeholder stands, and of what it mentions: tables, columns, parameters and function
calls, each kept apart from what follows it.
-/

namespace EntitySql.Sql

/-- Something that a statement names, apart from its spelling. -/
inductive Mention where
  | table (name : String)
  | column (owner : Option String) (name : String)
  | entry (owner : Option String) (name : String)
  | joined (owner name : String)
  | unnamed (name : Value)
  | parameter (name : String)
  | call (function : TableFunction)
  | identity (owner name : String)
  deriving Repr

namespace Mention

def text (dialect : Dialect) : Mention → String
  | table name => dialect.tableText name
  | column owner name => dialect.columnText owner name
  | entry owner name => dialect.selectEntry owner name
  | joined owner name => dialect.tableText (owner ++ "." ++ name)
  | unnamed name => ((dialect.identifierOf name).map Value.plainText).toOption.getD ""
  | parameter name => dialect.placeholder name
  | call function => (dialect.functionCall function).toOption.getD ""
  | identity owner name => dialect.identityExpression owner name

/-- The column that is named. -/
def column? : Mention → Option String
  | column _ name => some name
  | entry _ name => some name
  | joined _ name => some name
  | identity _ name => some name
  | _ => none

/-- The parameter that is named. -/
def parameter? : Mention → Option String
  | parameter name => some name
  | _ => none

end Mention

/-- A letter, a digit, a blank, or one of the marks in and between the words of a statement. -/
def isPlain (c : Char) : Bool :=
  c.isAlphanum || [' ', '_', ',', '(', ')', '=', '!', '<', '>', '-', '*', ';'].contains c

/-- What is mentioned before the text does not run into it. -/
def Separated (text : String) : Prop := ∀ c ∈ text.toList.head?, c ∈ [' ', ',', ')', ';']

instance (text : String) : Decidable (Separated text) :=
  Option.decidableForallMem text.toList.head?

/-- A text consists of plain words and of these mentions in this order. -/
inductive Composed (dialect : Dialect) : String → List Mention → Prop where
  | nil : Composed dialect "" []
  | words (words : String) {text : String} {mentions : List Mention}
      (plain : words.toList.all isPlain = true) (rest : Composed dialect text mentions) :
      Composed dialect (words ++ text) mentions
  | mention (mention : Mention) {text : String} {mentions : List Mention}
      (separated : Separated text) (rest : Composed dialect text mentions) :
      Composed dialect (mention.text dialect ++ text) (mention :: mentions)

variable {dialect : Dialect} {text later : String} {mentions others : List Mention}

@[simp]
theorem separated_empty : Separated "" := by simp [Separated]

theorem Separated.append (separated : Separated text) (laterSeparated : Separated later) :
    Separated (text ++ later) := by
  unfold Separated at *
  rw [String.toList_append]
  cases start : text.toList with
  | nil => simpa using laterSeparated
  | cons c rest => simpa [start] using separated

theorem Separated.append_of_ne (separated : Separated text) (nonempty : text ≠ "") :
    Separated (text ++ later) := by
  unfold Separated at *
  rw [String.toList_append]
  cases start : text.toList with
  | nil => exact absurd (String.toList_eq_nil_iff.mp start) nonempty
  | cons c rest => simpa [start] using separated

namespace Composed

/-- Composed texts, the second of which is separated, are composed together. -/
theorem append (first : Composed dialect text mentions) (next : Composed dialect later others)
    (separated : Separated later) : Composed dialect (text ++ later) (mentions ++ others) := by
  induction first with
  | nil => simpa using next
  | words words plain _ ih =>
      rw [String.append_assoc]
      exact .words words plain ih
  | mention mention textSeparated _ ih =>
      rw [String.append_assoc]
      exact .mention mention (textSeparated.append separated) ih

theorem of_words (plain : text.toList.all isPlain = true) : Composed dialect text [] := by
  have composed : Composed dialect (text ++ "") [] := .words text plain .nil
  simpa using composed

theorem of_mention (mention : Mention) : Composed dialect (mention.text dialect) [mention] := by
  have composed : Composed dialect (mention.text dialect ++ "") [mention] :=
    .mention mention separated_empty .nil
  simpa using composed

end Composed

end EntitySql.Sql
