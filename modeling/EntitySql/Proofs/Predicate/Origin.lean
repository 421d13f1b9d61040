import EntitySql.Proofs.Predicate.Mention
import EntitySql.Proofs.Sql.Placeholder

/-!
# Where mentions come from

What a statement mentions comes from the names of its tables and columns, from the values
written into its text, and from its parameters, whose names consist of word characters.
-/

namespace EntitySql

open Sql (Mention)

namespace Sql

/-- What is mentioned comes from these tables, columns, members, arguments and parameters. -/
def Mention.DrawnFrom (dialect : Dialect) (tables columns : List String)
    (members arguments : List Value) (parameters : List String) : Mention → Prop
  | table name => name ∈ tables
  | column owner name => (∀ table ∈ owner, table ∈ tables) ∧ name ∈ columns
  | entry owner name => (∀ table ∈ owner, table ∈ tables) ∧ name ∈ columns
  | joined owner name => owner ∈ tables ∧ name ∈ columns
  | unnamed name => name ∈ members ∧ name.plainText ∈ columns ∧
      (∀ text, name ≠ .text text) ∧ (dialect.identifierOf name).isOk = true
  | parameter name => name ∈ parameters ∧ (Operand.parameter name).Readable
  | call function => Dialect.isFunctionName function.name = true ∧
      ∀ argument ∈ function.arguments, argument ∈ arguments
  | identity owner name => owner ∈ tables ∧ name ∈ columns

namespace Mention.DrawnFrom

variable {dialect : Dialect} {mention : Mention} {tables columns parameters : List String}
variable {members arguments : List Value}

theorem mono (drawn : mention.DrawnFrom dialect tables columns members arguments parameters)
    {moreTables moreColumns moreParameters : List String} {moreMembers moreArguments : List Value}
    (tableOf : tables ⊆ moreTables) (columnOf : columns ⊆ moreColumns)
    (memberOf : members ⊆ moreMembers) (argumentOf : arguments ⊆ moreArguments)
    (parameterOf : parameters ⊆ moreParameters) :
    mention.DrawnFrom dialect moreTables moreColumns moreMembers moreArguments moreParameters := by
  cases mention with
  | table name => exact tableOf drawn
  | column owner name => exact ⟨fun table named => tableOf (drawn.1 table named), columnOf drawn.2⟩
  | entry owner name => exact ⟨fun table named => tableOf (drawn.1 table named), columnOf drawn.2⟩
  | joined owner name => exact ⟨tableOf drawn.1, columnOf drawn.2⟩
  | unnamed name => exact ⟨memberOf drawn.1, columnOf drawn.2.1, drawn.2.2⟩
  | parameter name => exact ⟨parameterOf drawn.1, drawn.2⟩
  | call function =>
      exact ⟨drawn.1, fun argument isArgument => argumentOf (drawn.2 argument isArgument)⟩
  | identity owner name => exact ⟨tableOf drawn.1, columnOf drawn.2⟩

/-- Members that are texts are always found by their names. -/
theorem of_texts (drawn : mention.DrawnFrom dialect tables columns members arguments parameters)
    (texts : ∀ name ∈ members, ∃ text, name = .text text) :
    mention.DrawnFrom dialect tables columns [] arguments parameters := by
  cases mention with
  | unnamed name =>
      obtain ⟨text, rfl⟩ := texts name drawn.1
      exact absurd rfl (drawn.2.2.1 text)
  | _ => exact drawn

/-- Names that are not quoted and legible values are written in the dialect. -/
theorem unquoted
    (drawn : mention.DrawnFrom dialect tables columns members arguments parameters)
    (tablesUnquoted : ∀ name ∈ tables, dialect.Unquoted name)
    (columnsUnquoted : ∀ name ∈ columns, dialect.Unquoted name)
    (membersLegible : ∀ value ∈ members, value.isLegible = true)
    (argumentsLegible : ∀ value ∈ arguments, value.isLegible = true) :
    mention.Unquoted dialect := by
  have owned {owner : Option String} (named : ∀ table ∈ owner, table ∈ tables) :
      ∀ table ∈ owner, dialect.Unquoted table :=
    fun table isOwner => tablesUnquoted table (named table isOwner)
  cases mention with
  | table name => exact tablesUnquoted name drawn
  | column owner name => exact ⟨owned drawn.1, columnsUnquoted name drawn.2⟩
  | entry owner name => exact ⟨owned drawn.1, columnsUnquoted name drawn.2⟩
  | joined owner name => exact ⟨tablesUnquoted owner drawn.1, columnsUnquoted name drawn.2⟩
  | unnamed name => exact ⟨membersLegible name drawn.1, columnsUnquoted _ drawn.2.1⟩
  | parameter name => exact drawn.2
  | call function =>
      exact fun argument member => argumentsLegible argument (drawn.2 argument member)
  | identity owner name => trivial

end Mention.DrawnFrom

end Sql

namespace Scope

variable {scope : Scope} {metadata : Metadata} {tables columns bound : List String}
variable {members arguments : List Value} {name : Value} {mention : Mention}

/-- A member is written by its column, or as the value that names it. -/
theorem mentionOf_drawn (known : scope.metadata = some metadata)
    (qualified : ∀ owner ∈ scope.qualifier, owner ∈ tables)
    (stored : (metadata.columnOf name).plainText ∈ columns) (isMember : name ∈ members)
    (isMention : scope.mentionOf name = .ok mention) :
    mention.DrawnFrom scope.dialect tables columns members arguments bound := by
  unfold mentionOf at isMention
  split at isMention
  · rename_i content
    obtain ⟨column, found, rfl⟩ := mentionOf_text isMention
    obtain ⟨_, rfl⟩ := columnOf_eq_ok known found
    exact ⟨qualified, stored⟩
  · rename_i notText
    have itself : metadata.columnOf name = name := by
      unfold Metadata.columnOf
      split
      · exact absurd rfl (notText _)
      · rfl
    rw [itself] at stored
    split at isMention
    · cases isMention
      exact ⟨qualified, stored⟩
    · cases rendered : scope.dialect.identifierOf name with
      | error fault =>
          rw [rendered] at isMention
          cases isMention
      | ok identifier =>
          rw [rendered] at isMention
          cases isMention
          exact ⟨isMember, stored, notText, by simp [rendered, Except.isOk, Except.toBool]⟩

theorem parameter_drawn {parameter : String} (isParameter : mention.parameter? = some parameter)
    (isBound : parameter ∈ bound) (readable : (Sql.Operand.parameter parameter).Readable) :
    mention.DrawnFrom scope.dialect tables columns members arguments bound := by
  cases mention with
  | parameter name =>
      cases isParameter
      exact ⟨isBound, readable⟩
  | _ => cases isParameter

/-- What mentions the columns of members and parameters comes from them. -/
theorem columns_drawn {mentions : List Mention} {names : List String}
    (known : scope.metadata = some metadata)
    (qualified : ∀ owner ∈ scope.qualifier, owner ∈ tables)
    (stored : ∀ name ∈ members, (metadata.columnOf name).plainText ∈ columns)
    (parameters : mentions.filterMap (·.parameter?) = names)
    (areBound : ∀ name ∈ names, name ∈ bound ∧ ∃ number, name = Parameters.generatedName number)
    (areColumns : ∀ mention ∈ mentions, mention.parameter? = none →
      ∃ name ∈ members, scope.mentionOf name = .ok mention) :
    ∀ mention ∈ mentions,
      mention.DrawnFrom scope.dialect tables columns members arguments bound := by
  intro mention member
  cases isParameter : mention.parameter? with
  | none =>
      obtain ⟨name, isMember, isMention⟩ := areColumns mention member isParameter
      exact mentionOf_drawn known qualified (stored name isMember) isMember isMention
  | some parameter =>
      have listed : parameter ∈ names := by
        rw [← parameters]
        exact List.mem_filterMap.mpr ⟨mention, member, isParameter⟩
      obtain ⟨isBound, number, rfl⟩ := areBound parameter listed
      exact parameter_drawn isParameter isBound
        ⟨Parameters.generatedName_ne_empty number, Parameters.isWord_generatedName number⟩

end Scope

end EntitySql
