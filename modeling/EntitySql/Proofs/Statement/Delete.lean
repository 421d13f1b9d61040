import EntitySql.Proofs.Predicate.Mention
import EntitySql.Proofs.Statement.Binding
import EntitySql.Samples
import EntitySql.Session.Work

/-!
# Restricted deletion

A DELETE by a predicate has a condition, and so has one by keys that name a member.  By
keys that name no member, as without a predicate and keys, all rows are deleted.
-/

namespace EntitySql

namespace Dialect

variable {dialect : Dialect}

theorem deleteLine_of_ne_empty {target condition : String} (given : condition ≠ "") :
    deleteLine target condition = "DELETE FROM " ++ target ++ " WHERE " ++ condition := by
  simp [deleteLine, whereSuffix, given, String.append_assoc]

end Dialect

namespace Statement

variable {dialect : Dialect} {metadata : Metadata} {options : Options}
variable {condition : Option Predicate} {keys : Option KeyValues}
variable {parameters reached : Parameters} {bound : List (String × String)}

/-- One value is bound for each member, under the name of its column. -/
theorem bindMembers_run {members : List (Value × Value)}
    (ran : bindMembers metadata members parameters = (.ok bound, reached)) :
    ∃ named : List (String × Value), members = namedEntries named ∧
      bindColumns (named.map fun entry => (metadata.columnNameOf entry.1, entry.2)) parameters =
        (.ok bound, reached) := by
  induction members generalizing parameters reached bound with
  | nil => exact ⟨[], rfl, ran⟩
  | cons member rest ih =>
      obtain ⟨name, value⟩ := member
      cases name with
      | text name =>
          obtain ⟨parameter, middle, firstRan, ran⟩ := Action.bind_eq_ok.mp ran
          obtain ⟨others, last, restRan, answered⟩ := Action.bind_eq_ok.mp ran
          obtain ⟨named, rfl, columnsRan⟩ := ih restRan
          exact ⟨(name, value) :: named, rfl, Action.bind_eq_ok.mpr ⟨_, _, firstRan,
            Action.bind_eq_ok.mpr ⟨_, _, columnsRan, answered⟩⟩⟩
      | _ => exact absurd ran Action.fail_ne_ok

/-- Each member is bound under the name of its column. -/
theorem columns_of_bindMembers {members : List (Value × Value)}
    (ran : bindMembers metadata members parameters = (.ok bound, reached)) :
    bound.map (fun pair => Value.text pair.1) =
      members.map fun member => metadata.columnOf member.1 := by
  obtain ⟨named, rfl, columnsRan⟩ := bindMembers_run ran
  have columns := columns_of_bindColumns columnsRan
  have texts := congrArg (List.map Value.text) columns
  simpa [namedEntries, Metadata.columnOf, Function.comp_def] using texts

/-- A DELETE has a condition, and there is nothing to warn of. -/
def IsRestricted (target sql : String) (warnings : List Warning) : Prop :=
  ∃ restriction, restriction ≠ "" ∧
    sql = "DELETE FROM " ++ target ++ " WHERE " ++ restriction ∧ warnings = []

/-- Neither a predicate nor a key is given. -/
def IsUnconditional (condition : Option Predicate) (keys : Option KeyValues) : Prop :=
  condition = none ∧ ∀ given ∈ keys, given.members = []

variable {sql : String} {warnings : List Warning}

theorem deleteText_restricted
    (ran : deleteText dialect metadata condition keys options parameters =
      (.ok (sql, warnings), reached))
    (conditional : ¬IsUnconditional condition keys) :
    IsRestricted (dialect.tableText (options.tableOr metadata.tableName)) sql warnings := by
  unfold deleteText at ran
  cases condition with
  | some predicate =>
      obtain ⟨whereText, last, rendered, ran⟩ := Action.bind_eq_ok.mp ran
      obtain ⟨written, rfl⟩ := Action.answer_eq_ok.mp ran
      obtain ⟨_, _, _, _, _, _, _, _, mentions⟩ :=
        Scope.render_gives dialect.style predicate rendered
      cases written
      have given := mentions.nonempty.1
      exact ⟨whereText, given, by simp [Dialect.writeDelete, Dialect.chosenCondition_some _ given,
        Dialect.deleteLine_of_ne_empty given], by simp [given]⟩
  | none =>
      obtain ⟨bound, last, boundRan, ran⟩ := Action.bind_eq_ok.mp ran
      obtain ⟨written, rfl⟩ := Action.answer_eq_ok.mp ran
      cases written
      have length_eq := congrArg List.length (columns_of_bindMembers boundRan)
      simp only [List.length_map] at length_eq
      have someBound : bound ≠ [] := by
        rintro rfl
        refine conditional ⟨rfl, fun given isGiven => ?_⟩
        obtain rfl : keys = some given := isGiven
        exact List.eq_nil_of_length_eq_zero length_eq.symm
      have somePairs : Association.ofPairs bound ≠ [] :=
        fun empty => someBound (Association.ofPairs_eq_nil_iff.mp empty)
      exact ⟨dialect.equations (Association.ofPairs bound), Dialect.equations_ne_empty somePairs,
        by simp [Dialect.writeDelete, Dialect.chosenCondition, Dialect.equations_ne_empty somePairs,
          Dialect.deleteLine_of_ne_empty], by simp [somePairs]⟩

theorem deleteText_unconditional (dialect : Dialect) (metadata : Metadata) (options : Options)
    (parameters : Parameters) (unconditional : IsUnconditional condition keys) :
    deleteText dialect metadata condition keys options parameters =
      (.ok ("DELETE FROM " ++ dialect.tableText (options.tableOr metadata.tableName),
        [.deleteWithoutWhere (options.tableOr metadata.tableName)]), parameters) := by
  obtain ⟨rfl, noMembers⟩ := unconditional
  have members : (keys.map KeyValues.members).getD [] = [] := by
    cases keys with
    | none => rfl
    | some given => exact noMembers given rfl
  have nothingBound : bindMembers metadata [] parameters = (.ok [], parameters) := rfl
  simp only [deleteText, members]
  rw [Action.bind_of_ok nothingBound]
  simp [Association.ofPairs, Dialect.writeDelete, Dialect.chosenCondition, Dialect.equations,
    Dialect.deleteLine, Dialect.whereSuffix, pure, Action.answer]

variable {type : EntityType} {compiled : Compiled}

theorem delete_eq_ok
    (accepted : delete dialect type condition keys options = .ok (compiled, warnings)) :
    ∃ metadata sql reached, type.metadata = .ok metadata ∧
      deleteText dialect metadata condition keys options {} = (.ok (sql, warnings), reached) ∧
      compiled = { sql, parameters := reached.entries, dialect := dialect.name } := by
  obtain ⟨metadata, isMetadata, assembled⟩ := Fault.bind_eq_ok.mp accepted
  obtain ⟨sql, reached, ran, compiled_eq⟩ := assemble_eq_ok.mp assembled
  exact ⟨metadata, sql, reached, isMetadata, ran, compiled_eq⟩

/-- The ways to delete the rows of a type by a predicate or by keys. -/
inductive DeletesRows (dialect : Dialect) (type : EntityType) (condition : Option Predicate)
    (keys : Option KeyValues) (options : Options) : Compiled → List Warning → Prop where
  | statement {compiled : Compiled} {warnings : List Warning}
      (accepted : delete dialect type condition keys options = .ok (compiled, warnings)) :
      DeletesRows dialect type condition keys options compiled warnings
  | query {query : Query} {compiled : Compiled} {warnings : List Warning}
      (sameDialect : query.dialect = dialect) (sameType : query.entity = some type)
      (accepted : query.compileDelete condition none keys options = .ok (compiled, warnings)) :
      DeletesRows dialect type condition keys options compiled warnings
  | work {plan : Plan}
      (accepted : (Work.deleteRows type condition keys options).plan dialect = .ok plan) :
      DeletesRows dialect type condition keys options plan.compiled plan.warnings

theorem DeletesRows.delete_eq
    (deletes : DeletesRows dialect type condition keys options compiled warnings) :
    delete dialect type condition keys options = .ok (compiled, warnings) := by
  cases deletes with
  | statement accepted => exact accepted
  | query sameDialect sameType accepted =>
      simpa only [Query.compileDelete, sameType, sameDialect] using accepted
  | work accepted =>
      obtain ⟨outcome, deleted, planned⟩ := Fault.bind_eq_ok.mp accepted
      cases planned
      exact deleted

/-- However rows are deleted, exactly without a predicate and without a member in the keys
are all rows of the table deleted, with a warning. -/
theorem deletesRows_restricted (dialect : Dialect) (type : EntityType)
    (condition : Option Predicate) (keys : Option KeyValues) (options : Options)
    (compiled : Compiled) (warnings : List Warning)
    (deletes : DeletesRows dialect type condition keys options compiled warnings) :
    ∃ metadata, type.metadata = .ok metadata ∧
      let table := options.tableOr metadata.tableName
      (condition = none ∧ (∀ given ∈ keys, given.members = []) →
        compiled.sql = "DELETE FROM " ++ dialect.tableText table ∧ compiled.parameters = [] ∧
          warnings = [.deleteWithoutWhere table]) ∧
      (¬(condition = none ∧ ∀ given ∈ keys, given.members = []) →
        ∃ restriction, restriction ≠ "" ∧ warnings = [] ∧
          compiled.sql = "DELETE FROM " ++ dialect.tableText table ++ " WHERE " ++ restriction) := by
  obtain ⟨metadata, sql, reached, isMetadata, ran, rfl⟩ := delete_eq_ok deletes.delete_eq
  refine ⟨metadata, isMetadata, fun unconditional => ?_, fun conditional => ?_⟩
  · rw [deleteText_unconditional dialect metadata options {} unconditional] at ran
    cases ran
    exact ⟨rfl, rfl, rfl⟩
  · obtain ⟨restriction, given, sql_eq, noWarning⟩ := deleteText_restricted ran conditional
    exact ⟨restriction, given, noWarning, sql_eq⟩

/-- An object with one attribute that is visible from outside. -/
def citizenKeys : KeyValues := .object [("SSN", .text "a"), ("_cached", .bool true)]

theorem citizenKeys_delete :
    (delete ⟨.sqlServer, .atSign⟩ Samples.citizen none (some citizenKeys)).toOption.map (·.1.sql) =
      some "DELETE FROM [Citizen] WHERE [SSN] = @SSN" := by
  decide +kernel

theorem citizen_deletesRows_restricted :
    ∃ compiled warnings restriction,
      DeletesRows ⟨.sqlServer, .atSign⟩ Samples.citizen none (some citizenKeys) {} compiled warnings ∧
      restriction ≠ "" ∧ compiled.sql = "DELETE FROM [Citizen] WHERE " ++ restriction := by
  obtain ⟨⟨compiled, warnings⟩, accepted, _⟩ := Fault.ok_of_seen citizenKeys_delete
  have deletes : DeletesRows ⟨.sqlServer, .atSign⟩ Samples.citizen none (some citizenKeys) {}
      compiled warnings := .statement accepted
  obtain ⟨metadata, isMetadata, _, restricted⟩ :=
    deletesRows_restricted _ Samples.citizen none (some citizenKeys) {} _ _ deletes
  cases isMetadata
  have someMember : citizenKeys.members.length ≠ 0 := by decide +kernel
  obtain ⟨restriction, given, _, sql_eq⟩ := restricted fun unconditional =>
    someMember (by rw [unconditional.2 citizenKeys rfl]; rfl)
  exact ⟨compiled, warnings, restriction, deletes, given, sql_eq⟩

/-- Keys are given, and yet every row is deleted. -/
theorem citizen_deletes_all_by_empty_keys :
    ∃ compiled warnings,
      delete ⟨.sqlServer, .atSign⟩ Samples.citizen none (some (.mapping [])) =
        .ok (compiled, warnings) ∧
      compiled.sql = "DELETE FROM [Citizen]" :=
  ⟨_, _, rfl, rfl⟩

/-- The primary key of a type consists of its key columns, of which there are some. -/
theorem primaryKey_eq_ok {typeName : String} {columns : List Column}
    (found : metadata.primaryKey typeName = .ok columns) :
    columns = metadata.keyColumns ∧ columns ≠ [] := by
  unfold Metadata.primaryKey at found
  split at found
  · cases found
  · rename_i someKeys
    cases found
    exact ⟨rfl, someKeys⟩

theorem deleteEntity_eq_ok {entity : Instance}
    (accepted : deleteEntity dialect entity options = .ok (compiled, warnings)) :
    ∃ metadata, entity.type.metadata = .ok metadata ∧ metadata.keyColumns ≠ [] ∧
      delete dialect entity.type none (some (.mapping (namedEntries (Association.ofPairs
        (metadata.keyColumns.map fun column => (column.name, entity.get column.name)))))) options =
        .ok (compiled, warnings) := by
  obtain ⟨metadata, isMetadata, accepted⟩ := Fault.bind_eq_ok.mp accepted
  obtain ⟨keys, found, deleted⟩ := Fault.bind_eq_ok.mp accepted
  obtain ⟨rfl, someKeys⟩ := primaryKey_eq_ok found
  exact ⟨metadata, isMetadata, someKeys, deleted⟩

/-- The DELETE of an entity is restricted to its keys, of which there have to be some. -/
theorem deleteEntity_restricted {entity : Instance}
    (accepted : deleteEntity dialect entity options = .ok (compiled, warnings)) :
    ∃ metadata, entity.type.metadata = .ok metadata ∧
      IsRestricted (dialect.tableText (options.tableOr metadata.tableName)) compiled.sql
        warnings := by
  obtain ⟨metadata, isMetadata, someKeys, deleted⟩ := deleteEntity_eq_ok accepted
  obtain ⟨resolved, sql, reached, isResolved, ran, rfl⟩ := delete_eq_ok deleted
  rw [isMetadata] at isResolved
  cases isResolved
  refine ⟨metadata, isMetadata, deleteText_restricted ran ?_⟩
  rintro ⟨_, noMembers⟩
  have noKeys := noMembers _ rfl
  simp only [KeyValues.members, namedEntries, List.map_eq_nil_iff,
    Association.ofPairs_eq_nil_iff] at noKeys
  exact someKeys noKeys

end Statement

end EntitySql
