import EntitySql.Proofs.Predicate.Grammar
import EntitySql.Proofs.Statement.Update

/-!
# Rows updated under a condition

With a condition an UPDATE sets the same columns as without one.  The condition has to be
a single comparison of a member with a constant.  The values of the row, the constant and
the keys that the row is read back by are bound one after the other, so that none of them
takes the parameter of another.
-/

namespace EntitySql

open Sql (Mention Woven Composed Separated placeholdersIn)

/-- The predicate is a single comparison, which has this form with its member on the left. -/
def Predicate.IsSingle (predicate : Predicate) (oriented : Oriented) : Prop :=
  ∃ op left right, predicate.expand = .ok (.comparison op left right) ∧
    memberFirst op left right = .ok oriented

namespace Parameters

variable {before after : Parameters} {name : String} {value : Value}

theorem grows_bindFresh (ran : bindFresh value before = (.ok name, after)) :
    before.Grows after [(name, value)] := by
  obtain ⟨number, reached, again, entries, free⟩ := bindFresh_run value before
  rw [ran] at again
  cases again
  rw [← has_eq_false_iff] at free
  have stored : before.Grows (before.store (generatedName number) value) _ :=
    grows_store (by simpa [has] using free)
  refine ⟨entries, fun nodup => ?_⟩
  rw [names, entries]
  exact stored.2 nodup

end Parameters

namespace Predicate

open Fault (OnlyConditions)

theorem expand_refuses (predicate : Predicate) : OnlyConditions predicate.expand := by
  induction predicate with
  | logical connective left right leftRefuses rightRefuses =>
      exact leftRefuses.bind fun first => rightRefuses.bind fun second => .ok _
  | raw value =>
      cases value with
      | dict entries => exact ofValue_refuses _
      | _ => exact .ok _
  | _ => exact .ok _

theorem memberFirst_refuses (op : Comparator) (left right : Predicate) :
    OnlyConditions (memberFirst op left right) := by
  unfold memberFirst
  split
  · exact .ok _
  · exact .ok _
  · exact .condition _

end Predicate

namespace Scope

open Fault (OnlyConditions)

variable {scope : Scope} {predicate tree : Predicate} {oriented : Oriented} {name : Value}
variable {parameters reached : Parameters} {text : String}

/-! ## Single comparisons -/

/-- The parts of a tree that is a comparison. -/
def ofComparison (scope : Scope) : Predicate → Except Fault (Value × Comparator × Value)
  | .comparison op left right => do
    let oriented ← Predicate.memberFirst op left right
    let column ← scope.storedName oriented.member
    .ok (column, oriented.op, oriented.constant)
  | _ => .error (.condition .notSingleComparison)

/-- Only what is combined is refused before the dictionaries in it are read. -/
theorem singleComparison_cases (scope : Scope) (predicate : Predicate) :
    (scope.singleComparison predicate = .error (.condition .notSingleComparison) ∧
      ¬ ∃ oriented, predicate.IsSingle oriented) ∨
    scope.singleComparison predicate = predicate.expand >>= scope.ofComparison := by
  cases predicate with
  | logical connective left right =>
      refine .inl ⟨rfl, ?_⟩
      rintro ⟨oriented, op, first, second, expands, _⟩
      obtain ⟨_, _, expands⟩ := Fault.bind_eq_ok.mp expands
      obtain ⟨_, _, expands⟩ := Fault.bind_eq_ok.mp expands
      cases expands
  | raw value => cases value <;> exact .inr rfl
  | _ => exact .inr rfl

theorem storedName_refuses (scope : Scope) (name : Value) :
    OnlyConditions (scope.storedName name) := by
  cases name with
  | text member =>
      refine OnlyConditions.map ?_ _
      unfold columnOf
      split
      · exact .ok _
      · split
        · exact .condition _
        · exact .ok _
  | _ => exact .ok _

theorem ofComparison_refuses (scope : Scope) (tree : Predicate) :
    OnlyConditions (scope.ofComparison tree) := by
  cases tree with
  | comparison op left right =>
      exact (Predicate.memberFirst_refuses op left right).bind fun oriented =>
        (scope.storedName_refuses oriented.member).bind fun column => .ok _
  | _ => exact .condition _

theorem singleComparison_refuses (scope : Scope) (predicate : Predicate) :
    OnlyConditions (scope.singleComparison predicate) := by
  rcases scope.singleComparison_cases predicate with ⟨refused, _⟩ | same
  · rw [refused]
    exact .condition _
  · rw [same]
    exact (Predicate.expand_refuses predicate).bind scope.ofComparison_refuses

/-- What is accepted as a single comparison is one. -/
theorem isSingle_of_singleComparison {single : Value × Comparator × Value}
    (accepted : scope.singleComparison predicate = .ok single) :
    ∃ oriented, predicate.IsSingle oriented := by
  rcases scope.singleComparison_cases predicate with ⟨refused, _⟩ | same
  · cases refused.symm.trans accepted
  · obtain ⟨tree, expands, accepted⟩ := Fault.bind_eq_ok.mp (same.symm.trans accepted)
    cases tree with
    | comparison op left right =>
        obtain ⟨oriented, isOriented, _⟩ := Fault.bind_eq_ok.mp accepted
        exact ⟨oriented, op, left, right, expands, isOriented⟩
    | _ => cases accepted

/-! ## Rendered comparisons -/

/-- A single comparison is rendered as such. -/
theorem compare_of_render (isSingle : predicate.IsSingle oriented)
    (rendered : scope.render predicate parameters = (.ok text, reached)) :
    scope.compare oriented parameters = (.ok text, reached) := by
  obtain ⟨op, left, right, expands, isOriented⟩ := isSingle
  obtain ⟨tree, isTree, ran⟩ := render_expand predicate rendered
  cases expands.symm.trans isTree
  obtain ⟨again, same, ran⟩ := Action.ofExcept_bind_eq_ok.mp ran
  cases isOriented.symm.trans same
  exact ran

theorem column_of_mentionOf {mention : Mention}
    (isMention : scope.mentionOf name = .ok mention) :
    scope.column name = .ok (mention.text scope.dialect) := by
  rw [column_eq_mentionOf, isMention]
  rfl

theorem compare_written (accepted : scope.compare oriented parameters = (.ok text, reached)) :
    ∃ mention bound, scope.mentionOf oriented.member = .ok mention ∧
      oriented.Written scope.dialect (mention.text scope.dialect) text bound ∧
      parameters.Grows reached bound ∧
      ∀ entry ∈ bound, (Sql.Operand.parameter entry.1).Readable := by
  obtain ⟨column, bound, rendered, written, bindRan⟩ := compare_eq_ok.mp accepted
  obtain ⟨mention, isMention, rfl⟩ := column_eq_ok rendered
  have readable := readable_of_bindEach bindRan
  rw [List.forall_mem_map] at readable
  refine ⟨mention, bound, isMention, written, ?_, readable⟩
  cases written with
  | null _ _ =>
      cases bindRan
      exact .refl _
  | given _ _ =>
      cases bindRan
      exact .refl _
  | compared _ => exact Parameters.grows_bindFresh (Parameters.bindEach_singleton.mp bindRan)

/-- A comparison is rendered if its member has a column, and its operator is one for null if
it has to be. -/
theorem compare_answers {column : String} (found : scope.column oriented.member = .ok column)
    (ordered : oriented.constant = .null → oriented.op = .equal ∨ oriented.op = .notEqual)
    (parameters : Parameters) :
    ∃ text reached, scope.compare oriented parameters = (.ok text, reached) := by
  by_cases isNull : oriented.constant = .null
  · rcases ordered isNull with op_eq | op_eq
    · exact ⟨_, _, compare_eq_ok.mpr ⟨column, [], found, .null isNull op_eq, rfl⟩⟩
    · exact ⟨_, _, compare_eq_ok.mpr ⟨column, [], found, .given isNull op_eq, rfl⟩⟩
  · obtain ⟨number, reached, freshRan, _⟩ := Parameters.bindFresh_run oriented.constant parameters
    exact ⟨_, _, compare_eq_ok.mpr ⟨column, [(_, oriented.constant)], found, .compared isNull,
      Parameters.bindEach_singleton.mpr freshRan⟩⟩

/-- A single comparison is rendered as it is compared. -/
theorem render_of_compare (isSingle : predicate.IsSingle oriented)
    (ran : scope.compare oriented parameters = (.ok text, reached)) :
    scope.render predicate parameters = (.ok text, reached) := by
  obtain ⟨op, left, right, expands, isOriented⟩ := isSingle
  exact render_of_expand predicate expands
    (Action.ofExcept_bind_eq_ok.mpr ⟨oriented, isOriented, ran⟩)

/-- A single comparison whose member has a column is accepted as one. -/
theorem singleComparison_answers {column : String} (isSingle : predicate.IsSingle oriented)
    (found : scope.column oriented.member = .ok column) :
    ∃ single, scope.singleComparison predicate = .ok single := by
  have stored : ∃ name, scope.storedName oriented.member = .ok name := by
    cases isMember : oriented.member with
    | text member =>
        rw [isMember] at found
        simp only [Scope.column, Scope.storedName] at found ⊢
        cases isColumn : scope.columnOf member with
        | ok name => exact ⟨_, rfl⟩
        | error fault =>
            rw [isColumn] at found
            cases found
    | _ => exact ⟨_, rfl⟩
  obtain ⟨name, stored⟩ := stored
  rcases scope.singleComparison_cases predicate with ⟨_, notSingle⟩ | same
  · exact absurd ⟨oriented, isSingle⟩ notSingle
  · obtain ⟨op, left, right, expands, isOriented⟩ := isSingle
    exact ⟨_, same.trans (Fault.bind_eq_ok.mpr ⟨_, expands,
      Fault.bind_eq_ok.mpr ⟨oriented, isOriented, Fault.bind_eq_ok.mpr ⟨name, stored, rfl⟩⟩⟩)⟩

end Scope

theorem Oriented.Written.ordered {dialect : Dialect} {column text : String} {oriented : Oriented}
    {bound : List (String × Value)} (written : oriented.Written dialect column text bound)
    (isNull : oriented.constant = .null) : oriented.op = .equal ∨ oriented.op = .notEqual := by
  cases written with
  | null _ op_eq => exact .inl op_eq
  | given _ op_eq => exact .inr op_eq
  | compared notNull => exact absurd isNull notNull

/-- The text of a comparison mentions its column, and a parameter if there is one. -/
theorem Oriented.Written.woven {dialect : Dialect} {mention : Mention} {oriented : Oriented}
    {text : String} {bound : List (String × Value)} (style : PlaceholderStyle)
    (written : oriented.Written dialect (mention.text dialect) text bound) :
    ∃ other, Woven dialect style text other
        (mention :: bound.map fun entry => .parameter entry.1) ∧ text ≠ "" ∧ other ≠ "" := by
  cases written with
  | null _ _ =>
      exact ⟨_, .mention mention (by decide) (.ending " IS NULL" (by decide)), by simp, by simp⟩
  | given _ _ =>
      exact ⟨_, .mention mention (by decide) (.ending " IS NOT NULL" (by decide)), by simp, by simp⟩
  | @compared name _ =>
      have plain : (" " ++ oriented.op.token ++ " ").toList.all Sql.isWording = true := by
        cases oriented.op <;> decide
      have separated : Separated (" " ++ oriented.op.token ++ " ") := by
        cases oriented.op <;> decide
      have compared : Woven dialect style _ _ [.parameter name] :=
        .words _ plain (.last (.parameter name))
      have woven := Woven.mention mention (separated.append_of_ne (by simp)) compared
      simp only [String.append_assoc] at woven ⊢
      exact ⟨_, woven, by simp, by simp⟩

namespace Statement

variable {dialect : Dialect} {entity : Instance} {options : Options} {metadata : Metadata}
variable {predicate : Predicate} {compiled : Compiled} {reached : Parameters} {sql : String}

/-- The keys that a row is read back by. -/
def readBackKeys (metadata : Metadata) (options : Options) : List Column :=
  if options.selectAfterMutation then metadata.keyColumns else []

theorem readBackKeys_sublist (metadata : Metadata) (options : Options) :
    (readBackKeys metadata options).Sublist metadata.mappedColumns := by
  unfold readBackKeys
  split
  · exact keyColumns_sublist metadata
  · exact List.nil_sublist _

theorem assigned_ne_nil {assignments : List (String × String)} {parameters : Parameters}
    (ran : bindColumns (updatedValues metadata entity) parameters = (.ok assignments, reached))
    (someColumns : metadata.updatedColumns ≠ []) : assignments ≠ [] := by
  rintro rfl
  have columns := columns_of_bindColumns ran
  rw [updatedValues_eq] at columns
  simp [rowValues, someColumns] at columns

/-- A condition that is no single comparison is refused. -/
theorem update_refuses_condition (isMetadata : entity.type.metadata = .ok metadata)
    (someColumns : metadata.updatedColumns ≠ [])
    (notSingle : ¬ ∃ oriented, predicate.IsSingle oriented) :
    ∃ cause, update dialect entity (some predicate) options = .error (.condition cause) := by
  cases single : (scope dialect metadata).singleComparison predicate with
  | ok parts => exact absurd (Scope.isSingle_of_singleComparison single) notSingle
  | error fault =>
      obtain ⟨cause, rfl⟩ := Scope.singleComparison_refuses _ predicate fault single
      obtain ⟨assignments, middle, assignedRan⟩ :=
        bindColumns_answers (updatedValues metadata entity) {}
      have given : ¬ assignments.isEmpty = true := by
        simpa using assigned_ne_nil assignedRan someColumns
      have failed : updateText dialect metadata entity (some predicate) options {} =
          (.error (.condition cause), middle) := by
        simp only [updateText, Option.isNone_some, Bool.false_and, Bool.false_eq_true, if_false]
        rw [Action.bind_of_ok assignedRan, if_neg given]
        change (Action.ofExcept ((scope dialect metadata).singleComparison predicate) >>= _)
          middle = _
        rw [single]
        rfl
      exact ⟨cause, update_of_fault isMetadata failed⟩

/-- What an accepted UPDATE under a condition is made of. -/
theorem update_where_run (isMetadata : entity.type.metadata = .ok metadata)
    (different : (metadata.mappedColumns.map (·.columnName)).Nodup)
    (accepted : update dialect entity (some predicate) options = .ok compiled) :
    ∃ oriented mention restriction assigned bound tested,
      predicate.IsSingle oriented ∧
      (scope dialect metadata).mentionOf oriented.member = .ok mention ∧
      (∃ before after,
        (scope dialect metadata).render predicate before = (.ok restriction, after)) ∧
      oriented.Written dialect (mention.text dialect) restriction bound ∧
      assigned.length = metadata.updatedColumns.length ∧
      tested.length = (readBackKeys metadata options).length ∧
      (∀ name ∈ assigned ++ bound.map (·.1) ++ tested, (Sql.Operand.parameter name).Readable) ∧
      compiled.parameters = assigned.zip (metadata.updatedColumns.map (entity.get ·.name)) ++
        bound ++ tested.zip ((readBackKeys metadata options).map (entity.get ·.name)) ∧
      (compiled.parameters.map (·.1)).Nodup ∧
      compiled.sql = dialect.writeUpdate (options.tableOr metadata.tableName)
        ((metadata.updatedColumns.map (·.columnName)).zip assigned) []
        options.selectAfterMutation
        (((readBackKeys metadata options).map (·.columnName)).zip tested) (some restriction) := by
  obtain ⟨again, _, reached, isAgain, ran, rfl⟩ := update_eq_ok accepted
  cases isMetadata.symm.trans isAgain
  obtain ⟨assignments, middle, single, restriction, last, pairs, _, assignedRan, isSingle,
    rendered, testedRan, rfl⟩ := updateText_rows_eq_ok.mp ran
  obtain ⟨oriented, isSingle⟩ := Scope.isSingle_of_singleComparison isSingle
  obtain ⟨mention, bound, isMention, written, boundGrows, boundReadable⟩ :=
    Scope.compare_written (Scope.compare_of_render isSingle rendered)
  have distinct {columns : List Column} (part : columns.Sublist metadata.mappedColumns) :
      (columns.map (·.columnName)).Nodup :=
    different.sublist (part.map _)
  have keysRead : (if options.selectAfterMutation then keyValues metadata entity else []) =
      rowValues entity (readBackKeys metadata options) := by
    unfold readBackKeys
    split <;> rfl
  rw [updatedValues_eq] at assignedRan
  rw [keysRead] at testedRan
  obtain ⟨assigned, assignedLength, assignedGrows, assignedReadable, assignedPairs⟩ :=
    row_of_bindColumns (distinct (updatedColumns_sublist metadata)) assignedRan
  obtain ⟨tested, testedLength, testedGrows, testedReadable, testedPairs⟩ :=
    row_of_bindColumns (distinct (readBackKeys_sublist metadata options)) testedRan
  obtain ⟨entries, keepsNodup⟩ := (assignedGrows.trans boundGrows).trans testedGrows
  refine ⟨oriented, mention, restriction, assigned, bound, tested, isSingle, isMention,
    ⟨middle, last, rendered⟩, written, assignedLength, testedLength, ?_, entries,
    keepsNodup List.nodup_nil, by rw [assignedPairs, testedPairs]⟩
  simp only [List.forall_mem_append, List.forall_mem_map]
  exact ⟨⟨assignedReadable, boundReadable⟩, testedReadable⟩

/-- The text of an UPDATE under a condition, with the SELECT behind it that is wanted. -/
theorem writeUpdate_where {restriction : String} {assigned tested : List String} (table : String)
    (given : restriction ≠ "")
    (testedLength : tested.length = (readBackKeys metadata options).length) :
    dialect.writeUpdate table ((metadata.updatedColumns.map (·.columnName)).zip assigned) []
        options.selectAfterMutation
        (((readBackKeys metadata options).map (·.columnName)).zip tested) (some restriction) =
      "UPDATE " ++ dialect.tableText table ++ " SET " ++
        ", ".intercalate (columnEquations dialect metadata.updatedColumns assigned) ++
        " WHERE " ++ restriction ++
        readBackSuffix dialect table (readBackKeys metadata options) tested := by
  rw [writeUpdate_rows options.selectAfterMutation (Dialect.chosenCondition_some _ given) given
    testedLength]
  cases wanted : options.selectAfterMutation <;> simp [readBackKeys, wanted, readBackSuffix]

/-! ## What is mentioned -/

theorem parameters_equationMentions (pairs : List (String × String)) :
    (Dialect.equationMentions pairs).filterMap (·.parameter?) = pairs.map (·.2) := by
  induction pairs with
  | nil => rfl
  | cons pair rest ih =>
      change pair.2 :: (Dialect.equationMentions rest).filterMap (·.parameter?) = _
      rw [ih, List.map_cons]

/-- The parameters are mentioned in their order, those of the keys only if the row is read
back. -/
theorem parameters_updateMentions (table : String) (assignments : List (String × String))
    (condition : List Mention) {wanted : Bool} {keys : List (String × String)}
    (unread : wanted = false → keys = []) :
    (Dialect.updateMentions table assignments condition wanted keys).filterMap (·.parameter?) =
      assignments.map (·.2) ++ condition.filterMap (·.parameter?) ++ keys.map (·.2) := by
  have suffix : (if wanted && !keys.isEmpty then
        Mention.table table :: Dialect.equationMentions keys else []).filterMap (·.parameter?) =
      keys.map (·.2) := by
    cases wanted with
    | false => simp [unread rfl]
    | true =>
        cases keys with
        | nil => rfl
        | cons key rest => exact parameters_equationMentions (key :: rest)
  rw [Dialect.updateMentions, List.cons_append, List.cons_append, List.filterMap_cons_none rfl,
    List.filterMap_append, List.filterMap_append, suffix, parameters_equationMentions]

theorem legible_equationMentions {columns : List Column} {names : List String}
    (unquoted : ∀ column ∈ columns, dialect.isDelimited column.columnName = false)
    (readable : ∀ name ∈ names, (Sql.Operand.parameter name).Readable) :
    ∀ mention ∈ Dialect.equationMentions ((columns.map (·.columnName)).zip names),
      mention.Legible dialect := by
  simp only [Dialect.equationMentions, List.forall_mem_flatMap, List.forall_mem_cons,
    List.not_mem_nil, false_implies, implies_true, and_true]
  intro pair isPair
  obtain ⟨isColumn, isName⟩ := List.of_mem_zip isPair
  obtain ⟨column, isColumn, named⟩ := List.mem_map.mp isColumn
  exact ⟨Mention.legible_column (named ▸ unquoted column isColumn),
    Mention.legible_parameter (readable pair.2 isName)⟩

/-- A member that is no text is written as it is, and a text stands for its column. -/
theorem legible_mentionOf {member : Value} {mention : Mention}
    (isMention : (scope dialect metadata).mentionOf member = .ok mention)
    (legible : member.isLegible = true)
    (unquoted : dialect.isDelimited (metadata.columnOf member).plainText = false) :
    mention.Legible dialect := by
  cases member with
  | text name =>
      obtain ⟨column, found, rfl⟩ := Scope.mentionOf_text isMention
      obtain ⟨_, rfl⟩ := Scope.columnOf_eq_ok rfl found
      exact Mention.legible_column unquoted
  | _ =>
      simp only [Scope.mentionOf, scope, Option.any_none, Bool.false_eq_true, if_false] at isMention
      cases rendered : dialect.identifierOf _ <;> rw [rendered] at isMention <;> cases isMention
      exact Mention.legible_unnamed legible unquoted

/-- The column of a mapped member is not quoted if no mapped column is. -/
theorem unquoted_of_mapped {column : Column} {mention : Mention}
    (unquoted : ∀ column ∈ metadata.mappedColumns, dialect.isDelimited column.columnName = false)
    (isMapped : column ∈ metadata.mappedColumns)
    (isMention : (scope dialect metadata).mentionOf (.text column.name) = .ok mention) :
    dialect.isDelimited (metadata.columnOf (.text column.name)).plainText = false := by
  obtain ⟨name, found, rfl⟩ := Scope.mentionOf_text isMention
  obtain ⟨mapped, rfl⟩ := Scope.columnOf_eq_ok rfl found
  have declared : (metadata.find? column.name).isSome = true := by
    rw [Metadata.find?, List.find?_isSome]
    exact ⟨column, List.mem_of_mem_filter isMapped, by simp⟩
  obtain ⟨first, isFirst⟩ := Option.isSome_iff_exists.mp declared
  rw [isFirst, Option.any_some] at mapped
  have firstMapped : first ∈ metadata.mappedColumns :=
    List.mem_filter.mpr ⟨List.mem_of_find?_eq_some isFirst, by simp [mapped]⟩
  have column_eq : (metadata.columnOf (.text column.name)).plainText = first.columnName := by
    simp [Metadata.columnOf, Metadata.columnNameOf, isFirst, Value.plainText]
  rw [column_eq]
  exact unquoted first firstMapped

/-- The text of an UPDATE under a condition mentions its parameters one after the other, and
shows their placeholders and no others unless a name is quoted already. -/
theorem writeUpdate_placeholders {oriented : Oriented} {mention : Mention} {restriction : String}
    {assigned tested : List String} {bound : List (String × Value)}
    (table : String)
    (isMention : (scope dialect metadata).mentionOf oriented.member = .ok mention)
    (written : oriented.Written dialect (mention.text dialect) restriction bound)
    (assignedLength : assigned.length = metadata.updatedColumns.length)
    (testedLength : tested.length = (readBackKeys metadata options).length)
    (readable : ∀ name ∈ assigned ++ bound.map (·.1) ++ tested,
      (Sql.Operand.parameter name).Readable)
    (someColumns : metadata.updatedColumns ≠ []) :
    ∃ mentions, Composed dialect
        (dialect.writeUpdate table ((metadata.updatedColumns.map (·.columnName)).zip assigned) []
          options.selectAfterMutation
          (((readBackKeys metadata options).map (·.columnName)).zip tested) (some restriction))
        mentions ∧
      mentions.filterMap (·.parameter?) = assigned ++ bound.map (·.1) ++ tested ∧
      ((∀ column ∈ metadata.mappedColumns, dialect.isDelimited column.columnName = false) →
        (∀ segment ∈ Dialect.segments table, dialect.isDelimited segment = false) →
        mention.Legible dialect → ∀ mention ∈ mentions, mention.Legible dialect) := by
  obtain ⟨other, woven, given, otherGiven⟩ := written.woven dialect.style
  have assignedGiven := ofRow_ne_nil assignedLength someColumns
  have chosen := Dialect.chosenCondition_some (dialect.equations []) given
  have chosenOther :=
    Dialect.chosenCondition_some ((dialect.inStyle dialect.style).equations []) otherGiven
  rw [← chosen, ← chosenOther] at woven
  refine ⟨_, (Dialect.writeUpdate_batched table [] options.selectAfterMutation assignedGiven woven
    ⟨chosen.trans_ne given, chosenOther.trans_ne otherGiven⟩).composed, ?_,
    fun unquoted tableUnquoted legible => ?_⟩
  · rw [parameters_updateMentions, List.map_snd_zip (by simp [assignedLength]),
      List.map_snd_zip (by simp [testedLength]), List.filterMap_cons_none, List.filterMap_map]
    · simp [Function.comp_def, Mention.parameter?]
    · exact Scope.mentionOf_parameter? isMention
    · intro unread
      simp [readBackKeys, unread]
  · simp only [List.forall_mem_append, List.forall_mem_map] at readable
    have ofRow {columns : List Column} (part : columns.Sublist metadata.mappedColumns)
        {names : List String} (readable : ∀ name ∈ names, (Sql.Operand.parameter name).Readable) :=
      legible_equationMentions (fun column isColumn => unquoted column (part.subset isColumn))
        readable
    have isTable : (Mention.table table).Legible dialect := Mention.legible_table tableUnquoted
    simp only [Dialect.updateMentions, List.cons_append, List.forall_mem_cons,
      List.forall_mem_append, List.forall_mem_map]
    refine ⟨isTable, ⟨ofRow (updatedColumns_sublist metadata) readable.1.1, legible,
      fun entry isBound => Mention.legible_parameter (readable.1.2 entry isBound)⟩, ?_⟩
    split
    · exact List.forall_mem_cons.mpr
        ⟨isTable, ofRow (readBackKeys_sublist metadata options) readable.2⟩
    · simp

/-- A single comparison is accepted if its member has a column and its operator is one for
null if it has to be. -/
theorem update_accepts_condition {oriented : Oriented} {column : String}
    (isMetadata : entity.type.metadata = .ok metadata)
    (someColumns : metadata.updatedColumns ≠ []) (isSingle : predicate.IsSingle oriented)
    (found : (scope dialect metadata).column oriented.member = .ok column)
    (ordered : oriented.constant = .null → oriented.op = .equal ∨ oriented.op = .notEqual) :
    ∃ compiled, update dialect entity (some predicate) options = .ok compiled := by
  obtain ⟨assignments, middle, assignedRan⟩ := bindColumns_answers (updatedValues metadata entity) {}
  obtain ⟨single, isAccepted⟩ := Scope.singleComparison_answers isSingle found
  obtain ⟨text, last, compared⟩ := Scope.compare_answers found ordered middle
  obtain ⟨pairs, reached, testedRan⟩ := bindColumns_answers
    (if options.selectAfterMutation then keyValues metadata entity else []) last
  exact ⟨_, update_of_run isMetadata (updateText_rows_eq_ok.mpr ⟨assignments, middle, single, text,
    last, pairs, assigned_ne_nil assignedRan someColumns, assignedRan, isAccepted,
    Scope.render_of_compare isSingle compared, testedRan, rfl⟩)⟩

/-- Under a condition an UPDATE sets the mapped columns that are neither keys nor generated,
in the order of the metadata, on the rows for which the single comparison holds that the
condition has to be; any other condition is refused.  The values that are set, the constant
unless it is null, and the keys that the row is read back by are bound one after the other
under names of their own.  The text mentions just these parameters in this order, and has no
other placeholders unless the table or the member of the condition is quoted already. -/
theorem update_where_exact (dialect : Dialect) (entity : Instance) (predicate : Predicate)
    (options : Options) {metadata : Metadata} (isMetadata : entity.type.metadata = .ok metadata)
    (different : (metadata.mappedColumns.map (·.columnName)).Nodup)
    (unquoted : ∀ column ∈ metadata.mappedColumns, dialect.isDelimited column.columnName = false)
    (updatable : (metadata.columns.filter fun column =>
      !column.notMapped && !column.key && !column.isGenerated) ≠ []) :
    let updated := metadata.columns.filter fun column =>
      !column.notMapped && !column.key && !column.isGenerated
    let keys := if options.selectAfterMutation then
        metadata.columns.filter fun column => !column.notMapped && column.key
      else []
    let table := options.tableOr metadata.tableName
    let scope : Scope := { dialect, metadata := some metadata }
    (∀ compiled, update dialect entity (some predicate) options = .ok compiled →
      ∃ oriented column restriction assigned bound tested,
        predicate.IsSingle oriented ∧ scope.column oriented.member = .ok column ∧
        oriented.Written dialect column restriction bound ∧
        (∃ before after, scope.render predicate before = (.ok restriction, after)) ∧
        assigned.length = updated.length ∧ tested.length = keys.length ∧
        compiled.sql = "UPDATE " ++ dialect.tableText table ++ " SET " ++
          ", ".intercalate (columnEquations dialect updated assigned) ++
          " WHERE " ++ restriction ++ readBackSuffix dialect table keys tested ∧
        compiled.parameters = assigned.zip (updated.map (entity.get ·.name)) ++ bound ++
          tested.zip (keys.map (entity.get ·.name)) ∧
        (compiled.parameters.map (·.1)).Nodup ∧
        (∃ mentions, Composed dialect compiled.sql mentions ∧
          mentions.filterMap (·.parameter?) = compiled.parameters.map (·.1)) ∧
        ((∀ segment ∈ Dialect.segments table, dialect.isDelimited segment = false) →
          ((∃ column ∈ metadata.mappedColumns, oriented.member = .text column.name) ∨
            oriented.member.isLegible = true ∧
              dialect.isDelimited (metadata.columnOf oriented.member).plainText = false) →
          placeholdersIn dialect compiled.sql.toList = compiled.parameters.map (·.1))) ∧
    ((∃ compiled, update dialect entity (some predicate) options = .ok compiled) ↔
      ∃ oriented column, predicate.IsSingle oriented ∧
        scope.column oriented.member = .ok column ∧
        (oriented.constant = .null → oriented.op = .equal ∨ oriented.op = .notEqual)) ∧
    ((¬ ∃ oriented, predicate.IsSingle oriented) →
      ∃ cause, update dialect entity (some predicate) options = .error (.condition cause)) := by
  rw [← keyColumns_eq]
  refine ⟨fun compiled accepted => ?_, ⟨?_, ?_⟩, update_refuses_condition isMetadata updatable⟩
  · obtain ⟨oriented, mention, restriction, assigned, bound, tested, isSingle, isMention, rendered,
      written, assignedLength, testedLength, readable, entries, nodup, sql_eq⟩ :=
      update_where_run isMetadata different accepted
    obtain ⟨_, _, given, _⟩ := written.woven dialect.style
    obtain ⟨mentions, composed, parameters_eq, legible⟩ :=
      writeUpdate_placeholders (options.tableOr metadata.tableName) isMention written
        assignedLength testedLength readable updatable
    rw [← sql_eq] at composed
    have names_eq : mentions.filterMap (·.parameter?) = compiled.parameters.map (·.1) := by
      rw [parameters_eq, entries, List.map_append, List.map_append,
        List.map_fst_zip (by simp [assignedLength]), List.map_fst_zip (by simp [testedLength])]
    refine ⟨oriented, mention.text dialect, restriction, assigned, bound, tested, isSingle,
      Scope.column_of_mentionOf isMention, written, rendered, assignedLength, testedLength,
      sql_eq.trans (writeUpdate_where _ given testedLength), entries, nodup,
      ⟨mentions, composed, names_eq⟩, fun tableUnquoted memberUnquoted => ?_⟩
    rw [← names_eq]
    refine composed.placeholders_of_legible (legible unquoted tableUnquoted ?_)
    obtain ⟨column, isMapped, member_eq⟩ | ⟨isLegible, memberUnquoted⟩ := memberUnquoted
    · rw [member_eq] at isMention
      exact legible_mentionOf isMention rfl (unquoted_of_mapped unquoted isMapped isMention)
    · exact legible_mentionOf isMention isLegible memberUnquoted
  · rintro ⟨compiled, accepted⟩
    obtain ⟨oriented, mention, _, _, _, _, isSingle, isMention, _, written, _⟩ :=
      update_where_run isMetadata different accepted
    exact ⟨oriented, mention.text dialect, isSingle, Scope.column_of_mentionOf isMention,
      written.ordered⟩
  · rintro ⟨oriented, column, isSingle, found, ordered⟩
    exact update_accepts_condition isMetadata updatable isSingle found ordered

/-- Bids, whose columns go by names that parameters are given. -/
def bid : EntityType where
  name := "Bid"
  shape := .bare
  mapping := .declared {
    columns := [{ name := "Id", key := true }, { name := "Offer", column := some "p0" },
      { name := "Limit", column := some "p1" }] }

def bidRow : Instance :=
  ⟨bid, [("Id", .int 7), ("Offer", .int 12), ("Limit", .int 20)]⟩

/-- The bids with lower offers, which are set and tested at once. -/
def lowerOffers : Predicate := .comparison .greater (.constant (.int 10)) (.member (.text "Offer"))

/-- The offer that is tested has a parameter and a value besides those of the offer that is set.
Two offers to be tested are too many. -/
theorem bid_updated :
    (∃ compiled,
      update ⟨.sqlite, .colon⟩ bidRow (some lowerOffers) { selectAfterMutation := true } =
        .ok compiled ∧
      compiled.sql = "UPDATE \"Bid\" SET \"p0\" = :p0, \"p1\" = :p1 WHERE \"p0\" < :p2; " ++
        "SELECT * FROM \"Bid\" WHERE \"Id\" = :Id" ∧
      compiled.parameters =
        [("p0", .int 12), ("p1", .int 20), ("p2", .int 10), ("Id", .int 7)] ∧
      (compiled.parameters.map (·.1)).Nodup ∧
      placeholdersIn ⟨.sqlite, .colon⟩ compiled.sql.toList = compiled.parameters.map (·.1)) ∧
    ∃ cause, update ⟨.sqlite, .colon⟩ bidRow
      (some (.membership (.member (.text "Offer")) [.int 10, .int 11])) {} =
        .error (.condition cause) := by
  have seen : (update ⟨.sqlite, .colon⟩ bidRow (some lowerOffers)
      { selectAfterMutation := true }).toOption.map (fun compiled =>
        (compiled.sql, compiled.parameters)) = some
          ("UPDATE \"Bid\" SET \"p0\" = :p0, \"p1\" = :p1 WHERE \"p0\" < :p2; " ++
            "SELECT * FROM \"Bid\" WHERE \"Id\" = :Id",
          [("p0", .int 12), ("p1", .int 20), ("p2", .int 10), ("Id", .int 7)]) := by
    rfl
  obtain ⟨compiled, accepted, compiled_eq⟩ := Fault.ok_of_seen seen
  obtain ⟨sql_eq, parameters_eq⟩ := Prod.mk.inj compiled_eq
  have isMetadata : bidRow.type.metadata = .ok ⟨"Bid", none, _⟩ := rfl
  have exact (predicate : Predicate) (options : Options) :=
    update_where_exact ⟨.sqlite, .colon⟩ bidRow predicate options isMetadata (by decide) (by decide)
      (by decide)
  obtain ⟨oriented, _, _, _, _, _, ⟨op, left, right, expands, isOriented⟩, _, _, _, _, _, _, _,
    nodup, _, placeholders⟩ := (exact lowerOffers { selectAfterMutation := true }).1 compiled accepted
  cases expands
  cases isOriented
  refine ⟨⟨compiled, accepted, sql_eq, parameters_eq, nodup,
    placeholders (by decide) (.inl ?_)⟩, ?_⟩
  · exact ⟨{ name := "Offer", column := some "p0" }, by decide, rfl⟩
  · refine (exact _ {}).2.2 ?_
    rintro ⟨oriented, op, left, right, expands, _⟩
    cases expands

end Statement

end EntitySql
