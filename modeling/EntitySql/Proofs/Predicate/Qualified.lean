import EntitySql.Proofs.Predicate.Acceptance
import EntitySql.Proofs.Sql.Qualified

/-!
# The meaning of predicates behind tables

Where the column of a member is written as a path, a predicate about the member has the same
text as where the column has one name, but for the paths.  So it is read as a condition with
the truth of the predicate.
-/

namespace EntitySql

open Sql (Truth Database Condition Merges Parts Unopened pathText pathName)

namespace Scope

/-- The same surroundings without a table, with one name for the column of a member. -/
def withColumn (scope : Scope) (member column : String) : Scope where
  dialect := scope.dialect
  metadata := some {
    name := ""
    columns := [{ name := member, column := some (scope.dialect.delimiters.enclose column) }] }

@[simp]
theorem withColumn_dialect (scope : Scope) (member column : String) :
    (scope.withColumn member column).dialect = scope.dialect :=
  rfl

variable {scope : Scope} {member text : String} {path : List String} {tree : Predicate}
variable {parameters reached : Parameters}

theorem column_withColumn (scope : Scope) (member column : String) :
    (scope.withColumn member column).column (.text member) =
      .ok (scope.dialect.delimiters.enclose column) := by
  have given : (scope.dialect.delimiters.enclose column).isEmpty = false :=
    String.isEmpty_eq_false_iff.mpr (by simp [← String.toList_inj])
  have quoted := (Text.Delimiters.isQuoted_iff.mpr ⟨column, rfl⟩ :
    scope.dialect.delimiters.IsQuoted (scope.dialect.delimiters.enclose column)).enclosed
  have kept : scope.dialect.identifier (scope.dialect.delimiters.enclose column) =
      scope.dialect.delimiters.enclose column :=
    Dialect.identifier_of_delimited quoted
  simp [withColumn, Scope.column, columnOf, Metadata.find?, Metadata.columnNameOf,
    Column.columnName, overriding, given, Except.map, Dialect.columnText, kept]

theorem columnName_withColumn (scope : Scope) (member column : String) :
    (scope.withColumn member column).columnName (.text member) = some column := by
  rw [columnName, column_withColumn]
  exact Text.Delimiters.contentOf_enclose _ _

/-! ## Texts -/

theorem compare_merges {op : Comparator} {value : Value} (given : path ≠ [])
    (written : scope.column (.text member) = .ok (pathText scope.dialect path))
    (ran : scope.compare ⟨.text member, op, value⟩ parameters = (.ok text, reached)) :
    ∃ merged, (scope.withColumn member (pathName path)).compare ⟨.text member, op, value⟩
        parameters = (.ok merged, reached) ∧ Merges scope.dialect text merged := by
  obtain ⟨column, bound, rendered, isWritten, bindRan⟩ := compare_eq_ok.mp ran
  cases written.symm.trans rendered
  have renamed := scope.column_withColumn member (pathName path)
  cases isWritten with
  | null isNull op_eq =>
      exact ⟨_, compare_eq_ok.mpr ⟨_, [], renamed, .null isNull op_eq, bindRan⟩,
        .of_path given (by simp [Parts]) (.of_plain (by decide))⟩
  | given isNull op_eq =>
      exact ⟨_, compare_eq_ok.mpr ⟨_, [], renamed, .given isNull op_eq, bindRan⟩,
        .of_path given (by simp [Parts]) (.of_plain (by decide))⟩
  | @compared parameter notNull =>
      refine ⟨_, compare_eq_ok.mpr ⟨_, _, renamed, .compared notNull, bindRan⟩, ?_⟩
      have readable : (Sql.Operand.parameter parameter).Readable :=
        readable_of_bindEach bindRan parameter (by simp)
      have plain : (" " ++ op.token ++ " ").toList.all Sql.isPlain = true := by cases op <;> decide
      have separated : Parts (" " ++ op.token ++ " " ++
          scope.dialect.placeholder parameter).toList := by
        simp [Parts]
      have merges := Merges.of_path given separated ((Unopened.of_plain plain).append
        (.placeholder readable))
      simpa only [withColumn_dialect, String.append_assoc] using merges

theorem belongs_merges (negated : Bool) {values : List Value} (given : path ≠ [])
    (written : scope.column (.text member) = .ok (pathText scope.dialect path))
    (ran : scope.belongs negated (.member (.text member)) values parameters =
      (.ok text, reached)) :
    ∃ merged, (scope.withColumn member (pathName path)).belongs negated (.member (.text member))
        values parameters = (.ok merged, reached) ∧ Merges scope.dialect text merged := by
  obtain ⟨column, names, rendered, listed, bindRan⟩ := belongs_eq_ok.mp ran
  cases written.symm.trans rendered
  have renamed := scope.column_withColumn member (pathName path)
  cases listed with
  | never =>
      refine ⟨_, belongs_eq_ok.mpr ⟨_, _, renamed, .never, bindRan⟩, .of_unopened (.of_plain ?_)⟩
      cases negated <;> decide
  | among someNames =>
      refine ⟨_, belongs_eq_ok.mpr ⟨_, _, renamed, .among someNames, bindRan⟩, ?_⟩
      have readable := readable_of_bindEach bindRan
      have plain : (if negated then " NOT IN (" else " IN (").toList.all Sql.isPlain = true := by
        cases negated <;> decide
      have placeholders : Unopened scope.dialect (", ".intercalate
          (names.map scope.dialect.placeholder)) :=
        .intercalate (List.forall_mem_map.mpr fun name isName => .placeholder (readable name isName))
      have separated : Parts ((if negated then " NOT IN (" else " IN (") ++ ", ".intercalate
          (names.map scope.dialect.placeholder) ++ ")").toList := by
        cases negated <;> simp [Parts]
      have merges := Merges.of_path given separated
        (((Unopened.of_plain plain).append placeholders).append (.of_plain (by decide)))
      simpa only [withColumn_dialect, String.append_assoc] using merges

/-- Behind a table the text of a tree about one member is that of the tree without a table,
once the paths have become names. -/
theorem renderTree_merges (given : path ≠ [])
    (written : scope.column (.text member) = .ok (pathText scope.dialect path))
    (names : ∀ name ∈ tree.memberNames, name = .text member)
    (ran : scope.renderTree tree parameters = (.ok text, reached)) :
    ∃ merged, (scope.withColumn member (pathName path)).renderTree tree parameters =
        (.ok merged, reached) ∧ Merges scope.dialect text merged := by
  induction tree generalizing parameters reached text with
  | logical connective left right leftMerges rightMerges =>
      obtain ⟨leftNames, rightNames⟩ := List.forall_mem_append.mp names
      obtain ⟨leftText, middle, leftRan, ran⟩ := Action.bind_eq_ok.mp ran
      obtain ⟨rightText, last, rightRan, ran⟩ := Action.bind_eq_ok.mp ran
      obtain ⟨rfl, rfl⟩ := Action.answer_eq_ok.mp ran
      obtain ⟨leftMerged, leftOther, leftMerges⟩ := leftMerges leftNames leftRan
      obtain ⟨rightMerged, rightOther, rightMerges⟩ := rightMerges rightNames rightRan
      have word : Unopened scope.dialect connective.token :=
        .of_plain (by cases connective <;> decide)
      exact ⟨_, Action.bind_eq_ok.mpr ⟨_, _, leftOther,
        Action.bind_eq_ok.mpr ⟨_, _, rightOther, rfl⟩⟩, leftMerges.join rightMerges word⟩
  | comparison op left right =>
      obtain ⟨oriented, isOriented, ran⟩ := Action.ofExcept_bind_eq_ok.mp ran
      have named := names _ (Predicate.member_mem_memberNames isOriented)
      obtain ⟨name, op, value⟩ := oriented
      cases named
      obtain ⟨merged, other, merges⟩ := compare_merges given written ran
      exact ⟨merged, Action.ofExcept_bind_eq_ok.mpr ⟨_, isOriented, other⟩, merges⟩
  | membership tested values =>
      cases tested with
      | member name =>
          obtain rfl := names name List.mem_cons_self
          exact belongs_merges false given written ran
      | _ => exact absurd ran Action.fail_ne_ok
  | negation operand =>
      cases operand with
      | membership tested values =>
          cases tested with
          | member name =>
              obtain rfl := names name List.mem_cons_self
              exact belongs_merges true given written ran
          | _ => exact absurd ran Action.fail_ne_ok
      | _ => exact absurd ran Action.fail_ne_ok
  | _ => exact absurd ran Action.fail_ne_ok

/-! ## Truth -/

/-- The SQL of a predicate has a truth for a row. -/
def HasTruth (scope : Scope) (predicate : Predicate) (parameters : Parameters)
    (database : Database) (row : database.Row) (truth : Truth) : Prop :=
  ∃ text reached condition, scope.render predicate parameters = (.ok text, reached) ∧
    Sql.readQualified scope.dialect text = some condition ∧
    condition.truth database reached.entries row = some truth

theorem HasTruth.unique {predicate : Predicate} {database : Database} {row : database.Row}
    {truth other : Truth} (first : scope.HasTruth predicate parameters database row truth)
    (second : scope.HasTruth predicate parameters database row other) : truth = other := by
  obtain ⟨text, reached, condition, ran, isRead, means⟩ := first
  obtain ⟨_, _, _, sameRan, sameRead, sameMeans⟩ := second
  cases ran.symm.trans sameRan
  cases isRead.symm.trans sameRead
  exact Option.some.inj (means.symm.trans sameMeans)

/-- A tree whose leaves have a meaning and test one member. -/
structure IsAbout (scope : Scope) (member : String) (tree : Predicate) : Prop where
  expands : tree.expand = .ok tree
  names : ∀ name ∈ tree.memberNames, name = .text member
  leaves : ∀ leaf ∈ tree.leavesWith fun value => [.raw value],
    leaf.NamesTexts ∧ scope.Supports leaf

theorem IsAbout.leaf {leaf : Predicate} (expands : leaf.expand = .ok leaf)
    (isLeaf : leaf.leavesWith (fun value => [.raw value]) = [leaf])
    (names : leaf.memberNames = [.text member]) (texts : leaf.NamesTexts)
    (supported : scope.Supports leaf) : scope.IsAbout member leaf where
  expands := expands
  names := by rw [names, List.forall_mem_singleton]
  leaves := by
    rw [isLeaf, List.forall_mem_singleton]
    exact ⟨texts, supported⟩

theorem IsAbout.logical {left right : Predicate} (connective : Connective)
    (first : scope.IsAbout member left) (second : scope.IsAbout member right) :
    scope.IsAbout member (.logical connective left right) where
  expands := by
    rw [Predicate.expand, first.expands, second.expands]
    rfl
  names := List.forall_mem_append.mpr ⟨first.names, second.names⟩
  leaves := List.forall_mem_append.mpr ⟨first.leaves, second.leaves⟩

theorem maps_of_column (written : scope.column (.text member) = .ok text) : scope.Maps member := by
  obtain ⟨result, reached, added, ran, _, ⟨maps, _⟩ | ⟨_, cause, rfl⟩⟩ :=
    scope.column_decides member {}
  · exact maps
  · cases written.symm.trans (congrArg Prod.fst ran)

/-- The SQL of a tree about one member has the truth of the tree. -/
theorem IsAbout.hasTruth (about : scope.IsAbout member tree) (given : path ≠ [])
    (written : scope.column (.text member) = .ok (pathText scope.dialect path))
    (parameters : Parameters) (database : Database) (row : database.Row) :
    ∃ truth, tree.truth (scope.withColumn member (pathName path)) database row = some truth ∧
      scope.HasTruth tree parameters database row truth := by
  obtain ⟨result, reached, added, ran, _, ⟨_, text, rfl⟩ | ⟨unsupported, _⟩⟩ :=
    renderTree_decides tree (fun leaf isLeaf => (about.leaves leaf isLeaf).1) parameters
  · obtain ⟨merged, otherRan, merges⟩ := renderTree_merges given written about.names ran
    have quotes : ∀ name ∈ tree.memberNames,
        (scope.withColumn member (pathName path)).Quotes name := by
      intro name isName text rendered
      obtain rfl := about.names name isName
      exact ⟨_, Except.ok.inj (rendered.symm.trans (column_withColumn ..))⟩
    obtain ⟨condition, stands⟩ := renderTree_standsFor tree quotes otherRan
    obtain ⟨truth, means, holds⟩ := stands.truth_eq database row []
    rw [List.append_nil] at holds
    refine ⟨truth, means, text, reached, condition, render_of_expand tree about.expands ran, ?_,
      holds⟩
    rw [merges.readQualified_eq, stands.text_eq]
    exact Sql.read_text scope.dialect stands.readable
  · exact absurd (fun leaf isLeaf => (about.leaves leaf isLeaf).2) unsupported

end Scope

end EntitySql
