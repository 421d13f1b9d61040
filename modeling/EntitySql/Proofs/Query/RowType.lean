import EntitySql.Proofs.Action
import EntitySql.Proofs.Predicate.Grammar
import EntitySql.Proofs.Query.Meaning
import EntitySql.Proofs.Statement.Call

/-!
# The type that rows are mapped to

The type of a query is found twice, by different walks through its calls.  The manager asks for the
first type on the way back that a filter names and stops there; compiling goes through all calls and
keeps the first type it meets.  Rows are mapped to the right class only because both find the same
type, or both none.
-/

namespace EntitySql

open Form (readText)

variable {σ α β : Type}

/-- The fault of a query whose entity type cannot be resolved. -/
def Fault.unresolved : Fault := .configuration .unresolvedEntity

/-! ## Failing for other reasons -/

theorem Fault.bind_ne_error {first : Except Fault α} {next : α → Except Fault β} {fault : Fault}
    (start : first ≠ .error fault) (continued : ∀ value, next value ≠ .error fault) :
    (first >>= next) ≠ .error fault := by
  cases first with
  | error other => simpa [Bind.bind, Except.bind] using start
  | ok value => exact continued value

theorem Fault.map_ne_error {result : Except Fault α} {view : α → β} {fault : Fault}
    (start : result ≠ .error fault) : result.map view ≠ .error fault := by
  cases result with
  | error other => simpa [Except.map] using start
  | ok value => exact nofun

theorem mapM_ne_error {step : α → Except Fault β} {fault : Fault}
    (each : ∀ item, step item ≠ .error fault) (items : List α) :
    items.mapM step ≠ .error fault := by
  induction items with
  | nil => exact nofun
  | cons item rest ih =>
      rw [List.mapM_cons]
      exact Fault.bind_ne_error (each item) fun _ => Fault.bind_ne_error ih nofun

theorem Dialect.identifierOf_resolved (dialect : Dialect) (name : Value) :
    dialect.identifierOf name ≠ .error .unresolved := by
  unfold identifierOf identifierOfOther
  split
  · simp
  · split
    · simp
    · split
      · simp [Fault.unresolved]
      · refine Fault.map_ne_error ?_
        unfold foldItem
        repeat' split
        all_goals simp [Fault.unresolved]
      · split <;> simp [Fault.unresolved]

namespace Scope

/-! ### Conditions -/

variable (scope : Scope)

theorem columnOf_resolved (member : String) : scope.columnOf member ≠ .error .unresolved := by
  unfold columnOf
  split
  · simp
  · split <;> simp [Fault.unresolved]

theorem column_resolved (name : Value) : scope.column name ≠ .error .unresolved := by
  unfold column
  split
  · exact Fault.map_ne_error (scope.columnOf_resolved _)
  · split
    · simp
    · exact Fault.map_ne_error (scope.dialect.identifierOf_resolved _)

theorem bind_resolved (value : Value) : (scope.bind value).Avoids .unresolved :=
  Action.Avoids.bind (fun _ => nofun) fun _ => .answer _

theorem bindAll_resolved (values : List Value) : (scope.bindAll values).Avoids .unresolved := by
  induction values with
  | nil => exact .answer _
  | cons value rest ih => exact (scope.bind_resolved value).bind fun _ => ih.bind fun _ => .answer _

theorem compare_resolved (oriented : Oriented) : (scope.compare oriented).Avoids .unresolved := by
  refine .bind (.ofExcept (scope.column_resolved _)) fun column => ?_
  split
  · split
    · exact .answer _
    · exact .answer _
    · exact .fail nofun
  · exact (scope.bind_resolved _).bind fun _ => .answer _

theorem belongs_resolved (negated : Bool) (tested : Predicate) (values : List Value) :
    (scope.belongs negated tested values).Avoids .unresolved := by
  have named : tested.memberName ≠ .error .unresolved := by
    cases tested <;> simp [Predicate.memberName, Fault.unresolved]
  refine .bind (.ofExcept named) fun member =>
    .bind (.ofExcept (scope.column_resolved member)) fun column => ?_
  split
  · exact .answer _
  · exact (scope.bindAll_resolved values).bind fun _ => .answer _

theorem renderWith_resolved {ofRaw : Value → Action Parameters String}
    (raws : ∀ value, (ofRaw value).Avoids .unresolved) (tree : Predicate) :
    (scope.renderWith ofRaw tree).Avoids .unresolved := by
  induction tree with
  | logical connective left right leftResolved rightResolved =>
      exact leftResolved.bind fun _ => rightResolved.bind fun _ => .answer _
  | raw value => exact raws value
  | comparison op left right =>
      have oriented : Predicate.memberFirst op left right ≠ .error .unresolved := by
        unfold Predicate.memberFirst
        split <;> simp [Fault.unresolved]
      exact .bind (.ofExcept oriented) fun _ => scope.compare_resolved _
  | membership tested values => exact scope.belongs_resolved false tested values
  | negation operand =>
      cases operand with
      | membership tested values => exact scope.belongs_resolved true tested values
      | _ => exact .fail nofun
  | member name => exact .fail nofun
  | constant value => exact .fail nofun

theorem renderTree_resolved (tree : Predicate) : (scope.renderTree tree).Avoids .unresolved := by
  refine scope.renderWith_resolved (fun value => ?_) tree
  exact .fail nofun

theorem render_resolved (predicate : Predicate) : (scope.render predicate).Avoids .unresolved := by
  refine scope.renderWith_resolved (fun value => ?_) predicate
  split
  · refine .bind (.ofExcept fun refused => ?_) scope.renderTree_resolved
    obtain ⟨_, isCondition⟩ := Predicate.ofValue_refuses _ _ refused
    cases isCondition
  · exact .fail nofun

end Scope

namespace EntityType

theorem given_resolved (type : Option EntityType) : given type ≠ .error .unresolved := by
  cases type <;> simp [given, Fault.unresolved]

theorem metadata_resolved (type : EntityType) : type.metadata ≠ .error .unresolved := by
  unfold metadata
  split
  · simp
  · simp [Fault.unresolved]
  · simp
  · split <;> simp [Fault.unresolved]

end EntityType

theorem Checked.toExcept_resolved (checked : Checked α) : checked.toExcept ≠ .error .unresolved := by
  cases checked <;> simp [toExcept, Fault.ofIssues, Fault.unresolved]

/-- The call without the type that it names for the rows. -/
def QueryStep.untyped : QueryStep → QueryStep
  | filter predicate _ => filter predicate none
  | step => step

namespace QueryChain

variable {chain : QueryChain} {dialect : Dialect} {fallback : Option EntityType}
variable {options : Options} {parameters : Parameters}

theorem renderAll_resolved (scope : Scope) (predicates : List Predicate) :
    (renderAll scope predicates).Avoids .unresolved := by
  induction predicates with
  | nil => exact .answer _
  | cons predicate rest ih =>
      exact (scope.render_resolved predicate).bind fun _ => ih.bind fun _ => .answer _

theorem resolveJoin_resolved (table : String) (metadata : Metadata)
    (call : Option EntityType × Value × Value) :
    resolveJoin table metadata call ≠ .error .unresolved :=
  Fault.bind_ne_error (EntityType.given_resolved call.1) fun type =>
    Fault.bind_ne_error type.metadata_resolved fun _ => nofun

/-! ## Two walks through the calls -/

/-- The walk that stops at the first type and the one that goes on find the same. -/
theorem filterType_eq (steps : List QueryStep) :
    filterType steps = (filters steps).findSome? (·.2) := by
  induction steps with
  | nil => rfl
  | cons step rest ih =>
      cases step with
      | filter predicate type =>
          cases type with
          | none => exact ih
          | some type => rfl
      | _ => exact ih

theorem rowType_eq (chain : QueryChain) (fallback : Option EntityType) :
    chain.rowType fallback = chain.selectedType fallback := by
  rw [rowType, selectedType, filterType_eq]

/-! ## Queries without a type -/

/-- A function with a text for a name can be read from. -/
theorem tableFunction_named {steps : List QueryStep}
    (named : ∀ name arguments, functionCall steps = some (name, arguments) →
      ∃ text, name = .text text) : ∃ function, tableFunction steps = .ok function := by
  cases called : functionCall steps with
  | none => exact ⟨none, by rw [tableFunction, called]⟩
  | some call =>
      obtain ⟨text, isText⟩ := named call.1 call.2 called
      refine ⟨some { name := text, arguments := call.2 }, tableFunction_eq_ok.mpr ?_⟩
      rw [called]
      exact ⟨text, by rw [isText]; rfl, rfl⟩

theorem tableFunction_resolved (steps : List QueryStep) :
    tableFunction steps ≠ .error .unresolved := by
  unfold tableFunction
  split
  · simp
  · exact Fault.map_ne_error (Checked.toExcept_resolved _)

/-- Nothing else in a query is refused as the lack of a type is. -/
theorem selection_resolved {type : EntityType} (selected : chain.selectedType fallback = some type) :
    (chain.selection dialect fallback options).Avoids .unresolved := by
  rw [selection_eq]
  refine .bind (.ofExcept (tableFunction_resolved _)) fun function => ?_
  rw [selected]
  refine .bind (.ofExcept type.metadata_resolved) fun metadata => ?_
  refine (renderAll_resolved _ _).bind fun conditions => ?_
  refine .bind (.ofExcept (mapM_ne_error (resolveJoin_resolved _ _) _)) fun joinClauses => ?_
  refine .bind (.ofExcept (mapM_ne_error (fun _ => Checked.toExcept_resolved _) _)) fun _ => ?_
  exact .answer _

theorem rowType_of_unresolved
    (refused : (chain.selection dialect fallback options parameters).1 = .error .unresolved) :
    chain.rowType fallback = none := by
  rw [rowType_eq]
  cases selected : chain.selectedType fallback with
  | none => rfl
  | some type => exact absurd refused (selection_resolved selected parameters)

theorem unresolved_of_rowType
    (named : ∀ name arguments, functionCall chain.steps = some (name, arguments) →
      ∃ text, name = .text text) (noType : chain.rowType fallback = none) :
    (chain.selection dialect fallback options parameters).1 = .error .unresolved := by
  obtain ⟨function, isFunction⟩ := tableFunction_named named
  have read : Action.ofExcept (tableFunction chain.steps) parameters = (.ok function, parameters) := by
    rw [isFunction]
    rfl
  rw [selection_eq, Action.bind_of_ok read, ← rowType_eq, noType]
  rfl

/-! ## Queries with one type -/

/-- The same calls on a root of a type, none of them naming a type for the rows. -/
def pinned (type : Option EntityType) (chain : QueryChain) : QueryChain where
  root := type
  steps := chain.steps.map QueryStep.untyped

theorem filters_untyped (steps : List QueryStep) :
    filters (steps.map QueryStep.untyped) =
      (filters steps).map fun filter => (filter.1, none) := by
  induction steps with
  | nil => rfl
  | cons step rest ih =>
      cases step with
      | filter predicate type => exact congrArg (List.cons (predicate, none)) ih
      | _ => exact ih

/-- Changes of calls that do not touch the orderings. -/
theorem orderings_map {change : QueryStep → QueryStep}
    (same : ∀ step : QueryStep, (change step).ordering? = step.ordering?)
    (steps : List QueryStep) : orderings (steps.map change) = orderings steps := by
  rw [orderings, orderings, List.filterMap_map]
  exact congrArg List.reverse (List.filterMap_congr fun step _ => same step)

theorem joins_untyped (steps : List QueryStep) :
    joins (steps.map QueryStep.untyped) = joins steps := by
  rw [joins, joins, List.filterMap_map]
  exact congrArg List.reverse (List.filterMap_congr fun step _ => by cases step <;> rfl)

theorem findSome?_map {change : QueryStep → QueryStep} {view : QueryStep → Option α}
    (same : ∀ step : QueryStep, view (change step) = view step) (steps : List QueryStep) :
    (steps.map change).findSome? view = steps.findSome? view := by
  rw [List.findSome?_map]
  exact congrArg (steps.findSome? ·) (funext same)

theorem selectedType_pinned (type : Option EntityType) (chain : QueryChain) :
    (chain.pinned type).selectedType none = type := by
  have noFilter : (filters (chain.pinned type).steps).findSome? (·.2) = none := by
    rw [pinned, filters_untyped, List.findSome?_map]
    exact List.findSome?_eq_none_iff.mpr fun _ _ => rfl
  rw [selectedType, noFilter]
  cases type <;> rfl

/-- Whatever a query is compiled to, its types count only through the type of its rows. -/
theorem selection_pinned (chain : QueryChain) (dialect : Dialect) (fallback : Option EntityType)
    (options : Options) :
    chain.selection dialect fallback options =
      (chain.pinned (chain.rowType fallback)).selection dialect none options := by
  have functions : functionCall (chain.steps.map QueryStep.untyped) = functionCall chain.steps :=
    findSome?_map (fun step => by cases step <;> rfl) _
  have skips : skipCount (chain.steps.map QueryStep.untyped) = skipCount chain.steps :=
    findSome?_map (fun step => by cases step <;> rfl) _
  have takes : takeCount (chain.steps.map QueryStep.untyped) = takeCount chain.steps :=
    findSome?_map (fun step => by cases step <;> rfl) _
  have predicates : (filters (chain.steps.map QueryStep.untyped)).map (·.1) =
      (filters chain.steps).map (·.1) := by
    rw [filters_untyped, List.map_map]
    rfl
  have sorted : orderings (chain.steps.map QueryStep.untyped) = orderings chain.steps :=
    orderings_map (fun step => by cases step <;> rfl) _
  rw [selection_eq, selection_eq]
  unfold tableFunction
  rw [selectedType_pinned, rowType_eq]
  simp only [pinned, functions, skips, takes, predicates, sorted, joins_untyped]

theorem rowType_of_selection {parameters reached : Parameters} {selection : Selection}
    (ran : chain.selection dialect fallback options parameters = (.ok selection, reached)) :
    ∃ type metadata, chain.rowType fallback = some type ∧ type.metadata = .ok metadata ∧
      selection.columns = metadata.mappedColumns.map (·.columnName) := by
  obtain ⟨type, metadata, _, selected, isMetadata, _, describe⟩ := denote_of_selection ran
  rw [← selectedType_eq] at selected
  exact ⟨type, metadata, (chain.rowType_eq fallback).trans selected, isMetadata, describe.columns⟩

end QueryChain

/-- The type that a planned query maps its rows to is the one whose columns its text selects. -/
theorem Work.plan_rowType {source : Query} {condition : Option Predicate} {options : Options}
    {dialect : Dialect} {plan : Plan}
    (planned : (Work.query source condition options).plan dialect = .ok plan) :
    ∃ type metadata selection parameters, plan.type = some type ∧
      (filtered source condition).rowType = some type ∧ type.metadata = .ok metadata ∧
      (filtered source condition).selection options = .ok (selection, parameters) ∧
      (filtered source condition).dialect.writeSelect selection = .ok plan.compiled.sql ∧
      selection.columns = metadata.mappedColumns.map (·.columnName) := by
  rw [plan_query] at planned
  obtain ⟨compiled, accepted, planned⟩ := Fault.bind_eq_ok.mp planned
  cases planned
  obtain ⟨⟨selection, parameters⟩, selected, accepted⟩ := Fault.bind_eq_ok.mp accepted
  obtain ⟨sql, written, accepted⟩ := Fault.bind_eq_ok.mp accepted
  cases accepted
  have ran : (filtered source condition).chain.selection (filtered source condition).dialect
      (filtered source condition).entity options {} = (.ok selection, parameters) := by
    rw [Query.selection] at selected
    split at selected
    · rename_i given
      cases selected
      exact given
    · cases selected
  obtain ⟨type, metadata, isType, isMetadata, columns⟩ := QueryChain.rowType_of_selection ran
  exact ⟨type, metadata, selection, parameters, isType, isType, isMetadata, selected, written,
    columns⟩

namespace QueryChain

/-- The type that rows are mapped to is the type that a query is compiled for.  A chain of calls is
compiled like the same calls with that type for all of them; what is selected are the columns of
that type; and a chain that is refused because no type can be resolved has no such type.  A chain
without such a type is so refused, provided that the function it reads from, if any, has a text for
a name.  So a manager never maps rows to another type than the one whose columns it asks for. -/
theorem rowType_selected (chain : QueryChain) (dialect : Dialect) (fallback : Option EntityType)
    (options : Options) :
    chain.selection dialect fallback options =
        (chain.pinned (chain.rowType fallback)).selection dialect none options ∧
      (∀ parameters selection reached,
        chain.selection dialect fallback options parameters = (.ok selection, reached) →
          ∃ type metadata, chain.rowType fallback = some type ∧ type.metadata = .ok metadata ∧
            selection.columns = metadata.mappedColumns.map (·.columnName)) ∧
      (∀ parameters,
        (chain.selection dialect fallback options parameters).1 =
            .error (.configuration .unresolvedEntity) →
          chain.rowType fallback = none) ∧
      ((∀ name arguments, functionCall chain.steps = some (name, arguments) →
          ∃ text, name = .text text) →
        chain.rowType fallback = none →
          ∀ parameters, (chain.selection dialect fallback options parameters).1 =
            .error (.configuration .unresolvedEntity)) ∧
      ∀ source condition plan, (Work.query source condition options).plan dialect = .ok plan →
        ∃ type metadata selection parameters, plan.type = some type ∧
          (Work.filtered source condition).rowType = some type ∧ type.metadata = .ok metadata ∧
          (Work.filtered source condition).selection options = .ok (selection, parameters) ∧
          (Work.filtered source condition).dialect.writeSelect selection =
            .ok plan.compiled.sql ∧
          selection.columns = metadata.mappedColumns.map (·.columnName) :=
  ⟨chain.selection_pinned dialect fallback options, fun _ _ _ => rowType_of_selection,
    fun _ => rowType_of_unresolved, fun named noType _ => unresolved_of_rowType named noType,
    fun _ _ _ => Work.plan_rowType⟩

/-- Two filters name a type, the latest one does not, and the root has a type of its own. -/
def manyTypes : QueryChain where
  root := some Samples.auditEntry
  steps := [.order (.text "Age") true, .filter (.test (.text "Age") .greater (.int 18)) none,
    .filter (.test (.text "FirstName") .notEqual .null) (some Samples.person), .take 5,
    .filter (.test (.text "LastName") .equal (.text "Li")) (some Samples.widget)]

theorem manyTypes_of_person :
    manyTypes.rowType (some Samples.order) = some Samples.person ∧
      (∃ selection reached,
        manyTypes.selection ⟨.sqlite, .colon⟩ (some Samples.order) {} {} =
            (.ok selection, reached) ∧
          selection.columns = ["Id", "FirstName", "LastName", "Age", "CreateDateUTC"]) ∧
      (({} : QueryChain).selection ⟨.sqlite, .colon⟩ none {} {}).1 =
        .error (.configuration .unresolvedEntity) := by
  refine ⟨rfl, ?_, ?_⟩
  · obtain ⟨_, columns, _⟩ :=
      manyTypes.rowType_selected ⟨.sqlite, .colon⟩ (some Samples.order) {}
    cases ran : manyTypes.selection ⟨.sqlite, .colon⟩ (some Samples.order) {} {} with
    | mk result reached =>
        cases result with
        | error fault =>
            have accepted : (manyTypes.selection ⟨.sqlite, .colon⟩ (some Samples.order) {} {}).1.isOk =
                true := by decide +kernel
            rw [ran] at accepted
            cases accepted
        | ok selection =>
            obtain ⟨type, metadata, isType, isMetadata, selected⟩ := columns {} selection reached ran
            cases isType
            cases isMetadata
            exact ⟨selection, reached, rfl, selected⟩
  · obtain ⟨_, _, _, refused, _⟩ := ({} : QueryChain).rowType_selected ⟨.sqlite, .colon⟩ none {}
    exact refused nofun rfl {}

end QueryChain

end EntitySql
