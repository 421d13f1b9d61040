import EntitySql.Proofs.Query.Mention
import EntitySql.Samples
import Mathlib.Data.List.Induction

/-!
# What a chain of calls means

Read forward, a chain of calls leaves six lists, one for each kind of call.  Of
windows and functions the last call counts, orderings and joins are kept in the
order of the calls, and every filter stands before all filters that were called
before it.  How calls of different kinds alternate means nothing.
-/

namespace EntitySql

open Form (readText)

theorem mapM_of_forall₂ {α β : Type} {step : α → Except Fault β} {items : List α}
    {given : List β} (each : List.Forall₂ (fun item value => step item = .ok value) items given) :
    items.mapM step = .ok given := by
  induction each with
  | nil => rfl
  | cons first rest ih =>
      rw [List.mapM_cons]
      exact Fault.bind_eq_ok.mpr ⟨_, first, Fault.bind_eq_ok.mpr ⟨_, ih, rfl⟩⟩

theorem Checked.toExcept_map_eq_ok {α β : Type} {checked : Checked α} {view : α → β}
    {step : String} {value : β} :
    (view <$> checked.below step).toExcept = .ok value ↔
      ∃ given, checked = .valid given ∧ view given = value := by
  cases checked with
  | valid given =>
      change Except.ok (view given) = .ok value ↔ _
      simp
  | invalid issues =>
      change Except.error _ = Except.ok value ↔ _
      simp

theorem TableFunction.ofFields_named (name : Value) (arguments : List Value) :
    TableFunction.ofFields [(.text "name", name), (.text "args", .tuple arguments)] =
      (fun text => ({ name := text, arguments } : TableFunction)) <$>
        (readText name).below "name" := by
  change (fun name arguments (_ : Unit) => ({ name, arguments } : TableFunction)) <$>
    (readText name).below "name" <*> .valid arguments <*> .valid () = _
  cases readText name <;> rfl

theorem SortTerm.ofFields_named (column : Value) (descending : Bool) :
    SortTerm.ofFields [(.text "column", column), (.text "descending", .bool descending)] =
      (fun text => ({ column := text, descending } : SortTerm)) <$>
        (readText column).below "column" := by
  change (fun column descending (_ : Unit) => ({ column, descending } : SortTerm)) <$>
    (readText column).below "column" <*> .valid descending <*> .valid () = _
  cases readText column <;> rfl

namespace QueryStep

def filter? : QueryStep → Option (Predicate × Option EntityType)
  | filter predicate type => some (predicate, type)
  | _ => none

def ordering? : QueryStep → Option (Value × Bool)
  | order member descending => some (member, descending)
  | _ => none

def skip? : QueryStep → Option Nat
  | skip count => some count
  | _ => none

def take? : QueryStep → Option Nat
  | take count => some count
  | _ => none

def join? : QueryStep → Option (Option EntityType × Value × Value)
  | join inner outerKey innerKey => some (inner, outerKey, innerKey)
  | _ => none

def function? : QueryStep → Option (Value × List Value)
  | function name arguments => some (name, arguments)
  | _ => none

end QueryStep

/-- The calls of each kind, the first one first. -/
structure CallsByKind where
  filters : List (Predicate × Option EntityType)
  orderings : List (Value × Bool)
  skips : List Nat
  takes : List Nat
  joins : List (Option EntityType × Value × Value)
  functions : List (Value × List Value)

namespace QueryChain

/-- The calls of a chain, the first one first. -/
def calls (chain : QueryChain) : List QueryStep := chain.steps.reverse

def byKind (chain : QueryChain) : CallsByKind where
  filters := chain.calls.filterMap (·.filter?)
  orderings := chain.calls.filterMap (·.ordering?)
  skips := chain.calls.filterMap (·.skip?)
  takes := chain.calls.filterMap (·.take?)
  joins := chain.calls.filterMap (·.join?)
  functions := chain.calls.filterMap (·.function?)

/-- The condition of conditions in the order of the calls. -/
def nested (conditions : List String) : Option String :=
  conditions.foldl
    (fun inner condition =>
      some (inner.elim condition fun inner => "(" ++ condition ++ ") AND (" ++ inner ++ ")"))
    none

/-! ## The parts by kind -/

variable (chain : QueryChain)

theorem findSome?_eq_getLast? {α : Type} (view : QueryStep → Option α) :
    chain.steps.findSome? view = (chain.calls.filterMap view).getLast? := by
  rw [calls, List.filterMap_reverse, List.getLast?_reverse, List.head?_filterMap]

theorem filters_eq : filters chain.steps = chain.byKind.filters.reverse := by
  change _ = (chain.calls.filterMap (·.filter?)).reverse
  rw [calls, List.filterMap_reverse, List.reverse_reverse]
  exact List.filterMap_congr fun step _ => by cases step <;> rfl

theorem orderings_eq : orderings chain.steps = chain.byKind.orderings := by
  rw [orderings, ← List.filterMap_reverse]
  exact List.filterMap_congr fun step _ => by cases step <;> rfl

theorem joins_eq : joins chain.steps = chain.byKind.joins := by
  rw [joins, ← List.filterMap_reverse]
  exact List.filterMap_congr fun step _ => by cases step <;> rfl

theorem skipCount_eq : skipCount chain.steps = chain.byKind.skips.getLast? := by
  refine Eq.trans (congrArg chain.steps.findSome? ?_) (chain.findSome?_eq_getLast? (·.skip?))
  funext step
  cases step <;> rfl

theorem takeCount_eq : takeCount chain.steps = chain.byKind.takes.getLast? := by
  refine Eq.trans (congrArg chain.steps.findSome? ?_) (chain.findSome?_eq_getLast? (·.take?))
  funext step
  cases step <;> rfl

theorem functionCall_eq : functionCall chain.steps = chain.byKind.functions.getLast? := by
  refine Eq.trans (congrArg chain.steps.findSome? ?_) (chain.findSome?_eq_getLast? (·.function?))
  funext step
  cases step <;> rfl

theorem selectedType_eq (fallback : Option EntityType) :
    chain.selectedType fallback =
      (chain.byKind.filters.filterMap (·.2)).getLast?.or (chain.root.or fallback) := by
  rw [selectedType, filters_eq, ← List.head?_filterMap, List.filterMap_reverse,
    List.head?_reverse]

theorem conjoin_reverse (conditions : List String) :
    conjoin conditions.reverse = nested conditions := by
  rw [nested, ← List.foldr_reverse]
  induction conditions.reverse with
  | nil => rfl
  | cons condition rest ih =>
      rw [conjoin, ih, List.foldr_cons]
      cases List.foldr _ none rest <;> rfl

theorem tableFunction_eq_ok {steps : List QueryStep} {function : Option TableFunction} :
    tableFunction steps = .ok function ↔
      match functionCall steps with
      | none => function = none
      | some (name, arguments) =>
        ∃ text, readText name = .valid text ∧ function = some { name := text, arguments } := by
  unfold tableFunction
  cases functionCall steps with
  | none => simp [eq_comm]
  | some call =>
      obtain ⟨name, arguments⟩ := call
      simp only [TableFunction.ofFields_named]
      cases readText name with
      | valid text =>
          change Except.ok (some (TableFunction.mk text arguments)) = Except.ok function ↔ _
          simp [eq_comm]
      | invalid issues =>
          change Except.error _ = Except.ok function ↔ _
          simp

theorem sortTerm_eq_ok {metadata : Metadata} {ordering : Value × Bool} {term : SortTerm} :
    sortTerm metadata ordering = .ok term ↔
      readText (metadata.columnOf ordering.1) = .valid term.column ∧
        term.descending = ordering.2 := by
  rw [sortTerm, SortTerm.ofFields_named, Checked.toExcept_map_eq_ok]
  constructor
  · rintro ⟨text, read, rfl⟩
    exact ⟨read, rfl⟩
  · rintro ⟨read, same⟩
    exact ⟨term.column, read, by rw [← same]⟩

theorem resolveJoin_eq_ok {table : String} {metadata : Metadata}
    {call : Option EntityType × Value × Value} {join : Join} :
    resolveJoin table metadata call = .ok join ↔
      ∃ type inner, call.1 = some type ∧ type.metadata = .ok inner ∧ join = {
        table := inner.tableName
        leftColumn := table ++ "." ++ (metadata.columnOf call.2.1).plainText
        rightColumn := inner.tableName ++ "." ++ (inner.columnOf call.2.2).plainText } := by
  obtain ⟨type, outerKey, innerKey⟩ := call
  cases type with
  | none => simp [resolveJoin, EntityType.given, bind, Except.bind]
  | some type =>
      cases known : type.metadata with
      | error fault => simp [resolveJoin, EntityType.given, bind, Except.bind, known]
      | ok inner => simp [resolveJoin, EntityType.given, bind, Except.bind, known, eq_comm]

end QueryChain

/-! ## The meaning -/

namespace CallsByKind

variable (calls : CallsByKind)

/-- What the filters are rendered in.  Joins make bare names ambiguous, unless a function is
read from. -/
def scope (dialect : Dialect) (metadata : Metadata) (table : String) : Scope where
  dialect
  metadata := some metadata
  qualifier := if calls.joins.isEmpty || !calls.functions.isEmpty then none else some table

/-- The parts of the selection that the calls describe. -/
structure Describe (metadata : Metadata) (table : String) (texts : List String)
    (selection : Selection) : Prop where
  skip : selection.skip = calls.skips.getLast?
  take : selection.take = calls.takes.getLast?
  source :
    match calls.functions.getLast? with
    | none => selection.source = .table table
    | some (name, arguments) =>
      ∃ text, readText name = .valid text ∧
        selection.source = .function { name := text, arguments }
  columns : selection.columns = metadata.mappedColumns.map (·.columnName)
  primaryKeys : selection.primaryKeys = metadata.keyColumns.map (·.columnName)
  condition : selection.condition = QueryChain.nested texts
  orderBy : List.Forall₂
    (fun ordering term => readText (metadata.columnOf ordering.1) = .valid term.column ∧
      term.descending = ordering.2)
    calls.orderings selection.orderBy
  joins : List.Forall₂
    (fun call join => ∃ type inner, call.1 = some type ∧ type.metadata = .ok inner ∧ join = {
      table := inner.tableName
      leftColumn := table ++ "." ++ (metadata.columnOf call.2.1).plainText
      rightColumn := inner.tableName ++ "." ++ (inner.columnOf call.2.2).plainText })
    calls.joins selection.joins

/-- The conditions of filters, both in the order of the calls.  Each filter is written once, the
last one first; its parameters are numbered on from those of the filters called after it. -/
inductive Writes (scope : Scope) :
    List Predicate → Parameters → List String → Parameters → Prop
  | none {parameters : Parameters} : Writes scope [] parameters [] parameters
  | last {earlier : List Predicate} {predicate : Predicate} {texts : List String} {text : String}
      {parameters bound reached : Parameters}
      (rendered : scope.render predicate parameters = (.ok text, bound))
      (rest : Writes scope earlier bound texts reached) :
      Writes scope (earlier ++ [predicate]) parameters (texts ++ [text]) reached

/-- The calls mean the selection: it is described by them for the type of the last filter that
names one, else that of the root, else the fallback, and has the conditions of all filters. -/
def Denote (root fallback : Option EntityType) (dialect : Dialect) (options : Options)
    (parameters : Parameters) (selection : Selection) (reached : Parameters) : Prop :=
  ∃ type metadata texts,
    (calls.filters.filterMap (·.2)).getLast?.or (root.or fallback) = some type ∧
    type.metadata = .ok metadata ∧
    Writes (calls.scope dialect metadata (options.tableOr metadata.tableName))
      (calls.filters.map (·.1)) parameters texts reached ∧
    calls.Describe metadata (options.tableOr metadata.tableName) texts selection

end CallsByKind

namespace QueryChain

variable {chain : QueryChain} {dialect : Dialect} {fallback : Option EntityType}
variable {options : Options} {parameters reached : Parameters} {selection : Selection}

theorem scope_eq {function : Option TableFunction} (metadata : Metadata) (table : String)
    (isFunction : tableFunction chain.steps = .ok function) :
    ({ dialect, metadata := some metadata,
        qualifier := if (joins chain.steps).isEmpty || function.isSome then none else some table } :
      Scope) = chain.byKind.scope dialect metadata table := by
  have called := Query.isSome_functionCall isFunction
  rw [CallsByKind.scope, joins_eq, ← called, functionCall_eq]
  cases chain.byKind.functions with
  | nil => rfl
  | cons call rest => simp [List.getLast?_cons]

/-- Rendering from the last filter to the first is how the conditions are written. -/
theorem writes_iff {scope : Scope} {predicates : List Predicate} {texts : List String} :
    CallsByKind.Writes scope predicates parameters texts reached ↔
      renderAll scope predicates.reverse parameters = (.ok texts.reverse, reached) := by
  constructor
  · intro writes
    induction writes with
    | none => rfl
    | last rendered _ ih =>
        rw [List.reverse_concat, List.reverse_concat]
        exact Action.bind_eq_ok.mpr ⟨_, _, rendered, Action.bind_eq_ok.mpr ⟨_, _, ih, rfl⟩⟩
  · intro ran
    induction predicates using List.reverseRecOn generalizing parameters texts with
    | nil =>
        obtain ⟨none, rfl⟩ := Action.answer_eq_ok.mp ran
        rw [List.reverse_eq_nil_iff.mp none.symm]
        exact .none
    | append_singleton earlier predicate ih =>
        rw [List.reverse_concat] at ran
        obtain ⟨text, bound, rendered, ran⟩ := Action.bind_eq_ok.mp ran
        obtain ⟨others, _, rest, ran⟩ := Action.bind_eq_ok.mp ran
        obtain ⟨isTexts, rfl⟩ := Action.answer_eq_ok.mp ran
        obtain rfl : texts = others.reverse ++ [text] := by
          rw [← List.reverse_cons, isTexts, List.reverse_reverse]
        exact .last rendered (ih (by rwa [List.reverse_reverse]))

theorem denote_of_selection
    (ran : chain.selection dialect fallback options parameters = (.ok selection, reached)) :
    chain.byKind.Denote chain.root fallback dialect options parameters selection reached := by
  rw [selection_eq] at ran
  obtain ⟨function, isFunction, ran⟩ := Action.ofExcept_bind_eq_ok.mp ran
  rw [selectedType_eq] at ran
  cases selected : (chain.byKind.filters.filterMap (·.2)).getLast?.or (chain.root.or fallback) with
  | none =>
      rw [selected] at ran
      exact absurd ran Action.fail_ne_ok
  | some type =>
      rw [selected] at ran
      obtain ⟨metadata, isMetadata, ran⟩ := Action.ofExcept_bind_eq_ok.mp ran
      obtain ⟨texts, _, rendered, ran⟩ := Action.bind_eq_ok.mp ran
      obtain ⟨joins, areJoins, ran⟩ := Action.ofExcept_bind_eq_ok.mp ran
      obtain ⟨terms, areTerms, ran⟩ := Action.ofExcept_bind_eq_ok.mp ran
      obtain ⟨rfl, rfl⟩ := Action.answer_eq_ok.mp ran
      rw [scope_eq metadata _ isFunction, filters_eq] at rendered
      rw [joins_eq] at areJoins
      rw [orderings_eq] at areTerms
      refine ⟨type, metadata, texts.reverse, selected, isMetadata, ?_, ?_⟩
      · rwa [writes_iff, List.reverse_reverse, ← List.map_reverse]
      · exact {
          skip := chain.skipCount_eq
          take := chain.takeCount_eq
          source := by
            have named := tableFunction_eq_ok.mp isFunction
            rw [functionCall_eq] at named
            cases last : chain.byKind.functions.getLast? with
            | none =>
                rw [last] at named
                subst named
                rfl
            | some call =>
                rw [last] at named
                obtain ⟨text, read, rfl⟩ := named
                exact ⟨text, read, rfl⟩
          columns := rfl
          primaryKeys := rfl
          condition := by rw [← conjoin_reverse, List.reverse_reverse]
          orderBy := (forall₂_of_mapM areTerms).imp fun _ _ => sortTerm_eq_ok.mp
          joins := (forall₂_of_mapM areJoins).imp fun _ _ => resolveJoin_eq_ok.mp }

theorem selection_of_denote
    (denote :
      chain.byKind.Denote chain.root fallback dialect options parameters selection reached) :
    chain.selection dialect fallback options parameters = (.ok selection, reached) := by
  obtain ⟨type, metadata, texts, selected, isMetadata, rendered, describe⟩ := denote
  have areJoins : (joins chain.steps).mapM
      (resolveJoin (options.tableOr metadata.tableName) metadata) = .ok selection.joins := by
    rw [joins_eq]
    exact mapM_of_forall₂ (describe.joins.imp fun _ _ => resolveJoin_eq_ok.mpr)
  have areTerms : (orderings chain.steps).mapM (sortTerm metadata) = .ok selection.orderBy := by
    rw [orderings_eq]
    exact mapM_of_forall₂ (describe.orderBy.imp fun _ _ => sortTerm_eq_ok.mpr)
  obtain ⟨function, isFunction, isSource⟩ : ∃ function,
      tableFunction chain.steps = .ok function ∧ selection.source =
        function.elim (.table (options.tableOr metadata.tableName)) .function := by
    have source := describe.source
    rw [← functionCall_eq] at source
    cases called : functionCall chain.steps with
    | none =>
        rw [called] at source
        exact ⟨none, tableFunction_eq_ok.mpr (by rw [called]), source⟩
    | some call =>
        rw [called] at source
        obtain ⟨text, read, isSource⟩ := source
        exact ⟨some _, tableFunction_eq_ok.mpr (by rw [called]; exact ⟨text, read, rfl⟩), isSource⟩
  rw [selection_eq]
  refine Action.ofExcept_bind_eq_ok.mpr ⟨function, isFunction, ?_⟩
  rw [selectedType_eq, selected]
  refine Action.ofExcept_bind_eq_ok.mpr ⟨metadata, isMetadata, ?_⟩
  rw [writes_iff, ← List.map_reverse] at rendered
  rw [scope_eq metadata _ isFunction, filters_eq]
  refine Action.bind_eq_ok.mpr ⟨_, _, rendered, Action.ofExcept_bind_eq_ok.mpr ⟨_, areJoins,
    Action.ofExcept_bind_eq_ok.mpr ⟨_, areTerms, Action.answer_eq_ok.mpr ⟨?_, rfl⟩⟩⟩⟩
  rw [conjoin_reverse, skipCount_eq, takeCount_eq, ← describe.skip, ← describe.take,
    ← describe.columns, ← describe.primaryKeys, ← describe.condition]
  cases selection
  obtain rfl := isSource
  cases function <;> rfl

theorem selection_of_byKind {other : QueryChain} (root : other.root = chain.root)
    (byKind : other.byKind = chain.byKind) :
    other.selection dialect fallback options = chain.selection dialect fallback options := by
  rw [selection_eq, selection_eq]
  unfold tableFunction
  simp only [selectedType_eq, functionCall_eq, filters_eq, joins_eq, orderings_eq, skipCount_eq,
    takeCount_eq, root, byKind]

/-- A chain compiles exactly to the selection that its calls mean, and chains with the same
calls of each kind compile to the same, however the kinds alternate. -/
theorem selection_meaning (chain : QueryChain) (dialect : Dialect) (fallback : Option EntityType)
    (options : Options) :
    (∀ parameters selection reached,
      chain.selection dialect fallback options parameters = (.ok selection, reached) ↔
        chain.byKind.Denote chain.root fallback dialect options parameters selection reached) ∧
    ∀ other : QueryChain, other.root = chain.root → other.byKind = chain.byKind →
      other.selection dialect fallback options = chain.selection dialect fallback options ∧
      Query.compile { dialect, entity := fallback, chain := other } options =
        Query.compile { dialect, entity := fallback, chain } options := by
  refine ⟨fun parameters selection reached => ⟨denote_of_selection, selection_of_denote⟩,
    fun other root byKind => ?_⟩
  have same : other.selection dialect fallback options = chain.selection dialect fallback options :=
    selection_of_byKind root byKind
  refine ⟨same, ?_⟩
  simp only [Query.compile, Query.selection, same]

/-- Grown people by age, of whom the last window keeps none. -/
def oldest : QueryChain where
  root := some Samples.person
  steps := [.take 0, .filter (.test (.text "Age") .greaterOrEqual (.int 18)) none,
    .order (.text "Age") true, .take 5, .filter (.test (.text "LastName") .equal (.text "x")) none,
    .filter (.test (.text "FirstName") .notEqual .null) none]

/-- The same calls with the orderings and windows called first. -/
def oldestRearranged : QueryChain where
  root := some Samples.person
  steps := [.filter (.test (.text "Age") .greaterOrEqual (.int 18)) none,
    .filter (.test (.text "LastName") .equal (.text "x")) none,
    .filter (.test (.text "FirstName") .notEqual .null) none, .take 0, .take 5,
    .order (.text "Age") true]

theorem oldest_selection :
    ∃ reached, oldest.selection ⟨.sqlite, .colon⟩ none {} {} = (.ok {
        source := .table "Person"
        columns := ["Id", "FirstName", "LastName", "Age", "CreateDateUTC"]
        condition := some
          "(\"Age\" >= :p0) AND ((\"LastName\" = :p1) AND (\"FirstName\" IS NOT NULL))"
        primaryKeys := ["Id"]
        take := some 0
        orderBy := [{ column := "Age", descending := true }] }, reached) ∧
      reached.entries = [("p0", .int 18), ("p1", .text "x")] :=
  ⟨_, rfl, rfl⟩

theorem oldest_meaning :
    (∃ selection reached,
      oldest.byKind.Denote oldest.root none ⟨.sqlite, .colon⟩ {} {} selection reached ∧
        selection.condition = some
          "(\"Age\" >= :p0) AND ((\"LastName\" = :p1) AND (\"FirstName\" IS NOT NULL))" ∧
        selection.skip = none ∧ selection.take = some 0 ∧
        selection.orderBy = [{ column := "Age", descending := true }] ∧
        reached.entries = [("p0", .int 18), ("p1", .text "x")]) ∧
      Query.compile { dialect := ⟨.sqlite, .colon⟩, chain := oldestRearranged } =
        Query.compile { dialect := ⟨.sqlite, .colon⟩, chain := oldest } := by
  obtain ⟨denotes, alike⟩ := selection_meaning oldest ⟨.sqlite, .colon⟩ none {}
  obtain ⟨reached, ran, entries⟩ := oldest_selection
  exact ⟨⟨_, reached, (denotes {} _ reached).mp ran, rfl, rfl, rfl, rfl, entries⟩,
    (alike oldestRearranged rfl rfl).2⟩

end QueryChain

end EntitySql
