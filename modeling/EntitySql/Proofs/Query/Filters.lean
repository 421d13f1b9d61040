import EntitySql.Proofs.Action
import EntitySql.Proofs.Predicate.Membership
import EntitySql.Proofs.Query.Meaning
import Mathlib.Data.List.Induction

/-!
# Successive filters

Filters called one after the other compile like a single filter by a conjunction of their
predicates, in which every predicate stands before the conjunction of all that were called
before it.  The text and the numbers of the parameters are the same, and so is the fault of a
query that cannot be compiled.
-/

namespace EntitySql

/-- Predicates combined one after the other, each one before the conjunction of those before it. -/
def Predicate.conjoined (first : Predicate) (later : List Predicate) : Except Fault Predicate :=
  later.foldlM (fun joined next => next.combine .conjunction joined) first

theorem Predicate.conjoined_eq (first : Predicate) {later : List Predicate}
    (conditions : ∀ predicate ∈ later, predicate.isCondition = true) :
    conjoined first later =
      .ok (later.foldl (fun joined next => .logical .conjunction next joined) first) := by
  induction later generalizing first with
  | nil => rfl
  | cons next rest ih =>
      obtain ⟨isCondition, conditions⟩ := List.forall_mem_cons.mp conditions
      rw [conjoined, List.foldlM_cons, combine_of_isCondition .conjunction isCondition]
      exact ih _ conditions

theorem QueryStep.filterMap_others {α : Type} {view : QueryStep → Option α}
    (apart : ∀ predicate type, view (.filter predicate type) = none) (calls : List QueryStep) :
    (calls.filter (·.filter?.isNone)).filterMap view = calls.filterMap view := by
  rw [List.filterMap_filter]
  refine List.filterMap_congr fun step _ => ?_
  cases step with
  | filter predicate type => exact (apart predicate type).symm
  | _ => rfl

/-- The calls without the filters. -/
def CallsByKind.unfiltered (calls : CallsByKind) : CallsByKind := { calls with filters := [] }

namespace QueryChain

/-- The condition of some filters, the latest one first. -/
def conditionOf (scope : Scope) (predicates : List Predicate) :
    Action Parameters (Option String) := do
  let conditions ← renderAll scope predicates
  return conjoin conditions

theorem conditionOf_cons (scope : Scope) (latest : Predicate) (earlier : List Predicate) :
    conditionOf scope (latest :: earlier) = do
      let condition ← scope.render latest
      let others ← conditionOf scope earlier
      return some (others.elim condition fun others =>
        "(" ++ condition ++ ") AND (" ++ others ++ ")") := by
  simp only [conditionOf, renderAll, bind_assoc, pure_bind, conjoin]
  congr! 4 with condition conditions
  cases conjoin conditions <;> rfl

theorem render_conjunction (scope : Scope) (left right : Predicate) :
    scope.render (.logical .conjunction left right) = do
      let first ← scope.render left
      let second ← scope.render right
      return "(" ++ first ++ ") AND (" ++ second ++ ")" := by
  have between (first : String) :
      "(" ++ first ++ ") " ++ "AND" ++ " (" = "(" ++ first ++ ") AND (" := by
    simp only [String.append_assoc]
    rfl
  simp only [← between]
  rfl

/-- The filters of a chain have the condition that their conjunction has. -/
theorem conditionOf_eq (scope : Scope) (first : Predicate) (later : List Predicate) :
    conditionOf scope (first :: later).reverse = do
      let condition ← scope.render
        (later.foldl (fun joined next => .logical .conjunction next joined) first)
      return some condition := by
  induction later using List.reverseRecOn with
  | nil =>
      rw [List.reverse_singleton, conditionOf_cons]
      rfl
  | append_singleton earlier latest ih =>
      rw [← List.cons_append, List.reverse_append, List.foldl_append, List.foldl_cons,
        List.foldl_nil, List.reverse_singleton, List.singleton_append, conditionOf_cons, ih,
        render_conjunction]
      simp only [bind_assoc, pure_bind, Option.elim]

/-- Chains that differ in their filters alone select the same, if the filters name the same type
and have the same condition. -/
theorem selection_of_condition {chain other : QueryChain} {dialect : Dialect}
    {fallback : Option EntityType} {options : Options}
    (others : other.byKind.unfiltered = chain.byKind.unfiltered)
    (types : other.selectedType fallback = chain.selectedType fallback)
    (condition : ∀ scope, conditionOf scope ((filters other.steps).map (·.1)) =
      conditionOf scope ((filters chain.steps).map (·.1))) :
    other.selection dialect fallback options = chain.selection dialect fallback options := by
  have orderings : other.byKind.orderings = chain.byKind.orderings :=
    congrArg (·.orderings) others
  have skips : other.byKind.skips = chain.byKind.skips := congrArg (·.skips) others
  have takes : other.byKind.takes = chain.byKind.takes := congrArg (·.takes) others
  have joins : other.byKind.joins = chain.byKind.joins := congrArg (·.joins) others
  have functions : other.byKind.functions = chain.byKind.functions :=
    congrArg (·.functions) others
  rw [selection_eq, selection_eq]
  unfold tableFunction
  simp only [types, functionCall_eq, joins_eq, orderings_eq, skipCount_eq, takeCount_eq, orderings,
    skips, takes, joins, functions]
  congr! 5 with function type metadata
  funext metadata
  exact Action.bind_congr_view (condition _) fun texts others same => by simp only [same]

end QueryChain

namespace Query

/-- The query with more calls, the first one first. -/
def extended (query : Query) (calls : List QueryStep) : Query := calls.foldl push query

theorem extended_eq (query : Query) (calls : List QueryStep) :
    query.extended calls =
      { query with chain := { query.chain with steps := calls.reverse ++ query.chain.steps } } := by
  induction calls generalizing query with
  | nil => rfl
  | cons call rest ih =>
      change extended (query.push call) rest = _
      rw [ih, List.reverse_cons, List.append_assoc]
      rfl

theorem compile_extended_congr (query : Query) {calls single : List QueryStep} {options : Options}
    (selected :
      (query.extended single).chain.selection query.dialect query.entity options =
        (query.extended calls).chain.selection query.dialect query.entity options) :
    (query.extended single).compile options = (query.extended calls).compile options := by
  rw [extended_eq, extended_eq] at selected ⊢
  simp only [compile, selection, selected]

theorem calls_extended (query : Query) (calls : List QueryStep) :
    (query.extended calls).chain.calls = query.chain.calls ++ calls := by
  rw [extended_eq, QueryChain.calls, QueryChain.calls, List.reverse_append, List.reverse_reverse]

theorem filters_extended {query : Query} (unfiltered : query.chain.byKind.filters = [])
    (calls : List QueryStep) :
    (query.extended calls).chain.byKind.filters = calls.filterMap (·.filter?) := by
  change (query.extended calls).chain.calls.filterMap _ = _
  rw [calls_extended, List.filterMap_append]
  exact congrArg (· ++ _) unfiltered

theorem unfiltered_extended (query : Query) {calls single : List QueryStep}
    (others : single.filter (·.filter?.isNone) = calls.filter (·.filter?.isNone)) :
    (query.extended single).chain.byKind.unfiltered =
      (query.extended calls).chain.byKind.unfiltered := by
  have same {α : Type} {view : QueryStep → Option α}
      (apart : ∀ predicate type, view (.filter predicate type) = none) :
      (query.extended single).chain.calls.filterMap view =
        (query.extended calls).chain.calls.filterMap view := by
    rw [calls_extended, calls_extended, List.filterMap_append, List.filterMap_append,
      ← QueryStep.filterMap_others apart single, others, QueryStep.filterMap_others apart]
  simp only [CallsByKind.unfiltered, QueryChain.byKind, CallsByKind.mk.injEq, true_and]
  have apart {α : Type} (_ : Predicate) (_ : Option EntityType) : (none : Option α) = none := rfl
  exact ⟨same apart, same apart, same apart, same apart, same apart⟩

/-- Filters that are called one after the other, with other calls between them, compile exactly
like a single filter by the conjunction of each predicate with all before it, wherever that one
stands among the same other calls.  A filter that the query has already stays the innermost
one, so it counts as the first predicate. -/
theorem filters_conjoin {query : Query} (unfiltered : query.chain.byKind.filters = [])
    (first : Predicate) {later : List Predicate}
    (conditions : ∀ predicate ∈ later, predicate.isCondition = true) {calls : List QueryStep}
    (filters : calls.filterMap (·.filter?) =
      (first :: later).map fun predicate => (predicate, none)) :
    ∃ conjunction, first.conjoined later = .ok conjunction ∧
      ∀ single : List QueryStep, single.filterMap (·.filter?) = [(conjunction, none)] →
        single.filter (·.filter?.isNone) = calls.filter (·.filter?.isNone) →
        ∀ options, (query.extended single).compile options =
          (query.extended calls).compile options := by
  refine ⟨_, first.conjoined_eq conditions, fun single filter others options => ?_⟩
  have whole := filters_extended unfiltered calls
  have joined := filters_extended unfiltered single
  rw [filters] at whole
  rw [filter] at joined
  have untyped (predicates : List Predicate) :
      (predicates.map fun predicate => (predicate, (none : Option EntityType))).filterMap (·.2) =
        [] := by
    simp
  have latestFirst (predicates : List Predicate) :
      (predicates.map fun predicate => (predicate, (none : Option EntityType))).reverse.map (·.1) =
        predicates.reverse := by
    simp [← List.map_reverse, Function.comp_def]
  refine query.compile_extended_congr (QueryChain.selection_of_condition
    (query.unfiltered_extended others) ?_ fun scope => ?_)
  · rw [QueryChain.selectedType_eq, QueryChain.selectedType_eq, whole, joined, untyped,
      extended_eq, extended_eq]
    rfl
  · rw [QueryChain.filters_eq, QueryChain.filters_eq, whole, joined, latestFirst,
      QueryChain.conditionOf_eq]
    exact QueryChain.conditionOf_eq scope _ []

def people : Query := start ⟨.sqlite, .colon⟩ (some Samples.person)

def isAdult : Predicate := .test (.text "Age") .greaterOrEqual (.int 18)

def isNamed : Predicate := .test (.text "FirstName") .equal (.text "Ann")

/-- A join before the first filter, an ordering between the filters and a window behind them. -/
def twiceFiltered : List QueryStep :=
  [.join (some Samples.order) (.text "Id") (.text "PersonId"), .filter isAdult none,
    .order (.text "Age") true, .filter isNamed none, .take 5]

/-- The same calls with a single filter behind them. -/
def onceFiltered : List QueryStep :=
  [.join (some Samples.order) (.text "Id") (.text "PersonId"), .order (.text "Age") true, .take 5,
    .filter (.logical .conjunction isNamed isAdult) none]

theorem twiceFiltered_sql :
    ((people.extended twiceFiltered).compile).toOption.map (·.sql) = some
      ("SELECT \"Person\".\"Id\", \"Person\".\"FirstName\", \"Person\".\"LastName\", " ++
        "\"Person\".\"Age\", \"Person\".\"CreateDateUTC\" FROM \"Person\" " ++
        "INNER JOIN \"Orders\" ON \"Person\".\"Id\" = \"Orders\".\"PersonId\" " ++
        "WHERE (\"Person\".\"FirstName\" = :p0) AND (\"Person\".\"Age\" >= :p1) " ++
        "ORDER BY \"Person\".\"Age\" DESC LIMIT 5") := by
  decide +kernel

theorem twiceFiltered_conjoins :
    (people.extended twiceFiltered).compile.isOk = true ∧
      (people.extended onceFiltered).compile = (people.extended twiceFiltered).compile := by
  obtain ⟨conjunction, conjoined, same⟩ :=
    @filters_conjoin people rfl isAdult [isNamed] (by decide) twiceFiltered rfl
  cases conjoined
  obtain ⟨_, accepted, _⟩ := Fault.ok_of_seen twiceFiltered_sql
  exact ⟨by rw [accepted]; rfl, same onceFiltered rfl rfl {}⟩

/-- A query with a filter, which later filters enclose one after the other. -/
def severe : Query :=
  (start ⟨.sqlite, .colon⟩ (some Samples.auditEntry)).filter
    (.test (.text "Level") .greater (.int 1))

/-- Behind a filter that the query has already, two filters and their conjunction nest
differently. -/
theorem severe_not_conjoined :
    ∃ conjunction,
      Predicate.conjoined (.test (.text "Message") .equal (.text "a"))
        [.test (.text "Level") .less (.int 5)] = .ok conjunction ∧
      (severe.extended [.filter conjunction none]).compile ≠
        (severe.extended [.filter (.test (.text "Message") .equal (.text "a")) none,
          .filter (.test (.text "Level") .less (.int 5)) none]).compile := by
  refine ⟨_, rfl, fun same => ?_⟩
  have texts := congrArg (·.toOption.map (·.sql)) same
  revert texts
  decide +kernel

end Query

end EntitySql
