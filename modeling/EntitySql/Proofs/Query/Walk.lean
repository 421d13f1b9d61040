import EntitySql.Query.Compiled

/-!
# The walk along the calls

One walk from the latest call back to the first collects everything that a selection is made
of.  It ends with what a search for each kind of call would find: of windows, functions and
types the latest, of orderings, joins and filters all.
-/

namespace EntitySql.QueryChain

/-- The filters, latest first, each with the type it names. -/
def filters (steps : List QueryStep) : List (Predicate × Option EntityType) :=
  steps.filterMap fun step =>
    match step with
    | .filter predicate type => some (predicate, type)
    | _ => none

/-- The orderings in the order of the calls. -/
def orderings (steps : List QueryStep) : List (Value × Bool) :=
  (steps.filterMap fun step =>
    match step with
    | .order member descending => some (member, descending)
    | _ => none).reverse

/-- The joins in the order of the calls. -/
def joins (steps : List QueryStep) : List (Option EntityType × Value × Value) :=
  (steps.filterMap fun step =>
    match step with
    | .join inner outerKey innerKey => some (inner, outerKey, innerKey)
    | _ => none).reverse

/-- The number of rows that the latest such call leaves out. -/
def skipCount (steps : List QueryStep) : Option Nat :=
  steps.findSome? fun step =>
    match step with
    | .skip count => some count
    | _ => none

/-- The number of rows that the latest such call keeps. -/
def takeCount (steps : List QueryStep) : Option Nat :=
  steps.findSome? fun step =>
    match step with
    | .take count => some count
    | _ => none

/-- The name and the arguments of the latest call that sets a function. -/
def functionCall (steps : List QueryStep) : Option (Value × List Value) :=
  steps.findSome? fun step =>
    match step with
    | .function name arguments => some (name, arguments)
    | _ => none

/-- The function that is read from, whose name has to be a text. -/
def tableFunction (steps : List QueryStep) : Except Fault (Option TableFunction) :=
  match functionCall steps with
  | none => .ok none
  | some (name, arguments) =>
    (TableFunction.ofFields
      [(.text "name", name), (.text "args", .tuple arguments)]).toExcept.map some

/-- The entity type whose columns are selected. -/
def selectedType (chain : QueryChain) (fallback : Option EntityType) : Option EntityType :=
  ((filters chain.steps).findSome? (·.2)).or (chain.root.or fallback)

/-- The function of the calls met so far, or else that of the calls to come. -/
def functionOnward (met : Collected) (steps : List QueryStep) :
    Except Fault (Option TableFunction) :=
  match met.function with
  | some function => .ok (some function)
  | none => tableFunction steps

/-- What was met so far together with what the searches find in the calls to come. -/
def onward (met : Collected) (steps : List QueryStep) : Except Fault Collected :=
  (functionOnward met steps).map fun function => {
    skip := met.skip.or (skipCount steps)
    take := met.take.or (takeCount steps)
    function
    orderings := orderings steps ++ met.orderings
    joins := joins steps ++ met.joins
    filters := met.filters ++ (filters steps).map (·.1)
    type := met.type.or ((filters steps).findSome? (·.2)) }

theorem onward_nil (met : Collected) : onward met [] = .ok met := by
  obtain ⟨skip, take, function, orderings, joins, filters, type⟩ := met
  cases function <;>
    simp [onward, functionOnward, tableFunction, functionCall, Except.map, skipCount, takeCount,
      QueryChain.orderings, QueryChain.joins, QueryChain.filters]

/-- It comes to the same whether the next call is taken up or left to the searches. -/
theorem onward_cons (met : Collected) (step : QueryStep) (rest : List QueryStep) :
    onward met (step :: rest) = met.add step >>= fun next => onward next rest := by
  cases step with
  | skip count =>
      change _ = onward { met with skip := met.skip.or (some count) } rest
      rw [onward, onward, Option.or_assoc]
      rfl
  | take count =>
      change _ = onward { met with take := met.take.or (some count) } rest
      rw [onward, onward, Option.or_assoc]
      rfl
  | order member descending =>
      change _ = onward { met with orderings := (member, descending) :: met.orderings } rest
      have found : orderings (.order member descending :: rest) =
          orderings rest ++ [(member, descending)] :=
        List.reverse_cons
      rw [onward, onward, found, List.append_assoc]
      rfl
  | join inner outerKey innerKey =>
      change _ = onward { met with joins := (inner, outerKey, innerKey) :: met.joins } rest
      have found : joins (.join inner outerKey innerKey :: rest) =
          joins rest ++ [(inner, outerKey, innerKey)] :=
        List.reverse_cons
      rw [onward, onward, found, List.append_assoc]
      rfl
  | filter predicate type =>
      change _ = onward { met with
        filters := met.filters ++ [predicate]
        type := met.type.or type } rest
      have found : (filters (.filter predicate type :: rest)).findSome? (·.2) =
          type.or ((filters rest).findSome? (·.2)) := by
        cases type <;> rfl
      rw [onward, onward, found, Option.or_assoc, List.append_assoc]
      rfl
  | function name arguments =>
      cases called : met.function with
      | some function =>
          have unchanged : met.add (.function name arguments) = .ok met := by
            rw [Collected.add, called]
          rw [unchanged]
          change _ = onward met rest
          rw [onward, onward, functionOnward, functionOnward, called]
          rfl
      | none =>
          have found : tableFunction (.function name arguments :: rest) =
              (TableFunction.ofFields
                [(.text "name", name), (.text "args", .tuple arguments)]).toExcept.map some :=
            rfl
          rw [onward, functionOnward, called]
          dsimp only
          rw [found, Collected.add, called]
          generalize (TableFunction.ofFields _).toExcept = read
          cases read <;> rfl

/-- The walk goes on from wherever it is to what the searches find. -/
theorem foldlM_add (steps : List QueryStep) (met : Collected) :
    steps.foldlM Collected.add met = onward met steps := by
  induction steps generalizing met with
  | nil => exact (onward_nil met).symm
  | cons step rest ih =>
      rw [List.foldlM_cons, onward_cons]
      exact congrArg (met.add step >>= ·) (funext ih)

/-- The walk collects what the searches for each kind of call find. -/
theorem collect_eq (steps : List QueryStep) :
    collect steps = (tableFunction steps).map fun function => {
      skip := skipCount steps
      take := takeCount steps
      function
      orderings := orderings steps
      joins := joins steps
      filters := (filters steps).map (·.1)
      type := (filters steps).findSome? (·.2) } := by
  rw [collect, foldlM_add, onward]
  simp only [List.append_nil, List.nil_append, Option.none_or]
  rfl

/-- What is selected, put in terms of the searches. -/
theorem selection_eq (chain : QueryChain) (dialect : Dialect) (fallback : Option EntityType)
    (options : Options) :
    chain.selection dialect fallback options = (do
      let function ← Action.ofExcept (tableFunction chain.steps)
      match chain.selectedType fallback with
      | none => Action.fail (.configuration .unresolvedEntity)
      | some type =>
        let metadata ← Action.ofExcept type.metadata
        let table := options.tableOr metadata.tableName
        let joined := joins chain.steps
        let qualifier := if joined.isEmpty || function.isSome then none else some table
        let scope : Scope := { dialect, metadata := some metadata, qualifier }
        let conditions ← renderAll scope ((filters chain.steps).map (·.1))
        let joinClauses ← Action.ofExcept (joined.mapM (resolveJoin table metadata))
        let sortTerms ← Action.ofExcept ((orderings chain.steps).mapM (sortTerm metadata))
        return {
          source :=
            match function with
            | some source => .function source
            | none => .table table
          columns := metadata.mappedColumns.map (·.columnName)
          condition := conjoin conditions
          primaryKeys := metadata.keyColumns.map (·.columnName)
          skip := skipCount chain.steps
          take := takeCount chain.steps
          orderBy := sortTerms
          joins := joinClauses }) := by
  rw [selection, collect_eq, Action.ofExcept_map_bind]
  rfl

end EntitySql.QueryChain
