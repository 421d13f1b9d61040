import EntitySql.Proofs.Statement.Call

/-!
# Parameters across dialects

What a statement binds is decided by the request alone.  The placeholders in its text are
written by the dialect, and an identity may be read back by an expression of its own, but no
dialect adds, leaves out, renames or moves a parameter.
-/

namespace EntitySql

variable {first second : Dialect} {metadata : Metadata} {entity : Instance} {options : Options}
variable {condition : Option Predicate} {keys : Option KeyValues}
variable {parameters reached last : Parameters} {text other sql otherSql : String}
variable {compiled otherCompiled : Compiled}

/-- A rendered predicate has bound its constants from left to right, whatever it was
rendered in. -/
theorem Scope.render_binds {scope : Scope} {predicate : Predicate}
    (rendered : scope.render predicate parameters = (.ok text, reached)) :
    ∃ names, Parameters.bindEach predicate.constants parameters = (.ok names, reached) := by
  obtain ⟨tree, _, constants, _, names, _, _, bound, _⟩ :=
    render_gives scope.dialect.style predicate rendered
  exact ⟨names, constants ▸ bound⟩

theorem Scope.reached_eq_of_render {scope otherScope : Scope} {predicate : Predicate}
    (rendered : scope.render predicate parameters = (.ok text, reached))
    (again : otherScope.render predicate parameters = (.ok other, last)) : reached = last := by
  obtain ⟨names, bound⟩ := render_binds rendered
  obtain ⟨otherNames, boundAgain⟩ := render_binds again
  exact (Prod.mk.inj (bound.symm.trans boundAgain)).2

/-- A query binds the constants of its filters. -/
theorem Query.parameters_of_compile {query : Query}
    (accepted : query.compile options = .ok compiled) :
    compiled.parameters = (Parameters.numbered query.constants).entries := by
  obtain ⟨_, _, _, _, _, mentions⟩ := compile_mentions query.dialect.style accepted
  exact mentions.entries

namespace Statement

variable {warnings otherWarnings : List Warning}

theorem reached_eq_of_insertText
    (ran : insertText first metadata entity options {} = (.ok sql, reached))
    (again : insertText second metadata entity options {} = (.ok otherSql, last)) :
    reached = last := by
  obtain ⟨_, _, _, _, _, runs⟩ := insertText_runs metadata entity
  cases wanted : options.selectAfterMutation && !(metadata.entityKeys entity).isEmpty with
  | false =>
      have written := (runs options).1 wanted
      cases (written first).symm.trans ran
      cases (written second).symm.trans again
      rfl
  | true =>
      obtain ⟨_, _, _, written, _⟩ := (runs options).2 wanted
      cases (written first).symm.trans ran
      cases (written second).symm.trans again
      rfl

theorem reached_eq_of_updateText
    (ran : updateText first metadata entity condition options {} = (.ok sql, reached))
    (again : updateText second metadata entity condition options {} = (.ok otherSql, last)) :
    reached = last := by
  cases condition with
  | none =>
      obtain ⟨_, middle, _, _, _, assigned, bound, _⟩ := updateText_keys_eq_ok.mp ran
      obtain ⟨_, _, _, _, _, assignedAgain, boundAgain, _⟩ := updateText_keys_eq_ok.mp again
      cases assigned.symm.trans assignedAgain
      cases bound.symm.trans boundAgain
      rfl
  | some predicate =>
      obtain ⟨_, _, _, _, _, _, _, assigned, _, rendered, bound, _⟩ :=
        updateText_rows_eq_ok.mp ran
      obtain ⟨_, _, _, _, _, _, _, assignedAgain, _, renderedAgain, boundAgain, _⟩ :=
        updateText_rows_eq_ok.mp again
      cases assigned.symm.trans assignedAgain
      cases Scope.reached_eq_of_render rendered renderedAgain
      cases bound.symm.trans boundAgain
      rfl

theorem reached_eq_of_deleteText
    (ran : deleteText first metadata condition keys options parameters =
      (.ok (sql, warnings), reached))
    (again : deleteText second metadata condition keys options parameters =
      (.ok (otherSql, otherWarnings), last)) : reached = last := by
  cases condition with
  | some predicate =>
      obtain ⟨_, _, rendered, answered⟩ := Action.bind_eq_ok.mp ran
      obtain ⟨_, _, renderedAgain, answeredAgain⟩ := Action.bind_eq_ok.mp again
      obtain ⟨_, rfl⟩ := Action.answer_eq_ok.mp answered
      obtain ⟨_, rfl⟩ := Action.answer_eq_ok.mp answeredAgain
      exact Scope.reached_eq_of_render rendered renderedAgain
  | none =>
      obtain ⟨_, _, bound, answered⟩ := Action.bind_eq_ok.mp ran
      obtain ⟨_, _, boundAgain, answeredAgain⟩ := Action.bind_eq_ok.mp again
      obtain ⟨_, rfl⟩ := Action.answer_eq_ok.mp answered
      obtain ⟨_, rfl⟩ := Action.answer_eq_ok.mp answeredAgain
      exact (Prod.mk.inj (bound.symm.trans boundAgain)).2

theorem parameters_eq_of_insert (accepted : insert first entity options = .ok compiled)
    (again : insert second entity options = .ok otherCompiled) :
    compiled.parameters = otherCompiled.parameters := by
  obtain ⟨_, _, _, isMetadata, ran, rfl⟩ := insert_eq_ok accepted
  obtain ⟨_, _, _, isKnown, ranAgain, rfl⟩ := insert_eq_ok again
  cases isMetadata.symm.trans isKnown
  rw [reached_eq_of_insertText ran ranAgain]

theorem parameters_eq_of_update (accepted : update first entity condition options = .ok compiled)
    (again : update second entity condition options = .ok otherCompiled) :
    compiled.parameters = otherCompiled.parameters := by
  obtain ⟨_, _, _, isMetadata, ran, rfl⟩ := update_eq_ok accepted
  obtain ⟨_, _, _, isKnown, ranAgain, rfl⟩ := update_eq_ok again
  cases isMetadata.symm.trans isKnown
  rw [reached_eq_of_updateText ran ranAgain]

theorem parameters_eq_of_delete {type : EntityType}
    (accepted : delete first type condition keys options = .ok (compiled, warnings))
    (again : delete second type condition keys options = .ok (otherCompiled, otherWarnings)) :
    compiled.parameters = otherCompiled.parameters := by
  obtain ⟨_, _, _, isMetadata, ran, rfl⟩ := delete_eq_ok accepted
  obtain ⟨_, _, _, isKnown, ranAgain, rfl⟩ := delete_eq_ok again
  cases isMetadata.symm.trans isKnown
  rw [reached_eq_of_deleteText ran ranAgain]

theorem parameters_eq_of_deleteEntity
    (accepted : deleteEntity first entity options = .ok (compiled, warnings))
    (again : deleteEntity second entity options = .ok (otherCompiled, otherWarnings)) :
    compiled.parameters = otherCompiled.parameters := by
  obtain ⟨_, isMetadata, _, deleted⟩ := deleteEntity_eq_ok accepted
  obtain ⟨_, isKnown, _, deletedAgain⟩ := deleteEntity_eq_ok again
  cases isMetadata.symm.trans isKnown
  exact parameters_eq_of_delete deleted deletedAgain

end Statement

namespace Query

/-- The same query in another dialect. -/
def inDialect (query : Query) (dialect : Dialect) : Query := { query with dialect }

/-- The constants of a query belong to its chain. -/
theorem parameters_eq_of_compile {query : Query}
    (accepted : (query.inDialect first).compile options = .ok compiled)
    (again : (query.inDialect second).compile options = .ok otherCompiled) :
    compiled.parameters = otherCompiled.parameters :=
  (parameters_of_compile accepted).trans (parameters_of_compile again).symm

theorem parameters_eq_of_compileDelete {query : Query} {target : Option Instance}
    {warnings otherWarnings : List Warning}
    (accepted : (query.inDialect first).compileDelete condition target keys options =
      .ok (compiled, warnings))
    (again : (query.inDialect second).compileDelete condition target keys options =
      .ok (otherCompiled, otherWarnings)) : compiled.parameters = otherCompiled.parameters := by
  unfold compileDelete at accepted again
  cases target with
  | some entity => exact Statement.parameters_eq_of_deleteEntity accepted again
  | none =>
      cases typed : query.entity with
      | none =>
          simp only [inDialect, typed] at accepted
          cases accepted
      | some type =>
          simp only [inDialect, typed] at accepted again
          exact Statement.parameters_eq_of_delete accepted again

end Query

namespace Work

variable {type : EntityType} {predicate : Predicate} {plan otherPlan : Plan}

/-- The same call in another dialect.  Only a query brings its dialect along. -/
def inDialect (work : Work) (dialect : Dialect) : Work :=
  match work with
  | query source condition options => query (source.inDialect dialect) condition options
  | work => work

theorem parameters_eq_of_planSingle
    (planned : planSingle first type predicate options = .ok plan)
    (again : planSingle second type predicate options = .ok otherPlan) :
    plan.compiled.parameters = otherPlan.compiled.parameters := by
  obtain ⟨compiled, accepted, planned⟩ := Fault.bind_eq_ok.mp planned
  obtain ⟨other, acceptedAgain, again⟩ := Fault.bind_eq_ok.mp again
  cases planned
  cases again
  exact (Query.parameters_of_compile accepted).trans
    (Query.parameters_of_compile acceptedAgain).symm

theorem parameters_eq_of_plan {work : Work}
    (planned : (work.inDialect first).plan first = .ok plan)
    (again : (work.inDialect second).plan second = .ok otherPlan) :
    plan.compiled.parameters = otherPlan.compiled.parameters := by
  cases work with
  | query source condition options =>
      have filteredIn (dialect : Dialect) :
          filtered (source.inDialect dialect) condition =
            (filtered source condition).inDialect dialect := by
        cases condition <;> rfl
      simp only [inDialect, plan_query, filteredIn] at planned again
      obtain ⟨compiled, accepted, planned⟩ := Fault.bind_eq_ok.mp planned
      obtain ⟨other, acceptedAgain, again⟩ := Fault.bind_eq_ok.mp again
      cases planned
      cases again
      exact Query.parameters_eq_of_compile accepted acceptedAgain
  | getById given key options =>
      obtain ⟨type, _, predicate, _, _, _, single⟩ := plan_getById planned
      exact parameters_eq_of_planSingle ((single first).symm.trans planned)
        ((single second).symm.trans again)
  | getByKeys given keys options =>
      obtain ⟨type, _, predicate, _, _, _, single⟩ := plan_getByKeys planned
      exact parameters_eq_of_planSingle ((single first).symm.trans planned)
        ((single second).symm.trans again)
  | insert entity options resultType =>
      obtain ⟨compiled, accepted, planned⟩ := Fault.bind_eq_ok.mp planned
      obtain ⟨other, acceptedAgain, again⟩ := Fault.bind_eq_ok.mp again
      cases planned
      cases again
      simp only [mutationPlan_compiled]
      exact Statement.parameters_eq_of_insert accepted acceptedAgain
  | update entity condition options =>
      obtain ⟨compiled, accepted, planned⟩ := Fault.bind_eq_ok.mp planned
      obtain ⟨other, acceptedAgain, again⟩ := Fault.bind_eq_ok.mp again
      cases planned
      cases again
      simp only [mutationPlan_compiled]
      exact Statement.parameters_eq_of_update accepted acceptedAgain
  | deleteRows type condition keys options =>
      obtain ⟨⟨compiled, _⟩, accepted, planned⟩ := Fault.bind_eq_ok.mp planned
      obtain ⟨⟨other, _⟩, acceptedAgain, again⟩ := Fault.bind_eq_ok.mp again
      cases planned
      cases again
      exact Statement.parameters_eq_of_delete accepted acceptedAgain
  | deleteEntity entity options =>
      obtain ⟨⟨compiled, _⟩, accepted, planned⟩ := Fault.bind_eq_ok.mp planned
      obtain ⟨⟨other, _⟩, acceptedAgain, again⟩ := Fault.bind_eq_ok.mp again
      cases planned
      cases again
      exact Statement.parameters_eq_of_deleteEntity accepted acceptedAgain

/-- In any two dialects a call, like the DELETE that belongs to a query, binds the same values
under the same names in the same order, if it can be written in both of them. -/
theorem parameters_portable (first second : Dialect) :
    (∀ (work : Work) (plan other : Plan), (work.inDialect first).plan first = .ok plan →
      (work.inDialect second).plan second = .ok other →
      plan.compiled.parameters = other.compiled.parameters) ∧
    ∀ (query : Query) (condition : Option Predicate) (entity : Option Instance)
      (keys : Option KeyValues) (options : Options) (deletion other : Compiled × List Warning),
      (query.inDialect first).compileDelete condition entity keys options = .ok deletion →
      (query.inDialect second).compileDelete condition entity keys options = .ok other →
      deletion.1.parameters = other.1.parameters :=
  ⟨fun _ _ _ planned again => parameters_eq_of_plan planned again,
    fun _ _ _ _ _ _ _ accepted again => Query.parameters_eq_of_compileDelete accepted again⟩

/-- An order that is moved to another customer and read back. -/
def movedOrder : Work :=
  .update ⟨Samples.order, [("OrderId", .int 7), ("PersonId", .int 2), ("Total", .int 30)]⟩
    (some (.test (.text "PersonId") .equal (.int 1))) { selectAfterMutation := true }

/-- What is seen of a compiled statement: its text and the names of its parameters. -/
def written (compiled : Compiled) : String × List String :=
  (compiled.sql, compiled.parameters.map (·.1))

theorem movedOrder_bracketed :
    (movedOrder.plan ⟨.sqlServer, .atSign⟩).toOption.map (written ·.compiled) =
      some ("UPDATE [Orders] SET [PersonId] = @PersonId, [Total] = @Total " ++
        "WHERE [PersonId] = @p0; SELECT * FROM [Orders] WHERE [OrderId] = @OrderId",
        ["PersonId", "Total", "p0", "OrderId"]) := by
  decide

theorem movedOrder_folded :
    (movedOrder.plan ⟨.postgres .lowerSnake, .percent⟩).toOption.map (written ·.compiled) =
      some ("UPDATE \"orders\" SET \"person_id\" = %(PersonId)s, \"total\" = %(Total)s " ++
        "WHERE \"person_id\" = %(p0)s; " ++
        "SELECT * FROM \"orders\" WHERE \"order_id\" = %(OrderId)s",
        ["PersonId", "Total", "p0", "OrderId"]) := by
  rfl

/-- The DELETE of the citizens with a number, asked of a query. -/
def citizenDelete (dialect : Dialect) : Except Fault (Compiled × List Warning) :=
  ((Query.start ⟨.sqlite, .colon⟩ (some Samples.citizen)).inDialect dialect).compileDelete none none
    (some Statement.citizenKeys) {}

theorem citizenDelete_bracketed :
    (citizenDelete ⟨.sqlServer, .colon⟩).toOption.map (written ·.1) =
      some ("DELETE FROM [Citizen] WHERE [SSN] = :SSN", ["SSN"]) := by
  decide +kernel

theorem citizenDelete_folded :
    (citizenDelete ⟨.postgres .lower, .atSign⟩).toOption.map (written ·.1) =
      some ("DELETE FROM \"citizen\" WHERE \"ssn\" = @SSN", ["SSN"]) := by
  decide +kernel

theorem movedOrder_portable :
    (∃ plan other, movedOrder.plan ⟨.sqlServer, .atSign⟩ = .ok plan ∧
      movedOrder.plan ⟨.postgres .lowerSnake, .percent⟩ = .ok other ∧
      plan.compiled.parameters.map (·.1) = ["PersonId", "Total", "p0", "OrderId"] ∧
      plan.compiled.parameters = other.compiled.parameters) ∧
    ∃ deletion other, citizenDelete ⟨.sqlServer, .colon⟩ = .ok deletion ∧
      citizenDelete ⟨.postgres .lower, .atSign⟩ = .ok other ∧
      deletion.1.parameters.map (·.1) = ["SSN"] ∧
      deletion.1.parameters = other.1.parameters := by
  obtain ⟨plan, planned, seen⟩ := Fault.ok_of_seen movedOrder_bracketed
  obtain ⟨otherPlan, plannedAgain, _⟩ := Fault.ok_of_seen movedOrder_folded
  obtain ⟨deletion, deleted, seenDeletion⟩ := Fault.ok_of_seen citizenDelete_bracketed
  obtain ⟨other, deletedAgain, _⟩ := Fault.ok_of_seen citizenDelete_folded
  exact ⟨⟨plan, otherPlan, planned, plannedAgain, congrArg Prod.snd seen,
      (parameters_portable _ _).1 movedOrder plan otherPlan planned plannedAgain⟩,
    deletion, other, deleted, deletedAgain, congrArg Prod.snd seenDeletion,
    (parameters_portable _ _).2 _ _ _ _ _ deletion other deleted deletedAgain⟩

end Work

end EntitySql
