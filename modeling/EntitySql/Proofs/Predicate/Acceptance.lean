import EntitySql.Proofs.Statement.Condition
import EntitySql.Samples

/-!
# Which predicates are rendered

A predicate is rendered exactly if each of its leaves has a meaning in SQL: comparisons of
a mapped member with a constant, and membership tests of a mapped member or their
negations.  Whether it is rendered or not, what was bound before stays bound.
-/

namespace EntitySql

/-- Wherever it starts from, the step answers if it is accepted, and otherwise fails because
a condition has no meaning.  Either way it only binds further parameters. -/
def Action.Decides {α : Type} (action : Action Parameters α) (accepted : Prop) : Prop :=
  ∀ parameters, ∃ result reached added, action parameters = (result, reached) ∧
    parameters.Grows reached added ∧
    ((accepted ∧ ∃ value, result = .ok value) ∨
      (¬accepted ∧ ∃ cause, result = .error (.condition cause)))

namespace Action.Decides

variable {α β : Type} {action : Action Parameters α} {next : α → Action Parameters β}
variable {accepted furthers : Prop}

theorem answer (value : α) : Decides (pure value) True := fun parameters =>
  ⟨.ok value, parameters, [], rfl, .refl _, .inl ⟨trivial, value, rfl⟩⟩

theorem fail (cause : ConditionCause) (refused : ¬accepted) :
    Decides (Action.fail (.condition cause) : Action Parameters α) accepted := fun parameters =>
  ⟨.error (.condition cause), parameters, [], rfl, .refl _, .inr ⟨refused, cause, rfl⟩⟩

theorem congr {other : Prop} (decides : Decides action accepted) (same : accepted ↔ other) :
    Decides action other :=
  propext same ▸ decides

/-- Steps that follow each other are accepted if both of them are. -/
theorem bind (first : Decides action accepted) (later : ∀ value, Decides (next value) furthers) :
    Decides (action >>= next) (accepted ∧ furthers) := by
  intro parameters
  obtain ⟨_, middle, added, ran, grows, ⟨isAccepted, value, rfl⟩ | ⟨refused, cause, rfl⟩⟩ :=
    first parameters
  · obtain ⟨result, reached, more, nextRan, nextGrows, decided⟩ := later value middle
    refine ⟨result, reached, added ++ more, (bind_of_ok ran).trans nextRan,
      grows.trans nextGrows, ?_⟩
    simpa [isAccepted] using decided
  · exact ⟨_, middle, added, bind_of_error ran, grows, .inr ⟨fun both => refused both.1, cause, rfl⟩⟩

/-- A step that is always accepted leaves the decision to the next one. -/
theorem bind_right (first : Decides action True) (later : ∀ value, Decides (next value) furthers) :
    Decides (action >>= next) furthers :=
  (first.bind later).congr (true_and furthers).to_iff

/-- A step before one that is always accepted makes the decision. -/
theorem bind_left (first : Decides action accepted) (later : ∀ value, Decides (next value) True) :
    Decides (action >>= next) accepted :=
  (first.bind later).congr (and_true accepted).to_iff

theorem ofExcept_ok {result : Except Fault α} {value : α} (given : result = .ok value)
    (later : Decides (next value) accepted) :
    Decides (Action.ofExcept result >>= next) accepted := by
  subst given
  exact later

theorem ofExcept_error {result : Except Fault α} {cause : ConditionCause}
    (given : result = .error (.condition cause)) (refused : ¬accepted) :
    Decides (Action.ofExcept result >>= next) accepted := by
  subst given
  exact fail cause refused

end Action.Decides

namespace Predicate

/-- The parts of a tree that AND and OR combine; `ofRaw` gives those of a bare value. -/
def leavesWith (ofRaw : Value → List Predicate) : Predicate → List Predicate
  | logical _ left right => left.leavesWith ofRaw ++ right.leavesWith ofRaw
  | raw value => ofRaw value
  | leaf => [leaf]

/-- The leaves of a bare value: those of the tree that a dictionary is read as, and else
the value itself. -/
def rawLeaves (value : Value) : List Predicate :=
  match value with
  | .dict _ =>
    match ofValue value with
    | .ok tree => tree.leavesWith fun value => [raw value]
    | .error _ => [raw value]
  | other => [raw other]

/-- The leaves of a predicate, with the dictionaries among them read. -/
def leaves (predicate : Predicate) : List Predicate := predicate.leavesWith rawLeaves

/-- The members in a leaf have texts for names, and what is tested for membership is one. -/
def NamesTexts : Predicate → Prop
  | member name => ∃ content, name = .text content
  | comparison _ left right => left.NamesTexts ∧ right.NamesTexts
  | membership tested _ => ∃ content, tested = member (.text content)
  | negation operand => operand.NamesTexts
  | _ => True

end Predicate

namespace Scope

open EntitySql.Action (Decides)

/-- The member is not declared as one without a column. -/
def Maps (scope : Scope) (member : String) : Prop :=
  ∀ metadata ∈ scope.metadata, ∀ column ∈ metadata.find? member, column.notMapped = false

/-- The leaves that have a meaning in SQL. -/
inductive Supports (scope : Scope) : Predicate → Prop
  | memberFirst (op : Comparator) {member : String} {value : Value} (maps : scope.Maps member)
      (tests : value = .null → op = .equal ∨ op = .notEqual) :
      Supports scope (.comparison op (.member (.text member)) (.constant value))
  | constantFirst (op : Comparator) {member : String} {value : Value} (maps : scope.Maps member)
      (tests : value = .null → op = .equal ∨ op = .notEqual) :
      Supports scope (.comparison op (.constant value) (.member (.text member)))
  | inside {member : String} (values : List Value) (maps : scope.Maps member) :
      Supports scope (.membership (.member (.text member)) values)
  | outside {member : String} (values : List Value) (maps : scope.Maps member) :
      Supports scope (.negation (.membership (.member (.text member)) values))

variable (scope : Scope)

theorem column_decides (member : String) :
    Decides (Action.ofExcept (scope.column (.text member))) (scope.Maps member) := by
  intro parameters
  refine ⟨scope.column (.text member), parameters, [], rfl, .refl _, ?_⟩
  cases known : scope.metadata with
  | none => exact .inl ⟨by simp [Maps, known], by simp [column, columnOf, known, Except.map]⟩
  | some metadata =>
      cases found : metadata.find? member with
      | none =>
          exact .inl ⟨by simp [Maps, known, found],
            by simp [column, columnOf, known, found, Except.map]⟩
      | some stored =>
          cases declared : stored.notMapped with
          | false =>
              exact .inl ⟨by simp [Maps, known, found, declared],
                by simp [column, columnOf, known, found, declared, Except.map]⟩
          | true =>
              exact .inr ⟨by simp [Maps, known, found, declared],
                by simp [column, columnOf, known, found, declared, Except.map]⟩

theorem bindFresh_decides (value : Value) : Decides (Parameters.bindFresh value) True := by
  intro parameters
  obtain ⟨number, reached, ran, _⟩ := Parameters.bindFresh_run value parameters
  exact ⟨_, reached, _, ran, Parameters.grows_bindFresh ran, .inl ⟨trivial, _, rfl⟩⟩

theorem bind_decides (value : Value) : Decides (scope.bind value) True :=
  .bind_right (bindFresh_decides value) fun _ => .answer _

theorem bindAll_decides (values : List Value) : Decides (scope.bindAll values) True := by
  induction values with
  | nil => exact .answer _
  | cons value rest ih =>
      exact .bind_right (scope.bind_decides value) fun placeholder =>
        .bind_right ih fun placeholders => .answer _

theorem compare_decides (member : String) (op : Comparator) (value : Value) :
    Decides (scope.compare ⟨.text member, op, value⟩)
      (scope.Maps member ∧ (value = .null → op = .equal ∨ op = .notEqual)) := by
  refine .bind (scope.column_decides member) fun column => ?_
  cases value with
  | null =>
      cases op with
      | equal => exact (Decides.answer _).congr (by simp)
      | notEqual => exact (Decides.answer _).congr (by simp)
      | _ => exact .fail _ (by simp)
  | _ => exact (Decides.bind_right (scope.bind_decides _) fun _ => .answer _).congr (by simp)

theorem belongs_decides (negated : Bool) (member : String) (values : List Value) :
    Decides (scope.belongs negated (.member (.text member)) values) (scope.Maps member) := by
  refine .ofExcept_ok rfl (.bind_left (scope.column_decides member) fun column => ?_)
  cases values with
  | nil => exact .answer _
  | cons value rest =>
      exact .bind_right (scope.bindAll_decides (value :: rest)) fun placeholders => .answer _

variable {scope}

theorem supports_memberFirst {op : Comparator} {member : String} {value : Value} :
    scope.Supports (.comparison op (.member (.text member)) (.constant value)) ↔
      scope.Maps member ∧ (value = .null → op = .equal ∨ op = .notEqual) := by
  constructor
  · intro supported
    cases supported with
    | memberFirst _ maps tests => exact ⟨maps, tests⟩
  · rintro ⟨maps, tests⟩
    exact .memberFirst op maps tests

/-- Turning a comparison around keeps tests for null as what they are. -/
theorem supports_constantFirst {op : Comparator} {member : String} {value : Value} :
    scope.Supports (.comparison op (.constant value) (.member (.text member))) ↔
      scope.Maps member ∧ (value = .null → op.converse = .equal ∨ op.converse = .notEqual) := by
  have turned : (op.converse = .equal ∨ op.converse = .notEqual) ↔ op = .equal ∨ op = .notEqual := by
    cases op <;> decide
  rw [turned]
  constructor
  · intro supported
    cases supported with
    | constantFirst _ maps tests => exact ⟨maps, tests⟩
  · rintro ⟨maps, tests⟩
    exact .constantFirst op maps tests

theorem comparison_decides (op : Comparator) {left right : Predicate}
    (names : (Predicate.comparison op left right).NamesTexts) :
    Decides (Action.ofExcept (Predicate.memberFirst op left right) >>= scope.compare)
      (scope.Supports (.comparison op left right)) := by
  unfold Predicate.memberFirst
  split
  · rename_i name value
    obtain ⟨⟨member, rfl⟩, -⟩ := names
    exact .ofExcept_ok rfl ((scope.compare_decides member op value).congr supports_memberFirst.symm)
  · rename_i value name
    obtain ⟨-, member, rfl⟩ := names
    exact .ofExcept_ok rfl
      ((scope.compare_decides member op.converse value).congr supports_constantFirst.symm)
  · rename_i notMemberFirst notConstantFirst
    refine .ofExcept_error rfl fun supported => ?_
    cases supported with
    | memberFirst => exact notMemberFirst _ _ rfl rfl
    | constantFirst => exact notConstantFirst _ _ rfl rfl

theorem membership_decides (values : List Value) {tested : Predicate}
    (names : (Predicate.membership tested values).NamesTexts) :
    Decides (scope.belongs false tested values) (scope.Supports (.membership tested values)) := by
  obtain ⟨member, rfl⟩ := names
  refine (scope.belongs_decides false member values).congr ⟨.inside values, fun supported => ?_⟩
  cases supported with
  | inside _ maps => exact maps

theorem nonmembership_decides (values : List Value) {tested : Predicate}
    (names : (Predicate.membership tested values).NamesTexts) :
    Decides (scope.belongs true tested values)
      (scope.Supports (.negation (.membership tested values))) := by
  obtain ⟨member, rfl⟩ := names
  refine (scope.belongs_decides true member values).congr ⟨.outside values, fun supported => ?_⟩
  cases supported with
  | outside _ maps => exact maps

/-- A tree is rendered exactly if its leaves have a meaning, given that bare values are. -/
theorem renderWith_decides {ofRaw : Value → Action Parameters String}
    {rawLeaves : Value → List Predicate}
    (raws : ∀ value, (∀ leaf ∈ rawLeaves value, leaf.NamesTexts) →
      Decides (ofRaw value) (∀ leaf ∈ rawLeaves value, scope.Supports leaf))
    (tree : Predicate) (names : ∀ leaf ∈ tree.leavesWith rawLeaves, leaf.NamesTexts) :
    Decides (scope.renderWith ofRaw tree)
      (∀ leaf ∈ tree.leavesWith rawLeaves, scope.Supports leaf) := by
  induction tree with
  | logical connective left right leftDecides rightDecides =>
      rw [Predicate.leavesWith, List.forall_mem_append] at names ⊢
      exact .bind (leftDecides names.1) fun first =>
        .bind_left (rightDecides names.2) fun second => .answer _
  | raw value => exact raws value names
  | comparison op left right =>
      have only := List.forall_mem_singleton.mp names
      exact (comparison_decides op only).congr List.forall_mem_singleton.symm
  | membership tested values =>
      have only := List.forall_mem_singleton.mp names
      exact (membership_decides values only).congr List.forall_mem_singleton.symm
  | negation operand =>
      have only := List.forall_mem_singleton.mp names
      refine Decides.congr ?_ List.forall_mem_singleton.symm
      cases operand with
      | membership tested values => exact nonmembership_decides values only
      | _ => exact .fail _ nofun
  | member name => exact (Decides.fail _ nofun).congr List.forall_mem_singleton.symm
  | constant value => exact (Decides.fail _ nofun).congr List.forall_mem_singleton.symm

/-- A tree in which bare values have no meaning. -/
theorem renderTree_decides (tree : Predicate)
    (names : ∀ leaf ∈ tree.leavesWith fun value => [.raw value], leaf.NamesTexts) :
    Decides (scope.renderTree tree)
      (∀ leaf ∈ tree.leavesWith fun value => [.raw value], scope.Supports leaf) :=
  renderWith_decides (fun _ _ => (Decides.fail _ nofun).congr List.forall_mem_singleton.symm)
    tree names

theorem render_decides (predicate : Predicate)
    (names : ∀ leaf ∈ predicate.leaves, leaf.NamesTexts) :
    Decides (scope.render predicate) (∀ leaf ∈ predicate.leaves, scope.Supports leaf) := by
  refine renderWith_decides (fun value names => ?_) predicate names
  cases value with
  | dict entries =>
      simp only [Predicate.rawLeaves] at names ⊢
      cases read : Predicate.ofValue (.dict entries) with
      | ok tree =>
          simp only [read] at names ⊢
          exact .ofExcept_ok rfl (renderTree_decides tree names)
      | error fault =>
          obtain ⟨cause, rfl⟩ := Predicate.ofValue_refuses _ fault read
          exact (Decides.ofExcept_error rfl nofun).congr List.forall_mem_singleton.symm
  | _ => exact (Decides.fail _ nofun).congr List.forall_mem_singleton.symm

/-- A predicate whose members have texts for names is rendered exactly if all its leaves
have a meaning in SQL, and refused as a condition without one otherwise.  What was bound
before stays as it is. -/
theorem render_accepts_supported (scope : Scope) (predicate : Predicate) (parameters : Parameters)
    (names : ∀ leaf ∈ predicate.leaves, leaf.NamesTexts) :
    ∃ result reached added, scope.render predicate parameters = (result, reached) ∧
      parameters.Grows reached added ∧
      ((∃ text, result = .ok text) ↔ ∀ leaf ∈ predicate.leaves, scope.Supports leaf) ∧
      ((∃ cause, result = .error (.condition cause)) ↔
        ∃ leaf ∈ predicate.leaves, ¬scope.Supports leaf) := by
  obtain ⟨result, reached, added, ran, grows, ⟨accepted, text, rfl⟩ | ⟨refused, cause, rfl⟩⟩ :=
    render_decides predicate names parameters
  · refine ⟨_, reached, added, ran, grows, by simpa using accepted, ?_⟩
    simpa using accepted
  · refine ⟨_, reached, added, ran, grows, by simpa using refused, ?_⟩
    simpa using refused

/-- An empty membership test of a member without a column is refused as well. -/
theorem render_refuses_unmapped_dictionary :
    let scope : Scope :=
      { dialect := ⟨.sqlite, .colon⟩, metadata := Samples.person.metadata.toOption }
    let predicate : Predicate := .logical .conjunction (.test (.text "Age") .greater (.int 30))
      (.raw (.dict [(.text "IN", .list [.dict [(.text "col", .text "FullName")], .list []])]))
    (∀ leaf ∈ predicate.leaves, leaf.NamesTexts) ∧
      (∃ leaf ∈ predicate.leaves, ¬scope.Supports leaf) ∧
      ∃ cause reached added, scope.render predicate {} = (.error (.condition cause), reached) ∧
        ({} : Parameters).Grows reached added := by
  intro scope predicate
  have leaves_eq : predicate.leaves = [.test (.text "Age") .greater (.int 30),
      .membership (.member (.text "FullName")) []] := rfl
  have names : ∀ leaf ∈ predicate.leaves, leaf.NamesTexts := by
    simp [leaves_eq, Predicate.test, Predicate.NamesTexts]
  have refused : ¬scope.Supports (.membership (.member (.text "FullName")) []) := by
    rintro ⟨⟩
    rename_i maps
    exact absurd (maps _ rfl _ rfl) (by decide)
  have unsupported : ∃ leaf ∈ predicate.leaves, ¬scope.Supports leaf :=
    ⟨_, by simp [leaves_eq], refused⟩
  obtain ⟨result, reached, added, ran, grows, -, fails⟩ :=
    render_accepts_supported scope predicate {} names
  obtain ⟨cause, rfl⟩ := fails.mpr unsupported
  exact ⟨names, unsupported, cause, reached, added, ran, grows⟩

end Scope

end EntitySql
