import EntitySql.Proofs.Predicate.Grammar
import Mathlib.Data.List.Forall2

/-!
# What the dictionary grammar accepts

The dictionary grammar as a relation between values and the trees that they spell.  Reading
a value gives the tree that it spells, and fails if it spells none.
-/

namespace EntitySql

namespace Predicate

/-- The operands of a comparison: the name of a column, or any value. -/
inductive SpellsOperand : Value → Predicate → Prop
  | column (name : Value) : SpellsOperand (.dict [(.text "col", name)]) (.member name)
  | constant (value : Value) : SpellsOperand (.dict [(.text "value", value)]) (.constant value)

/-- The predicates of the dictionary grammar.  Two or more predicates under one connective
are combined from left to right. -/
inductive Spells : Value → Predicate → Prop
  | comparison (op : Comparator) {left right : Value} {first second : Predicate}
      (leftSpelled : SpellsOperand left first) (rightSpelled : SpellsOperand right second) :
      Spells (.dict [(.text op.name, .list [left, right])]) (.comparison op first second)
  | combination (connective : Connective) {first next : Value} {others : List Value}
      {start : Predicate} {trees : List Predicate} (startSpelled : Spells first start)
      (othersSpelled : List.Forall₂ Spells (next :: others) trees) :
      Spells (.dict [(.text connective.token, .list (first :: next :: others))])
        (trees.foldl (.logical connective) start)
  | inside (name : Value) (items : List Value) :
      Spells (.dict [(.text "IN", .list [.dict [(.text "col", name)], .list items])])
        (.membership (.member name) items)
  | outside (name : Value) (items : List Value) :
      Spells (.dict [(.text "NOT_IN", .list [.dict [(.text "col", name)], .list items])])
        (.negation (.membership (.member name) items))
  | negation {operand : Value} {tree : Predicate} (spelled : Spells operand tree) :
      Spells (.dict [(.text "NOT", operand)]) (.negation tree)

mutual

/-- What stands in the place of the list of values in the membership tests that reading
comes to. -/
def collections (given : Value) : List Value :=
  match given with
  | .dict [(.text op, arguments)] =>
    if op = "IN" ∨ op = "NOT_IN" then
      match arguments with
      | .list [_, values] => [values]
      | _ => []
    else if op = "NOT" then collections arguments
    else if (connectiveNamed op).isSome then
      match arguments with
      | .list items => collectionsOf items
      | _ => []
    else []
  | _ => []

/-- What stands there in any of several values. -/
def collectionsOf : List Value → List Value
  | [] => []
  | given :: rest => collections given ++ collectionsOf rest

end

/-- A value that is a list if it is a collection at all.  The grammar has no form for the
other collections. -/
def Listed (values : Value) : Prop :=
  ∀ items, values.collection = some items → values = .list items

variable {given arguments values : Value} {tree : Predicate} {name op : String}

theorem comparisonNamed_eq_some {tested : Comparator} :
    comparisonNamed name = some tested ↔ name = tested.name := by
  constructor
  · intro found
    have same := List.find?_some found
    exact (beq_iff_eq.mp same).symm
  · rintro rfl
    cases tested <;> rfl

theorem connectiveNamed_eq_some {connective : Connective} :
    connectiveNamed name = some connective ↔ name = connective.token := by
  constructor
  · intro found
    have same := List.find?_some found
    exact (beq_iff_eq.mp same).symm
  · rintro rfl
    cases connective <;> rfl

theorem readOperand_eq_ok : readOperand given = .ok tree ↔ SpellsOperand given tree := by
  constructor
  · intro read
    unfold readOperand at read
    split at read
    · cases read
      exact .column _
    · cases read
      exact .constant _
    · cases read
  · rintro (name | value) <;> rfl

theorem readComparison_eq_ok {tested : Comparator} :
    readComparison tested arguments = .ok tree ↔
      ∃ left right first second, arguments = .list [left, right] ∧ SpellsOperand left first ∧
        SpellsOperand right second ∧ tree = .comparison tested first second := by
  constructor
  · intro read
    unfold readComparison at read
    split at read
    · obtain ⟨first, leftRead, read⟩ := Fault.bind_eq_ok.mp read
      obtain ⟨second, rightRead, read⟩ := Fault.bind_eq_ok.mp read
      cases read
      exact ⟨_, _, first, second, rfl, readOperand_eq_ok.mp leftRead,
        readOperand_eq_ok.mp rightRead, rfl⟩
    · cases read
  · rintro ⟨left, right, first, second, rfl, leftSpelled, rightSpelled, rfl⟩
    rw [readComparison, readOperand_eq_ok.mpr leftSpelled, readOperand_eq_ok.mpr rightSpelled]
    rfl

theorem readMembership_eq_ok :
    readMembership op arguments = .ok tree ↔
      ∃ name values items, arguments = .list [.dict [(.text "col", name)], values] ∧
        values.collection = some items ∧ tree = .membership (.member name) items := by
  constructor
  · intro read
    unfold readMembership at read
    split at read
    · obtain ⟨target, targetRead, read⟩ := Fault.bind_eq_ok.mp read
      cases readOperand_eq_ok.mp targetRead with
      | column name =>
          change testMembership (.member name) _ = _ at read
          rw [testMembership] at read
          split at read
          · rename_i items collected
            cases read
            exact ⟨name, _, items, rfl, collected, rfl⟩
          · cases read
      | constant value => cases read
    · cases read
  · rintro ⟨name, values, items, rfl, collected, rfl⟩
    change testMembership (.member name) values = _
    rw [testMembership, collected]

theorem ofValue_comparison (tested : Comparator) (arguments : Value) :
    ofValue (.dict [(.text tested.name, arguments)]) = readComparison tested arguments := by
  rw [ofValue, comparisonNamed_eq_some.mpr rfl]

theorem ofValue_combination (connective : Connective) (first next : Value) (others : List Value) :
    ofValue (.dict [(.text connective.token, .list (first :: next :: others))]) =
      (ofValue first >>= fun start => ofValues connective start (next :: others)) := by
  rw [ofValue]
  cases connective <;> rfl

mutual

/-- A value that spells a tree is read as that tree. -/
theorem ofValue_of_spells {given : Value} {tree : Predicate} (spelled : Spells given tree) :
    ofValue given = .ok tree :=
  match spelled with
  | .comparison tested leftSpelled rightSpelled => by
      rw [ofValue_comparison]
      exact readComparison_eq_ok.mpr ⟨_, _, _, _, rfl, leftSpelled, rightSpelled, rfl⟩
  | .combination connective startSpelled othersSpelled => by
      rw [ofValue_combination, ofValue_of_spells startSpelled]
      exact ofValues_of_spells connective _ othersSpelled
  | .inside name items => rfl
  | .outside name items => rfl
  | .negation spelled => by
      change (ofValue _).map negation = _
      rw [ofValue_of_spells spelled]
      rfl

theorem ofValues_of_spells (connective : Connective) (start : Predicate) {others : List Value}
    {trees : List Predicate} (spelled : List.Forall₂ Spells others trees) :
    ofValues connective start others = .ok (trees.foldl (.logical connective) start) :=
  match spelled with
  | .nil => rfl
  | .cons next rest => by
      rw [ofValues, ofValue_of_spells next]
      exact ofValues_of_spells connective _ rest

end

theorem collections_combination (connective : Connective) (items : List Value) :
    collections (.dict [(.text connective.token, .list items)]) = collectionsOf items := by
  cases connective <;> simp [collections, Connective.token, connectiveNamed]

theorem collections_membership {target : Value} (isTest : op = "IN" ∨ op = "NOT_IN") :
    collections (.dict [(.text op, .list [target, values])]) = [values] := by
  rw [collections, if_pos isTest]

/-- The membership test that is read under an operator, as a spelled one. -/
theorem listed_of_readMembership (isTest : op = "IN" ∨ op = "NOT_IN")
    (listed : ∀ values ∈ collections (.dict [(.text op, arguments)]), Listed values)
    (read : readMembership op arguments = .ok tree) :
    ∃ name items, arguments = .list [.dict [(.text "col", name)], .list items] ∧
      tree = .membership (.member name) items := by
  obtain ⟨name, values, items, rfl, collected, rfl⟩ := readMembership_eq_ok.mp read
  rw [collections_membership isTest, List.forall_mem_singleton] at listed
  cases listed items collected
  exact ⟨name, items, rfl, rfl⟩

/-- The forms of a value that is read as a predicate. -/
theorem ofValue_forms (read : ofValue given = .ok tree) :
    ∃ op arguments, given = .dict [(.text op, arguments)] ∧
      ((∃ tested : Comparator, op = tested.name ∧ readComparison tested arguments = .ok tree) ∨
        (∃ (connective : Connective) (first next : Value) (rest : List Value) (start : Predicate),
          op = connective.token ∧ arguments = .list (first :: next :: rest) ∧
            ofValue first = .ok start ∧ ofValues connective start (next :: rest) = .ok tree) ∨
        (op = "IN" ∧ readMembership op arguments = .ok tree) ∨
        (op = "NOT_IN" ∧ ∃ test, readMembership op arguments = .ok test ∧ test.negation = tree) ∨
        (op = "NOT" ∧ ∃ operand, ofValue arguments = .ok operand ∧ operand.negation = tree)) := by
  unfold ofValue at read
  split at read
  · rename_i key arguments
    split at read
    · rename_i op
      refine ⟨op, arguments, rfl, ?_⟩
      split at read
      · rename_i tested named
        exact .inl ⟨tested, comparisonNamed_eq_some.mp named, read⟩
      · rename_i connective unnamed named
        split at read
        · rename_i first next rest
          obtain ⟨start, firstRead, read⟩ := Fault.bind_eq_ok.mp read
          exact .inr (.inl ⟨connective, first, next, rest, start,
            connectiveNamed_eq_some.mp named, rfl, firstRead, read⟩)
        · cases read
      · simp only [beq_iff_eq] at read
        split at read
        · exact .inr (.inr (.inl ⟨‹_›, read⟩))
        · split at read
          · exact .inr (.inr (.inr (.inl ⟨‹_›, Fault.map_eq_ok.mp read⟩)))
          · split at read
            · exact .inr (.inr (.inr (.inr ⟨‹_›, Fault.map_eq_ok.mp read⟩)))
            · cases read
    · cases read
  · cases read

mutual

/-- A value that is read as a tree spells it, if its membership tests have lists. -/
theorem spells_of_ofValue {given : Value} {tree : Predicate}
    (listed : ∀ values ∈ collections given, Listed values) (read : ofValue given = .ok tree) :
    Spells given tree := by
  obtain ⟨op, arguments, rfl, ⟨tested, rfl, compared⟩ |
    ⟨connective, first, next, rest, start, rfl, rfl, firstRead, restRead⟩ | ⟨rfl, inRead⟩ |
    ⟨rfl, test, inRead, rfl⟩ | ⟨rfl, operand, operandRead, rfl⟩⟩ := ofValue_forms read
  · obtain ⟨left, right, first, second, rfl, leftSpelled, rightSpelled, rfl⟩ :=
      readComparison_eq_ok.mp compared
    exact .comparison tested leftSpelled rightSpelled
  · rw [collections_combination, collectionsOf, List.forall_mem_append] at listed
    obtain ⟨trees, restSpelled, rfl⟩ := spells_of_ofValues listed.2 restRead
    exact .combination connective (spells_of_ofValue listed.1 firstRead) restSpelled
  · obtain ⟨name, items, rfl, rfl⟩ := listed_of_readMembership (.inl rfl) listed inRead
    exact .inside name items
  · obtain ⟨name, items, rfl, rfl⟩ := listed_of_readMembership (.inr rfl) listed inRead
    exact .outside name items
  · exact .negation (spells_of_ofValue listed operandRead)
termination_by sizeOf given

theorem spells_of_ofValues {connective : Connective} {start : Predicate} {others : List Value}
    {tree : Predicate} (listed : ∀ values ∈ collectionsOf others, Listed values)
    (read : ofValues connective start others = .ok tree) :
    ∃ trees, List.Forall₂ Spells others trees ∧
      trees.foldl (.logical connective) start = tree := by
  cases others with
  | nil =>
      cases read
      exact ⟨[], .nil, rfl⟩
  | cons next rest =>
      rw [collectionsOf, List.forall_mem_append] at listed
      obtain ⟨right, nextRead, read⟩ := Fault.bind_eq_ok.mp read
      obtain ⟨trees, restSpelled, rfl⟩ := spells_of_ofValues listed.2 read
      exact ⟨right :: trees, .cons (spells_of_ofValue listed.1 nextRead) restSpelled, rfl⟩
termination_by sizeOf others

end

/-- Reading accepts the values of the grammar and no others, and refuses the others as
conditions without a meaning. -/
theorem ofValue_accepts_grammar (given : Value)
    (listed : ∀ values ∈ collections given, Listed values) :
    (∀ tree, ofValue given = .ok tree ↔ Spells given tree) ∧
      ((¬∃ tree, Spells given tree) → ∃ cause, ofValue given = .error (.condition cause)) := by
  refine ⟨fun tree => ⟨spells_of_ofValue listed, ofValue_of_spells⟩, fun unspelled => ?_⟩
  cases read : ofValue given with
  | ok tree => exact absurd ⟨tree, spells_of_ofValue listed read⟩ unspelled
  | error fault =>
      obtain ⟨cause, rfl⟩ := ofValue_refuses given fault read
      exact ⟨cause, rfl⟩

/-- Three conditions under one connective, the last two of them around membership tests. -/
theorem ofValue_accepts_grammar_nested :
    let older : Value := .dict [(.text "GT",
      .list [.dict [(.text "col", .text "Age")], .dict [(.text "value", .int 30)]])]
    let inside : Value := .list [.dict [(.text "col", .text "City")], .list [.text "Bern", .null]]
    let given : Value := .dict [(.text "AND", .list [older, .dict [(.text "NOT_IN", inside)],
      .dict [(.text "NOT", .dict [(.text "IN", inside)])]])]
    (∀ values ∈ collections given, Listed values) ∧
      ((∀ tree, ofValue given = .ok tree ↔ Spells given tree) ∧
        ((¬∃ tree, Spells given tree) → ∃ cause, ofValue given = .error (.condition cause))) := by
  intro older inside given
  have listed : ∀ values ∈ collections given, Listed values := by
    have places : collections given =
        [.list [.text "Bern", .null], .list [.text "Bern", .null]] := rfl
    simp [places, Listed, Value.collection, Value.elements]
  exact ⟨listed, ofValue_accepts_grammar given listed⟩

/-- The name of a column need not be a text: a number is read as one. -/
theorem ofValue_accepts_numbered_column :
    ofValue (.dict [(.text "EQ",
        .list [.dict [(.text "col", .int 5)], .dict [(.text "value", .int 1)]])]) =
      .ok (.comparison .equal (.member (.int 5)) (.constant (.int 1))) ∧
      ∀ content, Value.int 5 ≠ .text content :=
  ⟨rfl, nofun⟩

end Predicate

end EntitySql
