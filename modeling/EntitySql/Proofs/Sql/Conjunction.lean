import EntitySql.Proofs.Sql.Parser

/-!
# Conjunctions

Tests with AND between them need no parentheses.  They are read as one conjunction, which
groups them from left to right and is true exactly of the rows of which all of them are.
-/

namespace EntitySql.Sql

/-! ## The truth of a conjunction -/

theorem Truth.both_eq_yes {left right : Truth} :
    left.both right = .yes ↔ left = .yes ∧ right = .yes := by
  cases left <;> cases right <;> decide

/-- The truth of a conjunction, if both sides have one. -/
def bothTruths (left right : Option Truth) : Option Truth := do
  let left ← left
  let right ← right
  return left.both right

/-- A conjunction is true exactly if what it starts with is, and all that is added. -/
theorem foldl_bothTruths {α : Type} {truth : α → Option Truth} {items : List α} (start : Truth)
    (known : ∀ item ∈ items, ∃ value, truth item = some value) :
    ∃ whole, (items.map truth).foldl bothTruths (some start) = some whole ∧
      (whole = .yes ↔ start = .yes ∧ ∀ item ∈ items, truth item = some .yes) := by
  induction items generalizing start with
  | nil => exact ⟨start, rfl, by simp⟩
  | cons item rest ih =>
      obtain ⟨⟨value, isValue⟩, restKnown⟩ := List.forall_mem_cons.mp known
      obtain ⟨whole, folded, wholeYes⟩ := ih (start.both value) restKnown
      refine ⟨whole, ?_, ?_⟩
      · rw [List.map_cons, List.foldl_cons, isValue]
        exact folded
      · rw [wholeYes, Truth.both_eq_yes, List.forall_mem_cons, isValue, Option.some.injEq, and_assoc]

namespace Condition

variable {dialect : Dialect}

/-- The conjunction of conditions, from left to right. -/
def conjunction (first : Condition) (rest : List Condition) : Condition := rest.foldl both first

theorem truth_conjunction (database : Database) (bindings : Bindings) (row : database.Row)
    (first : Condition) (rest : List Condition) :
    (conjunction first rest).truth database bindings row =
      (rest.map (·.truth database bindings row)).foldl bothTruths
        (first.truth database bindings row) := by
  induction rest generalizing first with
  | nil => rfl
  | cons next rest ih => exact ih (both first next)

/-! ## Reading a conjunction -/

/-- A condition without AND and OR. -/
def IsTest : Condition → Prop
  | both _ _ => False
  | either _ _ => False
  | _ => True

end Condition

variable {rest : List Char}

/-- The tokens of tests with AND between them. -/
def testTokens : List Condition → List Token
  | [] => []
  | [test] => test.tokens
  | test :: others => test.tokens ++ .keyword .and :: testTokens others

theorem tokens_tests (dialect : Dialect) {tests : List Condition} (nonempty : tests ≠ [])
    (readable : ∀ test ∈ tests, test.Readable) (apart : Apart rest) :
    tokens dialect ((" AND ".intercalate (tests.map (·.text dialect))).toList ++ rest) =
      (tokens dialect rest).map (testTokens tests ++ ·) := by
  induction tests with
  | nil => exact absurd rfl nonempty
  | cons test others ih =>
      have first := readable test (by simp)
      cases others with
      | nil => simpa [testTokens] using tokens_condition first apart
      | cons next others =>
          have later := ih (by simp) fun test member => readable test (by simp [member])
          have text_eq :
              (" AND ".intercalate ((test :: next :: others).map (·.text dialect))).toList =
              (test.text dialect).toList ++ (spaced [.and] ++ ' ' ::
                (" AND ".intercalate ((next :: others).map (·.text dialect))).toList) := by
            simp [String.toList_intercalate, spaced, Keyword.spelling]
          rw [text_eq, List.append_assoc, List.append_assoc, List.cons_append,
            tokens_condition first (apart_spaced _ (apart_cons (by decide))),
            tokens_spaced _ (apart_cons (by decide)), tokens_blank, later]
          simp [testTokens, Function.comp_def]

/-- The tokens of a test leave the level that they are read on as it is. -/
theorem foldlM_test {test : Condition} (isTest : test.IsTest) (readable : test.Readable)
    (level : Level) (outer : List Level) :
    test.tokens.foldlM Parser.step { level, outer } =
      some { reading := .complete test, level, outer } := by
  cases test with
  | compare op left right => rfl
  | nullTest operand negative => cases negative <;> rfl
  | membership operand items negative =>
      have parsed := foldlM_items readable.2.1 operand negative [] level outer
      cases negative <;>
        simp [Condition.tokens, Condition.membershipKeywords, Parser.step, Reading.step, parsed]
  | both left right => exact isTest.elim
  | either left right => exact isTest.elim

/-- Tests with AND between them are added to the conjunction under way. -/
theorem foldlM_tests {first : Condition} {others : List Condition}
    (areTests : ∀ test ∈ first :: others, test.IsTest)
    (readable : ∀ test ∈ first :: others, test.Readable) (level : Level) (outer : List Level)
    (noAlternatives : level.alternatives = none) :
    ∃ last reached, (testTokens (first :: others)).foldlM Parser.step { level, outer } =
        some { reading := .complete last, level := reached, outer } ∧
      reached.close last = Condition.conjunction (level.conjoin first) others := by
  have run := foldlM_test (areTests first (by simp)) (readable first (by simp)) level outer
  induction others generalizing first level with
  | nil =>
      refine ⟨first, level, run, ?_⟩
      rw [Level.close, noAlternatives]
      rfl
  | cons next others ih =>
      have later (test : Condition) (member : test ∈ next :: others) : test ∈ first :: next :: others :=
        List.mem_cons_of_mem _ member
      obtain ⟨last, reached, parsed, closed⟩ :=
        ih (fun test member => areTests test (later test member))
          (fun test member => readable test (later test member))
          { level with conjuncts := some (level.conjoin first) } noAlternatives
          (foldlM_test (areTests next (by simp)) (readable next (by simp)) _ _)
      have tokens_eq : testTokens (first :: next :: others) =
          first.tokens ++ .keyword .and :: testTokens (next :: others) := rfl
      refine ⟨last, reached, ?_, closed⟩
      rw [tokens_eq, List.foldlM_append, run]
      exact parsed

/-- Tests with AND between them are read as their conjunction. -/
theorem read_conjunction (dialect : Dialect) {first : Condition} {others : List Condition}
    (areTests : ∀ test ∈ first :: others, test.IsTest)
    (readable : ∀ test ∈ first :: others, test.Readable) :
    read dialect (" AND ".intercalate ((first :: others).map (·.text dialect))) =
      some (Condition.conjunction first others) := by
  have lexed := tokens_tests dialect (List.cons_ne_nil first others) readable apart_nil
  obtain ⟨last, level, run, closed⟩ := foldlM_tests areTests readable {} [] rfl
  rw [List.append_nil] at lexed
  rw [read, lexed]
  simp [tokens, parse, run, Parser.result, closed]

end EntitySql.Sql
