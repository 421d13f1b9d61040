import EntitySql.Proofs.Sql.Reading

/-!
# Parsing conditions

Tokens are parsed one after the other.  AND binds tighter than OR, parentheses
overrule both, and what stands on the left of the predicate under way is kept
for each pair of parentheses that is open.
-/

namespace EntitySql.Sql

/-- What has been read of a predicate. -/
inductive Reading where
  | start
  | operand (left : Operand)
  | comparison (left : Operand) (op : Comparator)
  | nullTest (left : Operand) (negative : Bool)
  | negated (left : Operand)
  | collection (left : Operand) (negative : Bool)
  | item (left : Operand) (negative : Bool) (items : List Operand)
  | items (left : Operand) (negative : Bool) (items : List Operand)
  | complete (condition : Condition)
  deriving DecidableEq, Repr

/-- Reads one more token of a predicate. -/
def Reading.step : Reading → Token → Option Reading
  | start, .operand left => some (operand left)
  | operand left, .comparator op => some (comparison left op)
  | operand left, .keyword .is => some (nullTest left false)
  | operand left, .keyword .not => some (negated left)
  | operand left, .keyword .among => some (collection left false)
  | negated left, .keyword .among => some (collection left true)
  | comparison left op, .operand right => some (complete (.compare op left right))
  | nullTest left false, .keyword .not => some (nullTest left true)
  | nullTest left negative, .keyword .null => some (complete (.nullTest left negative))
  | collection left negative, .opening => some (item left negative [])
  | item left negative read, .operand next => some (items left negative (read ++ [next]))
  | items left negative read, .comma => some (item left negative read)
  | items left negative read, .closing => some (complete (.membership left read negative))
  | _, _ => none

/-- What stands left of a predicate between two parentheses: finished alternatives, and
the conjunction that the predicate goes on with. -/
structure Level where
  alternatives : Option Condition := none
  conjuncts : Option Condition := none
  deriving DecidableEq, Repr

namespace Level

/-- The conjunction with a predicate at its end. -/
def conjoin (level : Level) (last : Condition) : Condition :=
  match level.conjuncts with
  | none => last
  | some first => .both first last

/-- Everything on a level, with a predicate at its end. -/
def close (level : Level) (last : Condition) : Condition :=
  match level.alternatives with
  | none => level.conjoin last
  | some first => .either first (level.conjoin last)

@[simp]
theorem conjoin_empty (last : Condition) : conjoin {} last = last :=
  rfl

@[simp]
theorem close_empty (last : Condition) : close {} last = last :=
  rfl

@[simp]
theorem close_conjuncts (first last : Condition) :
    close { conjuncts := some first } last = .both first last :=
  rfl

@[simp]
theorem close_alternatives (first last : Condition) :
    close { alternatives := some first } last = .either first last :=
  rfl

end Level

/-- A predicate under way, its level, and the levels around it from the nearest outward. -/
structure Parser where
  reading : Reading := .start
  level : Level := {}
  outer : List Level := []
  deriving DecidableEq, Repr

namespace Parser

/-- Reads one more token. -/
def step (parser : Parser) (token : Token) : Option Parser :=
  match parser.reading, token, parser.outer with
  | .start, .opening, outer => some { outer := parser.level :: outer }
  | .complete last, .closing, level :: outer =>
    some { reading := .complete (parser.level.close last), level, outer }
  | .complete last, .keyword .and, outer =>
    some { level := { parser.level with conjuncts := some (parser.level.conjoin last) }, outer }
  | .complete last, .keyword .or, outer =>
    some { level := { alternatives := some (parser.level.close last) }, outer }
  | reading, token, _ => (reading.step token).map fun reading => { parser with reading }

/-- The condition that has been read, if it is complete. -/
def result (parser : Parser) : Option Condition :=
  match parser.reading, parser.outer with
  | .complete last, [] => some (parser.level.close last)
  | _, _ => none

end Parser

/-- Parses tokens as one condition. -/
def parse (tokens : List Token) : Option Condition :=
  (tokens.foldlM Parser.step {}).bind Parser.result

/-- Reads a text as one condition. -/
def read (dialect : Dialect) (text : String) : Option Condition :=
  (tokens dialect text.toList).bind parse

/-! ## Parsing the tokens of a condition -/

theorem foldlM_items {items : List Operand} (nonempty : items ≠ []) (left : Operand)
    (negative : Bool) (read : List Operand) (level : Level) (outer : List Level) :
    (itemTokens items).foldlM Parser.step
        { reading := .item left negative read, level, outer } =
      some { reading := .items left negative (read ++ items), level, outer } := by
  induction items generalizing read with
  | nil => exact absurd rfl nonempty
  | cons item others ih =>
      cases others with
      | nil => simp [itemTokens, Parser.step, Reading.step]
      | cons next others =>
          have later := ih (by simp) (read ++ [item])
          simpa [itemTokens, Parser.step, Reading.step] using later

/-- The tokens of a condition leave the condition on a level of its own. -/
theorem foldlM_condition {condition : Condition} (readable : condition.Readable)
    (outer : List Level) :
    ∃ last level, condition.tokens.foldlM Parser.step { outer } =
        some { reading := .complete last, level, outer } ∧ level.close last = condition := by
  induction condition generalizing outer with
  | compare op left right => exact ⟨_, {}, rfl, rfl⟩
  | nullTest operand negative =>
      refine ⟨.nullTest operand negative, {}, ?_, rfl⟩
      cases negative <;> rfl
  | membership operand items negative =>
      refine ⟨.membership operand items negative, {}, ?_, rfl⟩
      have parsed := foldlM_items readable.2.1 operand negative [] {} outer
      cases negative <;>
        simp [Condition.tokens, Condition.membershipKeywords, Parser.step, Reading.step, parsed]
  | both left right leftParsed rightParsed =>
      -- each side is read with the level around it kept for its closing parenthesis
      obtain ⟨first, firstLevel, leftRun, leftClosed⟩ := leftParsed readable.1 ({} :: outer)
      obtain ⟨second, secondLevel, rightRun, rightClosed⟩ :=
        rightParsed readable.2 ({ conjuncts := some left } :: outer)
      refine ⟨right, { conjuncts := some left }, ?_, rfl⟩
      simp [Condition.tokens, Parser.step, leftRun, leftClosed, rightRun, rightClosed]
  | either left right leftParsed rightParsed =>
      obtain ⟨first, firstLevel, leftRun, leftClosed⟩ := leftParsed readable.1 ({} :: outer)
      obtain ⟨second, secondLevel, rightRun, rightClosed⟩ :=
        rightParsed readable.2 ({ alternatives := some left } :: outer)
      refine ⟨right, { alternatives := some left }, ?_, rfl⟩
      simp [Condition.tokens, Parser.step, leftRun, leftClosed, rightRun, rightClosed]

theorem parse_tokens {condition : Condition} (readable : condition.Readable) :
    parse condition.tokens = some condition := by
  obtain ⟨last, level, run, closed⟩ := foldlM_condition readable []
  simp [parse, run, Parser.result, closed]

/-- Without parentheses, AND binds tighter than OR. -/
example :
    let isNull (name : String) : List Token :=
      [.operand (.column name), .keyword .is, .keyword .null]
    parse (isNull "a" ++ .keyword .or :: (isNull "b" ++ .keyword .and :: isNull "c")) =
      some (.either (.nullTest (.column "a") false)
        (.both (.nullTest (.column "b") false) (.nullTest (.column "c") false))) := by
  decide

/-- The text of a condition is read back as the condition. -/
theorem read_text (dialect : Dialect) {condition : Condition} (readable : condition.Readable) :
    read dialect (condition.text dialect) = some condition := by
  have lexed : tokens dialect ((condition.text dialect).toList ++ []) =
      (tokens dialect []).map (condition.tokens ++ ·) :=
    tokens_condition readable apart_nil
  rw [List.append_nil] at lexed
  simp [read, lexed, tokens, parse_tokens readable]

end EntitySql.Sql
