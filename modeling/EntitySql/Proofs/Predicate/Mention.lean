import EntitySql.Proofs.Parameters.Binding
import EntitySql.Proofs.Predicate.Rendering
import EntitySql.Proofs.Sql.Composition

/-!
# What rendered predicates mention

The text of a predicate mentions the columns of its members and one parameter for
each constant, from left to right.  Nulls that are compared need no parameter.
-/

namespace EntitySql

open Sql (Mention Separated Woven WovenEach isWording)

namespace Predicate

/-- The constants of a tree that are bound to parameters, from left to right. -/
def boundConstants : Predicate → List Value
  | constant value => if value.isNull then [] else [value]
  | comparison _ left right => left.boundConstants ++ right.boundConstants
  | logical _ left right => left.boundConstants ++ right.boundConstants
  | membership _ values => values
  | negation operand => operand.boundConstants
  | _ => []

/-- The constants of a predicate that are bound to parameters, from left to right. -/
def constants (predicate : Predicate) : List Value :=
  predicate.expand.toOption.elim [] boundConstants

/-- The members that a predicate names. -/
def members (predicate : Predicate) : List Value :=
  predicate.expand.toOption.elim [] memberNames

/-- A comparison has one member, and a constant that is bound unless it is null. -/
theorem memberFirst_parts {op : Comparator} {left right : Predicate} {oriented : Oriented}
    (isOriented : memberFirst op left right = .ok oriented) :
    (comparison op left right).memberNames = [oriented.member] ∧
      (comparison op left right).boundConstants =
        if oriented.constant.isNull then [] else [oriented.constant] := by
  unfold memberFirst at isOriented
  split at isOriented
  · cases isOriented
    simp [memberNames, boundConstants]
  · cases isOriented
    simp [memberNames, boundConstants]
  · cases isOriented

end Predicate

namespace Scope

/-- What the text of a member's name mentions. -/
def mentionOf (scope : Scope) (name : Value) : Except Fault Mention :=
  match name with
  | .text member => (scope.columnOf member).map (.column scope.qualifier)
  | other =>
    if scope.qualifier.any (!·.isEmpty) then .ok (.column scope.qualifier other.plainText)
    else (scope.dialect.identifierOf other).map fun _ => .unnamed other

/-- The same surroundings with placeholders in another style. -/
def inStyle (scope : Scope) (style : PlaceholderStyle) : Scope :=
  { scope with dialect := scope.dialect.inStyle style }

@[simp]
theorem inStyle_dialect (scope : Scope) (style : PlaceholderStyle) :
    (scope.inStyle style).dialect = scope.dialect.inStyle style :=
  rfl

variable {scope : Scope} {style : PlaceholderStyle} {parameters reached : Parameters}
variable {text other : String} {name value : Value} {names : List String}
variable {mentions : List Mention} {tree : Predicate}

/-- A column that is found is that of a member which is mapped. -/
theorem columnOf_eq_ok {metadata : Metadata} {member column : String}
    (known : scope.metadata = some metadata) (found : scope.columnOf member = .ok column) :
    (metadata.find? member).any (·.notMapped) = false ∧ column = metadata.columnNameOf member := by
  simp only [columnOf, known] at found
  split at found
  · cases found
  · rename_i mapped
    cases found
    exact ⟨by simpa using mapped, rfl⟩

/-- A member that is found is mentioned by its column. -/
theorem mentionOf_text {member : String} {mention : Mention}
    (isMention : scope.mentionOf (.text member) = .ok mention) :
    ∃ column, scope.columnOf member = .ok column ∧ mention = .column scope.qualifier column := by
  simp only [mentionOf] at isMention
  cases found : scope.columnOf member with
  | error fault =>
      rw [found] at isMention
      cases isMention
  | ok column =>
      rw [found] at isMention
      cases isMention
      exact ⟨column, rfl, rfl⟩

theorem map_unnamed_text (dialect : Dialect) (name : Value) :
    (dialect.identifierOf name).map Value.plainText =
      ((dialect.identifierOf name).map fun _ => Mention.unnamed name).map (·.text dialect) := by
  cases rendered : dialect.identifierOf name with
  | error fault => rfl
  | ok identifier => simp [Except.map, Mention.text, rendered, Except.toOption]

theorem column_eq_mentionOf (scope : Scope) (name : Value) :
    scope.column name = (scope.mentionOf name).map (·.text scope.dialect) := by
  cases name with
  | text member =>
      simp only [Scope.column, mentionOf]
      cases scope.columnOf member <;> rfl
  | _ =>
      simp only [Scope.column, mentionOf]
      split
      · rfl
      · exact map_unnamed_text scope.dialect _

theorem column_eq_ok (accepted : scope.column name = .ok text) :
    ∃ mention, scope.mentionOf name = .ok mention ∧ text = mention.text scope.dialect := by
  rw [column_eq_mentionOf] at accepted
  cases isMention : scope.mentionOf name with
  | error fault =>
      rw [isMention] at accepted
      cases accepted
  | ok mention =>
      rw [isMention] at accepted
      cases accepted
      exact ⟨mention, rfl, rfl⟩

/-- The text of a tree, like its counterpart in another style, is woven from the columns of
its members and from parameters. -/
structure Mentions (scope : Scope) (style : PlaceholderStyle) (tree : Predicate)
    (text other : String) (names : List String) (mentions : List Mention) : Prop where
  woven : Woven scope.dialect style text other mentions
  nonempty : text ≠ "" ∧ other ≠ ""
  parameters : mentions.filterMap (·.parameter?) = names
  columns : ∀ mention ∈ mentions, mention.parameter? = none →
    ∃ name ∈ tree.memberNames, scope.mentionOf name = .ok mention
  resolved : ∀ name ∈ tree.memberNames, ∃ mention, scope.mentionOf name = .ok mention

theorem mentionOf_parameter? {mention : Mention} (isMention : scope.mentionOf name = .ok mention) :
    mention.parameter? = none := by
  cases name with
  | text member =>
      obtain ⟨column, _, rfl⟩ := mentionOf_text isMention
      rfl
  | _ =>
      simp only [mentionOf] at isMention
      split at isMention
      · cases isMention
        rfl
      · cases rendered : scope.dialect.identifierOf _ <;> rw [rendered] at isMention <;>
          cases isMention
        rfl

/-- In another style the column is the same mention. -/
theorem column_inStyle (style : PlaceholderStyle) {mention : Mention}
    (isMention : scope.mentionOf name = .ok mention) :
    (scope.inStyle style).column name = .ok (mention.text (scope.dialect.inStyle style)) := by
  have sameMention : (scope.inStyle style).mentionOf name = scope.mentionOf name := rfl
  rw [column_eq_mentionOf, sameMention, isMention]
  rfl

/-! ## Leaves -/

/-- The mentions of a test of one column: the column, and what stands behind the words of
the test. -/
theorem mentions_of_test {mention : Mention} {words later laterOther : String}
    {others : List Mention} (members : tree.memberNames = [name])
    (isMention : scope.mentionOf name = .ok mention)
    (separated : Separated words) (given : words ≠ "")
    (woven : Woven scope.dialect style (words ++ later) (words ++ laterOther) others)
    (parameters : others.filterMap (·.parameter?) = names)
    (onlyParameters : ∀ mention ∈ others, mention.parameter? ≠ none) :
    scope.Mentions style tree (mention.text scope.dialect ++ (words ++ later))
      (mention.text (scope.dialect.inStyle style) ++ (words ++ laterOther)) names
      (mention :: others) where
  woven := .mention mention (separated.append_of_ne given) woven
  nonempty := by
    have behind (column rest : String) : column ++ (words ++ rest) ≠ "" := fun empty =>
      given (String.append_eq_empty_iff.mp (String.append_eq_empty_iff.mp empty).2).1
    exact ⟨behind _ _, behind _ _⟩
  parameters := by simp [mentionOf_parameter? isMention, parameters]
  columns other isOther noParameter := by
    rcases List.mem_cons.mp isOther with rfl | isOther
    · exact ⟨name, by simp [members], isMention⟩
    · exact absurd noParameter (onlyParameters other isOther)
  resolved other isMember := by
    obtain rfl : other = name := by simpa [members] using isMember
    exact ⟨mention, isMention⟩

/-- What the rendering of a tree gives: its constants are bound one after the other, and
the text mentions their parameters in this order.  The rendering in another style binds the
same parameters and mentions the same. -/
def Gives (scope : Scope) (style : PlaceholderStyle) (tree : Predicate)
    (inOther : Action Parameters String) (parameters reached : Parameters) (text : String) : Prop :=
  ∃ other names mentions, inOther parameters = (.ok other, reached) ∧
    Parameters.bindEach tree.boundConstants parameters = (.ok names, reached) ∧
    scope.Mentions style tree text other names mentions

/-- A test by words alone binds nothing. -/
theorem mentions_of_words {mention : Mention} {words : String} (members : tree.memberNames = [name])
    (isMention : scope.mentionOf name = .ok mention) (closes : Sql.Closes words)
    (separated : Separated words) (given : words ≠ "") :
    scope.Mentions style tree (mention.text scope.dialect ++ words)
      (mention.text (scope.dialect.inStyle style) ++ words) [] [mention] := by
  have woven : Woven scope.dialect style (words ++ "") (words ++ "") [] := by
    simpa using Woven.ending words closes
  simpa using mentions_of_test members isMention separated given woven rfl (by simp)

/-- A comparison with a parameter mentions the column and the parameter. -/
theorem mentions_of_compared {mention : Mention} (op : Comparator) (parameter : String)
    (members : tree.memberNames = [name]) (isMention : scope.mentionOf name = .ok mention) :
    scope.Mentions style tree
      (mention.text scope.dialect ++ " " ++ op.token ++ " " ++ scope.dialect.placeholder parameter)
      (mention.text (scope.dialect.inStyle style) ++ " " ++ op.token ++ " " ++
        (scope.dialect.inStyle style).placeholder parameter)
      [parameter] [mention, .parameter parameter] := by
  have plain : (" " ++ op.token ++ " ").toList.all isWording = true := by cases op <;> decide
  have separated : Separated (" " ++ op.token ++ " ") := by cases op <;> decide
  have given : " " ++ op.token ++ " " ≠ "" := by cases op <;> decide
  have compared : Woven scope.dialect style
      (" " ++ op.token ++ " " ++ scope.dialect.placeholder parameter)
      (" " ++ op.token ++ " " ++ (scope.dialect.inStyle style).placeholder parameter)
      [.parameter parameter] :=
    .words _ plain (.last (.parameter parameter))
  have mentions : scope.Mentions style tree _ _ [parameter] _ :=
    mentions_of_test members isMention separated given compared rfl (by simp [Mention.parameter?])
  simpa only [String.append_assoc] using mentions

/-- A test whether a column is one of several values mentions the column and the parameters. -/
theorem mentions_of_listed {mention : Mention} (negative : Bool) (members : tree.memberNames = [name])
    (isMention : scope.mentionOf name = .ok mention) (someNames : names ≠ []) :
    scope.Mentions style tree
      (mention.text scope.dialect ++ (if negative then " NOT IN (" else " IN (") ++
        ", ".intercalate (names.map scope.dialect.placeholder) ++ ")")
      (mention.text (scope.dialect.inStyle style) ++ (if negative then " NOT IN (" else " IN (") ++
        ", ".intercalate (names.map (scope.dialect.inStyle style).placeholder) ++ ")")
      names (mention :: names.map .parameter) := by
  have items : WovenEach scope.dialect style (names.map scope.dialect.placeholder)
      (names.map (scope.dialect.inStyle style).placeholder) (names.map .parameter) :=
    .ofMentions .parameter names
  have listed := items.intercalate ", " (by decide) (by decide) (by decide) (by simpa using someNames)
  have parameters : (names.map Mention.parameter).filterMap (·.parameter?) = names := by
    simp [List.filterMap_map, Mention.parameter?]
  have onlyParameters : ∀ mention ∈ names.map Mention.parameter, mention.parameter? ≠ none := by
    simp [Mention.parameter?]
  have opening : ∃ words : String, words.toList.all isWording = true ∧ Separated words ∧
      words ≠ "" ∧ (if negative then " NOT IN (" else " IN (") = words := by
    cases negative <;> exact ⟨_, by decide, by decide, by decide, rfl⟩
  obtain ⟨words, plain, separated, given, words_eq⟩ := opening
  have mentions := mentions_of_test members isMention separated given
    (.words words plain listed.closed) parameters onlyParameters
  rw [words_eq]
  simpa only [String.append_assoc] using mentions

theorem compare_gives {written : Comparator} {left right : Predicate} {oriented : Oriented}
    (style : PlaceholderStyle)
    (isOriented : Predicate.memberFirst written left right = .ok oriented)
    (accepted : scope.compare oriented parameters = (.ok text, reached)) :
    scope.Gives style (.comparison written left right) ((scope.inStyle style).compare oriented)
      parameters reached text := by
  obtain ⟨members, constants⟩ := Predicate.memberFirst_parts isOriented
  obtain ⟨column, bound, rendered, isWritten, bindRan⟩ := compare_eq_ok.mp accepted
  obtain ⟨mention, isMention, rfl⟩ := column_eq_ok rendered
  have renderedAgain := column_inStyle style isMention
  have constantsRan := bindRan
  rw [isWritten.values_eq, ← constants] at constantsRan
  cases isWritten with
  | null isNull op_eq =>
      exact ⟨_, [], [mention],
        compare_eq_ok.mpr ⟨_, [], renderedAgain, .null isNull op_eq, bindRan⟩, constantsRan,
        mentions_of_words members isMention (by decide) (by decide) (by decide)⟩
  | given isNull op_eq =>
      exact ⟨_, [], [mention],
        compare_eq_ok.mpr ⟨_, [], renderedAgain, .given isNull op_eq, bindRan⟩, constantsRan,
        mentions_of_words members isMention (by decide) (by decide) (by decide)⟩
  | @compared parameter notNull =>
      exact ⟨_, [parameter], [mention, .parameter parameter],
        compare_eq_ok.mpr ⟨_, _, renderedAgain, .compared notNull, bindRan⟩, constantsRan,
        mentions_of_compared oriented.op parameter members isMention⟩

theorem belongs_gives (style : PlaceholderStyle) (negative : Bool) (values : List Value)
    (members : tree.memberNames = [name]) (constants : tree.boundConstants = values)
    (accepted : scope.belongs negative (.member name) values parameters = (.ok text, reached)) :
    scope.Gives style tree ((scope.inStyle style).belongs negative (.member name) values)
      parameters reached text := by
  obtain ⟨column, names, rendered, listed, bindRan⟩ := belongs_eq_ok.mp accepted
  obtain ⟨mention, isMention, rfl⟩ := column_eq_ok rendered
  have renderedAgain := column_inStyle style isMention
  subst constants
  cases listed with
  | never =>
      refine ⟨_, [], [], belongs_eq_ok.mpr ⟨_, _, renderedAgain, .never, bindRan⟩, bindRan, ?_⟩
      cases negative <;> exact {
        woven := .ending _ (by decide)
        nonempty := by decide
        parameters := rfl
        columns := by simp
        resolved := by simp [members, isMention] }
  | among given =>
      exact ⟨_, names, mention :: names.map .parameter,
        belongs_eq_ok.mpr ⟨_, _, renderedAgain, .among given, bindRan⟩, bindRan,
        mentions_of_listed negative members isMention given⟩

/-! ## Trees -/

theorem Mentions.join {left right : Predicate} {leftText leftOther rightText rightOther : String}
    {leftNames rightNames : List String} {leftMentions rightMentions : List Mention}
    (first : scope.Mentions style left leftText leftOther leftNames leftMentions)
    (second : scope.Mentions style right rightText rightOther rightNames rightMentions)
    (connective : Connective) :
    scope.Mentions style (.logical connective left right)
      ("(" ++ leftText ++ ") " ++ connective.token ++ " (" ++ rightText ++ ")")
      ("(" ++ leftOther ++ ") " ++ connective.token ++ " (" ++ rightOther ++ ")")
      (leftNames ++ rightNames) (leftMentions ++ rightMentions) where
  woven := by
    have plain : (") " ++ connective.token ++ " (").toList.all isWording = true := by
      cases connective <;> decide
    have separated : Separated (") " ++ connective.token ++ " (") := by
      cases connective <;> decide
    have given : ") " ++ connective.token ++ " (" ≠ "" := by cases connective <;> decide
    simpa only [String.append_assoc] using first.woven.bracketed second.woven plain separated given
  nonempty := by simp
  parameters := by rw [List.filterMap_append, first.parameters, second.parameters]
  columns mention isMention noParameter := by
    rcases List.mem_append.mp isMention with isLeft | isRight
    · obtain ⟨name, member, named⟩ := first.columns mention isLeft noParameter
      exact ⟨name, List.mem_append_left _ member, named⟩
    · obtain ⟨name, member, named⟩ := second.columns mention isRight noParameter
      exact ⟨name, List.mem_append_right _ member, named⟩
  resolved name isMember := by
    rcases List.mem_append.mp isMember with isLeft | isRight
    · exact first.resolved name isLeft
    · exact second.resolved name isRight

theorem renderTree_gives (style : PlaceholderStyle) (tree : Predicate)
    (accepted : scope.renderTree tree parameters = (.ok text, reached)) :
    scope.Gives style tree ((scope.inStyle style).renderTree tree) parameters reached text := by
  induction tree generalizing parameters reached text with
  | logical connective left right leftGives rightGives =>
      obtain ⟨leftText, middle, leftRan, ran⟩ := Action.bind_eq_ok.mp accepted
      obtain ⟨rightText, last, rightRan, ran⟩ := Action.bind_eq_ok.mp ran
      obtain ⟨rfl, rfl⟩ := Action.answer_eq_ok.mp ran
      obtain ⟨leftOther, leftNames, leftMentions, leftAgain, leftBound, first⟩ := leftGives leftRan
      obtain ⟨rightOther, rightNames, rightMentions, rightAgain, rightBound, second⟩ :=
        rightGives rightRan
      exact ⟨_, _, _,
        Action.bind_eq_ok.mpr ⟨_, _, leftAgain, Action.bind_eq_ok.mpr ⟨_, _, rightAgain, rfl⟩⟩,
        Parameters.bindEach_append leftBound rightBound, first.join second connective⟩
  | comparison op left right =>
      obtain ⟨oriented, isOriented, ran⟩ := Action.ofExcept_bind_eq_ok.mp accepted
      obtain ⟨other, names, mentions, again, gives⟩ := compare_gives style isOriented ran
      exact ⟨other, names, mentions,
        Action.ofExcept_bind_eq_ok.mpr ⟨oriented, isOriented, again⟩, gives⟩
  | membership tested values =>
      cases tested with
      | member name => exact belongs_gives style false values rfl rfl accepted
      | _ => exact absurd accepted Action.fail_ne_ok
  | negation operand =>
      cases operand with
      | membership tested values =>
          cases tested with
          | member name => exact belongs_gives style true values rfl rfl accepted
          | _ => exact absurd accepted Action.fail_ne_ok
      | _ => exact absurd accepted Action.fail_ne_ok
  | _ => exact absurd accepted Action.fail_ne_ok

/-- The rendering of a predicate gives that of the tree which it stands for. -/
theorem render_gives (style : PlaceholderStyle) (predicate : Predicate)
    (accepted : scope.render predicate parameters = (.ok text, reached)) :
    ∃ tree, predicate.expand = .ok tree ∧ tree.boundConstants = predicate.constants ∧
      scope.Gives style tree ((scope.inStyle style).render predicate) parameters reached text := by
  obtain ⟨tree, expands, ran⟩ := render_expand predicate accepted
  obtain ⟨other, names, mentions, again, gives⟩ := renderTree_gives style tree ran
  refine ⟨tree, expands, ?_, other, names, mentions, render_of_expand predicate expands again,
    gives⟩
  simp [Predicate.constants, expands, Except.toOption]

end Scope

end EntitySql
