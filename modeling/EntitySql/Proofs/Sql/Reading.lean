import EntitySql.Proofs.Dialect.Identifier
import EntitySql.Proofs.Parameters
import EntitySql.Proofs.Sql.Token

/-!
# Reading conditions back

The text of a condition falls into the tokens of the condition, whatever
separate token follows it, and these are parsed as that condition.
-/

namespace EntitySql.Sql

variable {dialect : Dialect} {text rest later word : List Char} {token : Token} {c : Char}

/-- What follows a token does not run into it. -/
def Apart (rest : List Char) : Prop := ∀ c ∈ rest.head?, c = ' ' ∨ c = ',' ∨ c = ')'

theorem apart_nil : Apart [] := by simp [Apart]

theorem apart_cons (separates : c = ' ' ∨ c = ',' ∨ c = ')') : Apart (c :: rest) := by
  simpa [Apart] using separates

theorem Apart.head_not_word (apart : Apart rest) :
    ∀ c ∈ rest.head?, Text.isWord c = false := by
  intro c head
  rcases apart c head with rfl | rfl | rfl <;> decide

theorem Apart.head_ne_closing (apart : Apart rest) :
    rest.head? ≠ some dialect.delimiters.closing := by
  intro head
  have separates := apart _ head
  rcases dialect.closing_cases with closes | closes
  · rw [closes] at separates
    revert separates
    decide
  · rw [closes] at separates
    revert separates
    decide

theorem opening_not_word : Text.isWord dialect.delimiters.opening = false := by
  rcases dialect.opening_cases with opens | opens <;> rw [opens] <;> decide

theorem opening_not_blank : Text.isBlank dialect.delimiters.opening = false := by
  rcases dialect.opening_cases with opens | opens <;> rw [opens] <;> decide

/-! ## Single tokens -/

theorem tokens_blank : tokens dialect (' ' :: text) = tokens dialect text := by
  rw [tokens]
  simp [Text.isBlank]

theorem tokens_of_readToken (notBlank : ∀ c ∈ text.head?, Text.isBlank c = false)
    (read : readToken dialect text = some (token, later)) :
    tokens dialect text = (tokens dialect later).map (token :: ·) := by
  cases text with
  | nil => cases read
  | cons c text =>
      have blank : Text.isBlank c = false := notBlank c rfl
      rw [tokens]
      simp only [blank, Bool.false_eq_true, if_false]
      split
      · rename_i unread
        rw [read] at unread
        cases unread
      · rename_i reads
        rw [read, Option.some.injEq, Prod.mk.injEq] at reads
        rw [reads.1, reads.2]

theorem span_word (isWord : ∀ c ∈ word, Text.isWord c = true)
    (stops : ∀ c ∈ rest.head?, Text.isWord c = false) :
    (word ++ rest).takeWhile Text.isWord = word ∧
      (word ++ rest).dropWhile Text.isWord = rest := by
  have ends : rest.takeWhile Text.isWord = [] ∧ rest.dropWhile Text.isWord = rest := by
    cases rest with
    | nil => simp
    | cons c rest =>
        have notWord := stops c rfl
        simp [notWord]
  rw [List.takeWhile_append_of_pos isWord, List.dropWhile_append_of_pos isWord]
  simp [ends]

theorem readToken_word (nonempty : word ≠ []) (isWord : ∀ c ∈ word, Text.isWord c = true)
    (apart : Apart rest) :
    readToken dialect (word ++ rest) = (wordToken word).map (·, rest) := by
  obtain ⟨taken, dropped⟩ := span_word isWord apart.head_not_word
  cases word with
  | nil => exact absurd rfl nonempty
  | cons c word =>
      have first := isWord c (by simp)
      have notOpening : c ≠ dialect.delimiters.opening := by
        rintro rfl
        rw [opening_not_word] at first
        cases first
      rw [List.cons_append] at taken dropped ⊢
      simp only [readToken, notOpening, first, if_true, if_false, taken, dropped]

theorem tokens_keyword (keyword : Keyword) (apart : Apart rest) :
    tokens dialect (keyword.spelling.toList ++ rest) =
      (tokens dialect rest).map (.keyword keyword :: ·) := by
  have isToken : wordToken keyword.spelling.toList = some (.keyword keyword) := by
    cases keyword <;> decide
  have isWord : keyword.spelling.toList.all Text.isWord = true := by
    cases keyword <;> decide
  apply tokens_of_readToken
  · cases keyword <;> simp [Keyword.spelling] <;> decide
  · rw [readToken_word _ _ apart, isToken]
    · rfl
    · cases keyword <;> decide
    · exact List.all_eq_true.mp isWord

theorem tokens_number (value : Nat) (apart : Apart rest) :
    tokens dialect ((toString value).toList ++ rest) =
      (tokens dialect rest).map (.operand (.number value) :: ·) := by
  have digits : (toString value).toList = Nat.toDigits 10 value := by
    rw [Nat.toString_eq_repr, Nat.toList_repr]
  have areDigits : ∀ c ∈ Nat.toDigits 10 value, c.isDigit = true := fun c member =>
    Nat.isDigit_of_mem_toDigits (by decide) (by decide) member
  have isToken : wordToken (Nat.toDigits 10 value) = some (.operand (.number value)) := by
    rw [wordToken, if_pos (List.all_eq_true.mpr areDigits),
      Nat.ofDigitChars_toDigits (by decide) (by decide)]
  rw [digits]
  apply tokens_of_readToken
  · intro c head
    have member : c ∈ Nat.toDigits 10 value := by
      cases shown : Nat.toDigits 10 value with
      | nil => exact absurd shown Nat.toDigits_ne_nil
      | cons first others => simp_all
    exact (Text.isWord_of_isDigit (areDigits c member)).2
  · rw [readToken_word Nat.toDigits_ne_nil _ apart, isToken]
    · rfl
    · exact fun c member => (Text.isWord_of_isDigit (areDigits c member)).1

theorem tokens_column (name : String) (apart : Apart rest) :
    tokens dialect ((dialect.delimiters.enclose name).toList ++ rest) =
      (tokens dialect rest).map (.operand (.column name) :: ·) := by
  have unquoted := Text.unquoteAfter_doubleEach dialect.delimiters.closing name.toList rest
    apart.head_ne_closing
  apply tokens_of_readToken
  · simp [opening_not_blank]
  · simp [readToken, unquoted]

theorem placeholder_toList (name : String) :
    (dialect.placeholder name).toList =
      leadOf dialect.style ++ (name.toList ++ tailOf dialect.style) := by
  unfold Dialect.placeholder
  cases dialect.style <;> simp [PlaceholderStyle.render, leadOf, tailOf]

theorem readPlaceholder_text {name : String} (readable : (Operand.parameter name).Readable)
    (stops : ∀ c ∈ rest.head?, Text.isWord c = false) (style : PlaceholderStyle) :
    readPlaceholder style (leadOf style ++ (name.toList ++ (tailOf style ++ rest))) =
      some (.operand (.parameter name), rest) := by
  obtain ⟨given, isWord⟩ := readable
  have tailStops : ∀ c ∈ (tailOf style ++ rest).head?, Text.isWord c = false := by
    cases style with
    | percent => simpa [tailOf] using (by decide : Text.isWord ')' = false)
    | _ => exact stops
  obtain ⟨taken, dropped⟩ := span_word isWord tailStops
  have prefixed : ∀ lead inner : List Char, (lead ++ inner).dropPrefix? lead = some inner := by
    intro lead inner
    exact List.dropPrefix?_eq_some_iff.mpr ⟨lead, rfl, beq_self_eq_true lead⟩
  simp only [readPlaceholder, prefixed, taken, dropped, Option.bind_eq_bind, Option.bind_some]
  simp [given]

theorem tokens_parameter {name : String} (readable : (Operand.parameter name).Readable)
    (apart : Apart rest) :
    tokens dialect ((dialect.placeholder name).toList ++ rest) =
      (tokens dialect rest).map (.operand (.parameter name) :: ·) := by
  have read := readPlaceholder_text readable apart.head_not_word dialect.style
  rw [placeholder_toList, List.append_assoc, List.append_assoc]
  have lead : ∃ c others, leadOf dialect.style = c :: others ∧ Text.isBlank c = false ∧
      Text.isWord c = false ∧ c ≠ dialect.delimiters.opening := by
    cases dialect.style <;> exact ⟨_, _, rfl, by decide, by decide,
      (Dialect.opening_ne (by decide) (by decide)).symm⟩
  obtain ⟨c, others, lead_eq, notBlank, notWord, notOpening⟩ := lead
  rw [lead_eq, List.cons_append] at read ⊢
  apply tokens_of_readToken
  · simpa using notBlank
  · simp [readToken, notOpening, notWord, read]

/-- An operand is read as one token. -/
theorem tokens_operand {operand : Operand} (readable : operand.Readable) (apart : Apart rest) :
    tokens dialect ((operand.text dialect).toList ++ rest) =
      (tokens dialect rest).map (.operand operand :: ·) := by
  cases operand with
  | column name => exact tokens_column name apart
  | parameter name => exact tokens_parameter readable apart
  | number value => exact tokens_number value apart

/-- The characters with which punctuation and comparisons start. -/
def symbols : List Char := ['(', ')', ',', '=', '!', '<', '>']

theorem readPlaceholder_symbol (symbol : c ∈ symbols) (style : PlaceholderStyle) :
    readPlaceholder style (c :: text) = none := by
  have noLead : symbols.all (fun c => c != '@' && c != '%' && c != ':') = true := by decide
  have others := List.all_eq_true.mp noLead c symbol
  simp only [Bool.and_eq_true, bne_iff_ne] at others
  obtain ⟨⟨notAt, notPercent⟩, notColon⟩ := others
  cases style <;> simp [readPlaceholder, leadOf, List.dropPrefix?, notAt, notPercent, notColon]

theorem tokens_symbol (symbol : c ∈ symbols)
    (read : readSymbol (c :: text) = some (token, later)) :
    tokens dialect (c :: text) = (tokens dialect later).map (token :: ·) := by
  have unlike : symbols.all (fun c =>
      !Text.isBlank c && !Text.isWord c && c != '[' && c != '"') = true := by
    decide
  have others := List.all_eq_true.mp unlike c symbol
  simp only [Bool.and_eq_true, Bool.not_eq_true', bne_iff_ne] at others
  obtain ⟨⟨⟨notBlank, notWord⟩, notBracket⟩, notQuote⟩ := others
  have notOpening : c ≠ dialect.delimiters.opening :=
    (Dialect.opening_ne notBracket notQuote).symm
  apply tokens_of_readToken
  · simpa using notBlank
  · simp [readToken, notOpening, notWord, readPlaceholder_symbol symbol, read]

theorem tokens_opening :
    tokens dialect ('(' :: text) = (tokens dialect text).map (.opening :: ·) :=
  tokens_symbol (by decide) rfl

theorem tokens_closing :
    tokens dialect (')' :: text) = (tokens dialect text).map (.closing :: ·) :=
  tokens_symbol (by decide) rfl

theorem tokens_comma : tokens dialect (',' :: text) = (tokens dialect text).map (.comma :: ·) :=
  tokens_symbol (by decide) rfl

theorem tokens_comparator (op : Comparator) :
    tokens dialect (op.token.toList ++ ' ' :: text) =
      (tokens dialect text).map (.comparator op :: ·) := by
  have blank : tokens dialect (' ' :: text) = tokens dialect text := tokens_blank
  rw [← blank]
  cases op <;> exact tokens_symbol (by decide) rfl

/-- Keywords with a blank before each. -/
def spaced (keywords : List Keyword) : List Char :=
  keywords.flatMap fun keyword => ' ' :: keyword.spelling.toList

theorem apart_spaced (keywords : List Keyword) (apart : Apart rest) :
    Apart (spaced keywords ++ rest) := by
  cases keywords with
  | nil => exact apart
  | cons keyword others => exact apart_cons (by decide)

theorem tokens_spaced (keywords : List Keyword) (apart : Apart rest) :
    tokens dialect (spaced keywords ++ rest) =
      (tokens dialect rest).map (keywords.map .keyword ++ ·) := by
  induction keywords with
  | nil => simp [spaced]
  | cons keyword others ih =>
      have text_eq : spaced (keyword :: others) ++ rest =
          ' ' :: (keyword.spelling.toList ++ (spaced others ++ rest)) := by
        simp [spaced]
      rw [text_eq, tokens_blank, tokens_keyword keyword (apart_spaced others apart), ih]
      simp [Function.comp_def]

/-! ## Conditions -/

/-- The items of a collection with commas between them. -/
def itemTokens : List Operand → List Token
  | [] => []
  | [item] => [.operand item]
  | item :: rest => .operand item :: .comma :: itemTokens rest

namespace Condition

/-- The keywords of a null test. -/
def nullKeywords (negative : Bool) : List Keyword := if negative then [.is, .not, .null] else [.is, .null]

/-- The keywords of a membership test. -/
def membershipKeywords (negative : Bool) : List Keyword := if negative then [.not, .among] else [.among]

/-- The tokens of a condition. -/
def tokens : Condition → List Token
  | compare op left right => [.operand left, .comparator op, .operand right]
  | nullTest operand negative => .operand operand :: (nullKeywords negative).map .keyword
  | membership operand items negative =>
    .operand operand :: ((membershipKeywords negative).map .keyword ++
      .opening :: (itemTokens items ++ [.closing]))
  | both left right =>
    .opening :: (left.tokens ++
      .closing :: .keyword .and :: .opening :: (right.tokens ++ [.closing]))
  | either left right =>
    .opening :: (left.tokens ++
      .closing :: .keyword .or :: .opening :: (right.tokens ++ [.closing]))

end Condition

theorem tokens_items {items : List Operand} (nonempty : items ≠ [])
    (readable : ∀ item ∈ items, item.Readable) (apart : Apart rest) :
    tokens dialect ((", ".intercalate (items.map (·.text dialect))).toList ++ rest) =
      (tokens dialect rest).map (itemTokens items ++ ·) := by
  induction items with
  | nil => exact absurd rfl nonempty
  | cons item others ih =>
      cases others with
      | nil => simpa [itemTokens] using tokens_operand (readable item (by simp)) apart
      | cons next others =>
          have later := ih (by simp) fun item member => readable item (by simp [member])
          have text_eq : (", ".intercalate ((item :: next :: others).map (·.text dialect))).toList =
              (item.text dialect).toList ++ ',' :: ' ' ::
                (", ".intercalate ((next :: others).map (·.text dialect))).toList := by
            simp [String.toList_intercalate]
          -- the comma keeps the first item apart from the others
          rw [text_eq, List.append_assoc, List.cons_append, List.cons_append,
            tokens_operand (readable item (by simp)) (apart_cons (by decide)), tokens_comma,
            tokens_blank, later]
          simp [itemTokens, Function.comp_def]

/-- Two conditions in parentheses with a keyword between them. -/
theorem tokens_joined {left right : List Char} {leftTokens rightTokens : List Token}
    (keyword : Keyword)
    (leftRead : ∀ rest, Apart rest →
      tokens dialect (left ++ rest) = (tokens dialect rest).map (leftTokens ++ ·))
    (rightRead : ∀ rest, Apart rest →
      tokens dialect (right ++ rest) = (tokens dialect rest).map (rightTokens ++ ·))
    (rest : List Char) :
    tokens dialect ('(' :: (left ++ ')' :: (spaced [keyword] ++ ' ' :: '(' ::
        (right ++ ')' :: rest)))) =
      (tokens dialect rest).map fun later => .opening :: (leftTokens ++ .closing ::
        .keyword keyword :: .opening :: (rightTokens ++ .closing :: later)) := by
  rw [tokens_opening, leftRead _ (apart_cons (by decide)), tokens_closing,
    tokens_spaced _ (apart_cons (by decide)), tokens_blank, tokens_opening,
    rightRead _ (apart_cons (by decide)), tokens_closing]
  simp [Function.comp_def]

/-- The text of a condition falls into its tokens. -/
theorem tokens_condition {condition : Condition} (readable : condition.Readable)
    (apart : Apart rest) :
    tokens dialect ((condition.text dialect).toList ++ rest) =
      (tokens dialect rest).map (condition.tokens ++ ·) := by
  induction condition generalizing rest with
  | compare op left right =>
      have text_eq : ((Condition.compare op left right).text dialect).toList ++ rest =
          (left.text dialect).toList ++ ' ' ::
            (op.token.toList ++ ' ' :: ((right.text dialect).toList ++ rest)) := by
        simp [Condition.text]
      rw [text_eq, tokens_operand readable.1 (apart_cons (by decide)), tokens_blank,
        tokens_comparator, tokens_operand readable.2 apart]
      simp [Condition.tokens, Function.comp_def]
  | nullTest operand negative =>
      have text_eq : ((Condition.nullTest operand negative).text dialect).toList ++ rest =
          (operand.text dialect).toList ++ (spaced (Condition.nullKeywords negative) ++ rest) := by
        cases negative <;> simp [Condition.text, spaced, Condition.nullKeywords, Keyword.spelling]
      rw [text_eq, tokens_operand readable (apart_spaced _ apart), tokens_spaced _ apart]
      simp [Condition.tokens, Function.comp_def]
  | membership operand items negative =>
      obtain ⟨operandReadable, nonempty, itemsReadable⟩ := readable
      have text_eq : ((Condition.membership operand items negative).text dialect).toList ++ rest =
          (operand.text dialect).toList ++ (spaced (Condition.membershipKeywords negative) ++
            ' ' :: '(' :: ((", ".intercalate (items.map (·.text dialect))).toList ++
              ')' :: rest)) := by
        cases negative <;>
          simp [Condition.text, spaced, Condition.membershipKeywords, Keyword.spelling]
      rw [text_eq, tokens_operand operandReadable (apart_spaced _ (apart_cons (by decide))),
        tokens_spaced _ (apart_cons (by decide)), tokens_blank, tokens_opening,
        tokens_items nonempty itemsReadable (apart_cons (by decide)), tokens_closing]
      simp [Condition.tokens, Function.comp_def]
  | both left right leftRead rightRead =>
      have text_eq : ((Condition.both left right).text dialect).toList ++ rest =
          '(' :: ((left.text dialect).toList ++ ')' :: (spaced [.and] ++ ' ' :: '(' ::
            ((right.text dialect).toList ++ ')' :: rest))) := by
        simp [Condition.text, spaced, Keyword.spelling]
      rw [text_eq, tokens_joined .and (fun _ => leftRead readable.1) (fun _ => rightRead readable.2)]
      simp [Condition.tokens]
  | either left right leftRead rightRead =>
      have text_eq : ((Condition.either left right).text dialect).toList ++ rest =
          '(' :: ((left.text dialect).toList ++ ')' :: (spaced [.or] ++ ' ' :: '(' ::
            ((right.text dialect).toList ++ ')' :: rest))) := by
        simp [Condition.text, spaced, Keyword.spelling]
      rw [text_eq, tokens_joined .or (fun _ => leftRead readable.1) (fun _ => rightRead readable.2)]
      simp [Condition.tokens]

end EntitySql.Sql
