import EntitySql.Dialect.Identifier
import EntitySql.Proofs.Text.Quotation

/-!
# Quoted identifiers

A name that does not start and end with the delimiters is quoted, whatever
stands in it, and its content is the folded name.  A name that starts and ends
with the delimiters stays as it is, whatever stands between them.
-/

namespace EntitySql.Dialect

open Text

variable {dialect : Dialect} {name : String} {c : Char}

/-! ## Delimiters -/

theorem opening_cases (dialect : Dialect) :
    dialect.delimiters.opening = '[' ∨ dialect.delimiters.opening = '"' := by
  unfold delimiters
  split
  · exact .inl rfl
  · exact .inr rfl

theorem closing_cases (dialect : Dialect) :
    dialect.delimiters.closing = ']' ∨ dialect.delimiters.closing = '"' := by
  unfold delimiters
  split
  · exact .inl rfl
  · exact .inr rfl

theorem opening_ne (notBracket : c ≠ '[') (notQuote : c ≠ '"') :
    dialect.delimiters.opening ≠ c := by
  rcases dialect.opening_cases with opens | opens
  · rw [opens]
    exact notBracket.symm
  · rw [opens]
    exact notQuote.symm

theorem closing_ne (notBracket : c ≠ ']') (notQuote : c ≠ '"') :
    dialect.delimiters.closing ≠ c := by
  rcases dialect.closing_cases with closes | closes
  · rw [closes]
    exact notBracket.symm
  · rw [closes]
    exact notQuote.symm

/-! ## Names -/

theorem identifier_of_delimited (delimited : dialect.isDelimited name = true) :
    dialect.identifier name = name := by
  simp [identifier, delimited]

theorem identifier_of_not_delimited (given : name ≠ "")
    (notDelimited : dialect.isDelimited name = false) :
    dialect.identifier name = dialect.delimiters.enclose (dialect.fold name) := by
  simp [identifier, given, notDelimited]

/-- A quoted identifier stays as it is.  A name without delimiters becomes one
quoted identifier, whose content is the folded name.  So the outcome is one
quoted identifier exactly if the name is one whenever it starts and ends with
the delimiters. -/
theorem identifier_quoted (dialect : Dialect) (name : String) (given : name ≠ "") :
    (dialect.delimiters.IsQuoted name → dialect.identifier name = name) ∧
      (dialect.isDelimited name = false →
        dialect.delimiters.contentOf (dialect.identifier name) = some (dialect.fold name)) ∧
      (dialect.delimiters.IsQuoted (dialect.identifier name) ↔
        (dialect.isDelimited name = true → dialect.delimiters.IsQuoted name)) := by
  have content_eq : dialect.isDelimited name = false →
      dialect.delimiters.contentOf (dialect.identifier name) = some (dialect.fold name) := by
    intro notDelimited
    rw [identifier_of_not_delimited given notDelimited, Delimiters.contentOf_enclose]
  refine ⟨fun quoted => identifier_of_delimited quoted.enclosed, content_eq, ?_⟩
  cases delimited : dialect.isDelimited name with
  | true => simp [identifier_of_delimited delimited]
  | false => simp [Delimiters.IsQuoted, content_eq delimited]

/-- A name with a lone closing character in it comes out as one quoted identifier. -/
theorem identifier_quoted_bracket :
    let dialect : Dialect := ⟨.sqlServer, .atSign⟩
    "a] OR [b" ≠ "" ∧ dialect.identifier "a] OR [b" = "[a]] OR [b]" ∧
      dialect.delimiters.contentOf "[a]] OR [b]" = some "a] OR [b" ∧
      dialect.delimiters.IsQuoted "[a]] OR [b]" := by
  intro dialect
  have notDelimited : dialect.isDelimited "a] OR [b" = false := by decide +kernel
  have quotation : dialect.identifier "a] OR [b" = "[a]] OR [b]" := by decide +kernel
  obtain ⟨_, content, quoted_iff⟩ := identifier_quoted dialect "a] OR [b" (by decide)
  rw [quotation] at content quoted_iff
  exact ⟨by decide, quotation, content notDelimited, quoted_iff.mpr (by simp [notDelimited])⟩

/-- Two quoted identifiers with syntax between them start and end with the
delimiters.  They are no quoted identifier, and stay as they are. -/
theorem identifier_lets_syntax_through :
    let dialect : Dialect := ⟨.postgres .keep, .percent⟩
    let name := "\"a\" OR \"b\""
    name ≠ "" ∧ dialect.identifier name = name ∧
      ¬dialect.delimiters.IsQuoted (dialect.identifier name) ∧
      dialect.delimiters.contentOf (dialect.identifier name) ≠ some (dialect.fold name) := by
  decide +kernel

end EntitySql.Dialect
