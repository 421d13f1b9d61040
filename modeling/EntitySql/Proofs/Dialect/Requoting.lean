import EntitySql.Dialect.LooseName
import EntitySql.Proofs.Dialect.Qualified

/-!
# Quoting a name again

Nothing is left to quote in a quoted name: each of its segments is empty, or starts and ends
with the delimiters.  No step of the quoting writes a dot that was not there, so a second pass
finds the segments that the first one has written, and leaves them as they are.
-/

namespace EntitySql.Dialect

open Text

variable {dialect : Dialect} {name : String}

/-! ## Segments -/

theorem undotted_of_mem_segments {segment : String} (member : segment ∈ segments name) :
    '.' ∉ segment.toList := by
  have undotted (characters : List Char) :
      ∀ part ∈ characters.splitOn '.', '.' ∉ part := by
    induction characters with
    | nil => simp
    | cons c rest ih =>
        obtain ⟨part, others, parts_eq⟩ := List.exists_cons_of_ne_nil (List.splitOn_ne_nil '.' rest)
        rw [parts_eq, List.forall_mem_cons] at ih
        rw [List.splitOn_cons_eq_if_modifyHead]
        split
        · rw [parts_eq]
          exact List.forall_mem_cons.mpr ⟨List.not_mem_nil, List.forall_mem_cons.mpr ih⟩
        · rename_i other
          rw [parts_eq, List.modifyHead_cons, List.forall_mem_cons]
          have different : '.' ≠ c := Ne.symm (by simpa using other)
          exact ⟨List.not_mem_cons_of_ne_of_not_mem different ih.1, ih.2⟩
  obtain ⟨part, isPart, rfl⟩ := List.mem_map.mp member
  rw [String.toList_ofList]
  exact undotted _ part isPart

theorem segments_ne_nil (name : String) : segments name ≠ [] := by
  simp [segments, List.splitOn_ne_nil]

/-- Names without dots are found again between the dots that are put between them. -/
theorem segments_intercalate {names : List String} (given : names ≠ [])
    (undotted : ∀ name ∈ names, '.' ∉ name.toList) : segments (".".intercalate names) = names := by
  have characters : (".".intercalate names).toList.splitOn '.' = names.map String.toList := by
    rw [String.toList_intercalate]
    refine List.splitOn_intercalate '.' ?_ (by simpa using given)
    rwa [List.forall_mem_map]
  rw [segments, characters, List.map_map]
  simp [Function.comp_def]

/-! ## Quoted names are settled -/

theorem dot_notMem_fold (undotted : '.' ∉ name.toList) : '.' ∉ (dialect.fold name).toList := by
  unfold fold Folding.apply
  split
  · exact undotted
  · rw [lowercase, String.toList_ofList]
    exact dot_notMem_lowercaseAfter [] undotted
  · rw [snakeCase, String.toList_ofList]
    exact dot_notMem_snakeCaseAfter false name.toList

theorem dot_notMem_identifier (undotted : '.' ∉ name.toList) :
    '.' ∉ (dialect.identifier name).toList := by
  unfold identifier
  split
  · exact undotted
  · have folded := List.count_eq_zero.mpr (dialect.dot_notMem_fold undotted)
    rw [Delimiters.toList_enclose, ← List.count_eq_zero]
    simp [count_doubleEach_of_ne dialect.closing_ne_dot.symm, folded, dialect.opening_ne_dot,
      dialect.closing_ne_dot]

/-- The segments of a quoted name are the quoted segments of the name. -/
theorem segments_tableText (dialect : Dialect) (name : String) :
    segments (dialect.tableText name) = (segments name).map dialect.identifier := by
  refine segments_intercalate (by simp [segments_ne_nil]) ?_
  rw [List.forall_mem_map]
  exact fun segment member => dot_notMem_identifier (undotted_of_mem_segments member)

/-- Nothing is left to quote: the name is empty, or starts and ends with the delimiters. -/
def IsSettled (dialect : Dialect) (name : String) : Prop :=
  name = "" ∨ dialect.isDelimited name = true

theorem isDelimited_enclose (dialect : Dialect) (content : String) :
    dialect.isDelimited (dialect.delimiters.enclose content) = true :=
  (Delimiters.isQuoted_iff.mpr ⟨content, rfl⟩).enclosed

theorem isSettled_identifier (dialect : Dialect) (name : String) :
    dialect.IsSettled (dialect.identifier name) := by
  unfold identifier
  split
  · rename_i stays
    simpa [IsSettled] using stays
  · exact .inr (dialect.isDelimited_enclose _)

theorem isSettled_segments_tableText (dialect : Dialect) (name : String) :
    ∀ segment ∈ segments (dialect.tableText name), dialect.IsSettled segment := by
  rw [segments_tableText, List.forall_mem_map]
  exact fun segment _ => dialect.isSettled_identifier segment

theorem identifier_identifier (dialect : Dialect) (name : String) :
    dialect.identifier (dialect.identifier name) = dialect.identifier name :=
  identifier_eq_self_iff.mpr (dialect.isSettled_identifier name)

theorem tableText_tableText (dialect : Dialect) (name : String) :
    dialect.tableText (dialect.tableText name) = dialect.tableText name :=
  tableText_eq_self_iff.mpr (dialect.isSettled_segments_tableText name)

/-! ## Names that may be anything -/

section Loose

variable {loose rendered : Value}

theorem identifierOf_other (notText : ∀ content, loose ≠ .text content) :
    dialect.identifierOf loose = dialect.identifierOfOther loose := by
  unfold identifierOf
  split
  · exact absurd rfl (notText _)
  · rfl

/-- What is no text passes if it is empty, or becomes a quoted item. -/
theorem identifierOfOther_eq_ok (ran : dialect.identifierOfOther loose = .ok rendered) :
    loose.isGiven = false ∧ rendered = loose ∨
      ∃ content, rendered = .text (dialect.delimiters.enclose content) := by
  unfold identifierOfOther at ran
  split at ran
  · rename_i notGiven
    cases ran
    exact .inl ⟨by simpa using notGiven, rfl⟩
  · right
    split at ran
    · cases ran
    · obtain ⟨content, _, rfl⟩ := Fault.map_eq_ok.mp ran
      exact ⟨content, rfl⟩
    · split at ran <;> cases ran

theorem identifierOf_settled (ran : dialect.identifierOf loose = .ok rendered) :
    dialect.identifierOf rendered = .ok rendered := by
  by_cases isText : ∃ content, loose = .text content
  · obtain ⟨content, rfl⟩ := isText
    cases ran
    exact congrArg (Except.ok ∘ Value.text) (dialect.identifier_identifier content)
  · have notText : ∀ content, loose ≠ .text content := fun content same => isText ⟨content, same⟩
    have otherRan := (identifierOf_other notText).symm.trans ran
    rcases identifierOfOther_eq_ok otherRan with ⟨_, rfl⟩ | ⟨content, rfl⟩
    · exact ran
    · have stays := identifier_of_delimited (dialect.isDelimited_enclose content)
      exact congrArg (Except.ok ∘ Value.text) stays

theorem tableOf_settled (ran : dialect.tableOf loose = .ok rendered) :
    dialect.tableOf rendered = .ok rendered := by
  have given := ran
  unfold tableOf at given
  split at given
  · rename_i content
    cases given
    exact congrArg (Except.ok ∘ Value.text) (dialect.tableText_tableText content)
  · split at given
    · cases given
    · cases given
      exact ran

end Loose

/-- Quoting again changes nothing, for columns and for tables, whether the name is a text or not:
what is refused stays refused, and a quoted name has nothing left to quote in any of its
segments. -/
theorem quoting_idempotent (dialect : Dialect) :
    (∀ name : String,
      dialect.columnText none (dialect.columnText none name) = dialect.columnText none name ∧
      dialect.tableText (dialect.tableText name) = dialect.tableText name ∧
      dialect.IsSettled (dialect.columnText none name) ∧
      segments (dialect.tableText name) = (segments name).map dialect.identifier ∧
      ∀ segment ∈ segments (dialect.tableText name), dialect.IsSettled segment) ∧
    (∀ name : Value,
      (dialect.identifierOf name).bind dialect.identifierOf = dialect.identifierOf name ∧
      (dialect.tableOf name).bind dialect.tableOf = dialect.tableOf name) := by
  have again {quote : Value → Except Fault Value}
      (settled : ∀ name rendered, quote name = .ok rendered → quote rendered = .ok rendered)
      (name : Value) : (quote name).bind quote = quote name := by
    cases ran : quote name with
    | error fault => rfl
    | ok rendered => exact settled name rendered ran
  refine ⟨fun name => ?_, fun name => ⟨?_, ?_⟩⟩
  · exact ⟨dialect.identifier_identifier name, dialect.tableText_tableText name,
      dialect.isSettled_identifier name, dialect.segments_tableText name,
      dialect.isSettled_segments_tableText name⟩
  · exact again (fun _ _ => identifierOf_settled) name
  · exact again (fun _ _ => tableOf_settled) name

/-- A name with an empty segment, a quoted one and one with a lone quote. -/
theorem mixed_name_settled :
    let dialect : Dialect := ⟨.postgres .lowerSnake, .percent⟩
    let quoted := "\"sales\"..\"Big Order\".\"\"\"odd_line\""
    dialect.tableText "Sales..\"Big Order\".\"OddLine" = quoted ∧
      "\"Big Order\"" ∈ segments quoted ∧ dialect.IsSettled "\"Big Order\"" ∧
      dialect.tableText quoted = quoted := by
  intro dialect quoted
  have written : dialect.tableText "Sales..\"Big Order\".\"OddLine" = quoted := by decide
  have isSegment : "\"Big Order\"" ∈ segments quoted := by decide
  obtain ⟨texts, _⟩ := quoting_idempotent dialect
  obtain ⟨_, again, _, _, settled⟩ := texts "Sales..\"Big Order\".\"OddLine"
  rw [written] at again settled
  exact ⟨written, isSegment, settled _ isSegment, again⟩

end EntitySql.Dialect
