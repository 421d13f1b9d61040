import EntitySql.Text.Quoted
import Mathlib.Data.List.Basic

/-!
# Reading quoted text

A quoted content ends at the first closing character that is not written twice.
Reading it undoes the doubling, so that exactly the quotations of a content are
read as that content, and whatever follows is left over.
-/

namespace EntitySql.Text

/-- Reads a quoted content, behind its opening character, up to the closing
character that ends it, and says what is left over. -/
def unquoteAfter (closing : Char) : List Char → Option (List Char × List Char)
  | [] => none
  | [c] => if c = closing then some ([], []) else none
  | c :: d :: rest =>
    if c = closing then
      if d = closing then
        (unquoteAfter closing rest).map fun read => (closing :: read.1, read.2)
      else some ([], d :: rest)
    else (unquoteAfter closing (d :: rest)).map fun read => (c :: read.1, read.2)

variable {closing c : Char} {text content rest : List Char}

@[simp]
theorem doubleEach_nil (marker : Char) : doubleEach marker [] = [] := rfl

@[simp]
theorem doubleEach_cons_self (marker : Char) (text : List Char) :
    doubleEach marker (marker :: text) = marker :: marker :: doubleEach marker text :=
  if_pos rfl

theorem doubleEach_cons_other {marker : Char} (other : c ≠ marker) (text : List Char) :
    doubleEach marker (c :: text) = c :: doubleEach marker text :=
  if_neg other

@[simp]
theorem unquoteAfter_nil (closing : Char) : unquoteAfter closing [] = none := rfl

theorem unquoteAfter_end (ends : rest.head? ≠ some closing) :
    unquoteAfter closing (closing :: rest) = some ([], rest) := by
  cases rest with
  | nil => exact if_pos rfl
  | cons d rest =>
      have lone : d ≠ closing := by simpa using ends
      exact (if_pos rfl).trans (if_neg lone)

theorem unquoteAfter_twice :
    unquoteAfter closing (closing :: closing :: text) =
      (unquoteAfter closing text).map fun read => (closing :: read.1, read.2) :=
  (if_pos rfl).trans (if_pos rfl)

theorem unquoteAfter_other (other : c ≠ closing) :
    unquoteAfter closing (c :: text) =
      (unquoteAfter closing text).map fun read => (c :: read.1, read.2) := by
  cases text with
  | nil => exact if_neg other
  | cons d rest => exact if_neg other

theorem doubleEach_of_not_mem (outside : closing ∉ content) :
    doubleEach closing content = content := by
  induction content with
  | nil => rfl
  | cons c content ih =>
      simp only [List.mem_cons, not_or] at outside
      rw [doubleEach_cons_other (Ne.symm outside.1), ih outside.2]

theorem doubleEach_append (marker : Char) (text later : List Char) :
    doubleEach marker (text ++ later) = doubleEach marker text ++ doubleEach marker later := by
  induction text with
  | nil => rfl
  | cons c text ih =>
      by_cases same : c = marker
      · simp [same, ih]
      · simp [doubleEach_cons_other same, ih]

theorem doubleEach_reverse (marker : Char) (text : List Char) :
    doubleEach marker text.reverse = (doubleEach marker text).reverse := by
  induction text with
  | nil => rfl
  | cons c text ih =>
      rw [List.reverse_cons, doubleEach_append, ih]
      by_cases same : c = marker
      · simp [same]
      · simp [doubleEach_cons_other same]

theorem length_le_doubleEach (marker : Char) (text : List Char) :
    text.length ≤ (doubleEach marker text).length := by
  induction text with
  | nil => exact Nat.le_refl _
  | cons c text ih =>
      by_cases same : c = marker
      · simp [same]
        omega
      · simpa [doubleEach_cons_other same] using ih

theorem count_doubleEach_self (marker : Char) (text : List Char) :
    (doubleEach marker text).count marker = 2 * text.count marker := by
  induction text with
  | nil => rfl
  | cons c text ih =>
      by_cases same : c = marker
      · simp [same, ih]
        omega
      · simp [doubleEach_cons_other same, same, ih]

theorem count_doubleEach_of_ne {marker : Char} (other : c ≠ marker) :
    (doubleEach marker text).count c = text.count c := by
  induction text with
  | nil => rfl
  | cons first text ih =>
      by_cases same : first = marker
      · simp [same, ih, Ne.symm other]
      · simp [doubleEach_cons_other same, ih, List.count_cons]

/-- A quoted content is read up to its end, whatever follows. -/
theorem unquoteAfter_doubleEach (closing : Char) (content rest : List Char)
    (ends : rest.head? ≠ some closing) :
    unquoteAfter closing (doubleEach closing content ++ closing :: rest) =
      some (content, rest) := by
  induction content with
  | nil => exact unquoteAfter_end ends
  | cons c content ih =>
      by_cases same : c = closing
      · simp [same, unquoteAfter_twice, ih]
      · simp [doubleEach_cons_other same, unquoteAfter_other same, ih]

/-- Nothing else is read as that content. -/
theorem eq_of_unquoteAfter (read : unquoteAfter closing text = some (content, rest)) :
    text = doubleEach closing content ++ closing :: rest ∧ rest.head? ≠ some closing := by
  induction text using unquoteAfter.induct closing generalizing content with
  | case1 => simp at read
  | case2 =>
      rw [unquoteAfter_end (by simp)] at read
      cases read
      exact ⟨rfl, by simp⟩
  | case3 c lone => simp [unquoteAfter_other lone] at read
  | case4 later ih =>
      rw [unquoteAfter_twice, Option.map_eq_some_iff] at read
      obtain ⟨⟨inner, left⟩, readInner, equal⟩ := read
      cases equal
      obtain ⟨rfl, ends⟩ := ih readInner
      exact ⟨by simp, ends⟩
  | case5 d later lone =>
      have ends : (d :: later).head? ≠ some closing := by simpa using lone
      rw [unquoteAfter_end ends] at read
      cases read
      exact ⟨rfl, ends⟩
  | case6 c d later other ih =>
      rw [unquoteAfter_other other, Option.map_eq_some_iff] at read
      obtain ⟨⟨inner, left⟩, readInner, equal⟩ := read
      cases equal
      obtain ⟨text_eq, ends⟩ := ih readInner
      exact ⟨by rw [text_eq, doubleEach_cons_other other, List.cons_append], ends⟩

/-- Reading a quoted content leaves less over than there was. -/
theorem length_of_unquoteAfter (read : unquoteAfter closing text = some (content, rest)) :
    rest.length < text.length := by
  obtain ⟨rfl, _⟩ := eq_of_unquoteAfter read
  simp
  omega

namespace Delimiters

/-- The content of a text that is one quotation from end to end. -/
def contentOf (delimiters : Delimiters) (text : String) : Option String :=
  match text.toList with
  | [] => none
  | c :: rest =>
    if c = delimiters.opening then
      match unquoteAfter delimiters.closing rest with
      | some (content, []) => some (String.ofList content)
      | _ => none
    else none

/-- A text is one quotation from end to end. -/
def IsQuoted (delimiters : Delimiters) (text : String) : Prop :=
  (delimiters.contentOf text).isSome = true

variable {delimiters : Delimiters} {text content : String}

instance : Decidable (delimiters.IsQuoted text) := inferInstanceAs (Decidable (_ = true))

@[simp]
theorem toList_enclose (delimiters : Delimiters) (content : String) :
    (delimiters.enclose content).toList =
      delimiters.opening ::
        (doubleEach delimiters.closing content.toList ++ [delimiters.closing]) := by
  simp [enclose]

/-- Exactly the quotation of a content has that content. -/
theorem contentOf_eq_some :
    delimiters.contentOf text = some content ↔ text = delimiters.enclose content := by
  constructor
  · intro read
    unfold contentOf at read
    split at read
    · cases read
    · rename_i c rest text_eq
      split at read
      · rename_i opens
        split at read
        · rename_i inner unquoted
          cases read
          obtain ⟨rest_eq, _⟩ := eq_of_unquoteAfter unquoted
          apply String.toList_inj.mp
          simp [text_eq, opens, rest_eq]
        · cases read
      · cases read
  · rintro rfl
    have unquoted := unquoteAfter_doubleEach delimiters.closing content.toList [] (by simp)
    simp [contentOf, unquoted]

@[simp]
theorem contentOf_enclose (delimiters : Delimiters) (content : String) :
    delimiters.contentOf (delimiters.enclose content) = some content :=
  contentOf_eq_some.mpr rfl

theorem isQuoted_iff : delimiters.IsQuoted text ↔ ∃ content, text = delimiters.enclose content := by
  simp [IsQuoted, Option.isSome_iff_exists, contentOf_eq_some]

/-- A quotation starts and ends with the delimiters. -/
theorem IsQuoted.enclosed (quoted : delimiters.IsQuoted text) :
    delimiters.enclosed text = true := by
  obtain ⟨content, rfl⟩ := isQuoted_iff.mp quoted
  simp [Delimiters.enclosed, List.getLast?_cons]

end Delimiters

end EntitySql.Text
