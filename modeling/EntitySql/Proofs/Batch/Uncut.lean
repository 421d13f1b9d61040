import EntitySql.Batch
import EntitySql.Proofs.Text.Quotation

/-!
# Texts that are not cut

Plain characters other than the semicolon, quotations and bracketed contents without a
closing bracket pass through the splitting of a batch in one piece, and whatever follows
them is read as if it stood alone.
-/

namespace EntitySql.Batch

open Text (doubleEach doubleEach_cons_other unquoteAfter)

variable {closing : Option Char} {c mark : Char} {text later content rest : List Char}

/-- Puts a text in front of the first piece. -/
def prependAll (text : List Char) (pieces : List (List Char)) : List (List Char) :=
  text.foldr prepend pieces

@[simp]
theorem prependAll_nil (pieces : List (List Char)) : prependAll [] pieces = pieces := rfl

@[simp]
theorem prependAll_cons (c : Char) (text : List Char) (pieces : List (List Char)) :
    prependAll (c :: text) pieces = prepend c (prependAll text pieces) := rfl

theorem prependAll_append (text later : List Char) (pieces : List (List Char)) :
    prependAll (text ++ later) pieces = prependAll text (prependAll later pieces) :=
  List.foldr_append

theorem prependAll_of_cons (text piece : List Char) (pieces : List (List Char)) :
    prependAll text (piece :: pieces) = (text ++ piece) :: pieces := by
  induction text with
  | nil => rfl
  | cons c text ih => simp [ih, prepend]

/-! ## Reading one character -/

@[simp]
theorem pieces_nil (closing : Option Char) : pieces closing [] = [[]] := by
  cases closing <;> rfl

@[simp]
theorem pieces_cut (text : List Char) : pieces none (';' :: text) = [] :: pieces none text := rfl

theorem pieces_cons (notCut : c ≠ ';') (text : List Char) :
    pieces none (c :: text) = prepend c (pieces (closingOf c) text) :=
  if_neg (by simpa using notCut)

@[simp]
theorem pieces_ended (mark : Char) (text : List Char) :
    pieces (some mark) (mark :: text) = prepend mark (pieces none text) :=
  congrArg (fun closing => prepend mark (pieces closing text)) (if_pos (beq_self_eq_true mark))

theorem pieces_inside (other : c ≠ mark) (text : List Char) :
    pieces (some mark) (c :: text) = prepend c (pieces (some mark) text) :=
  congrArg (fun closing => prepend c (pieces closing text)) (if_neg (by simpa using other))

/-- The pieces of a text are the text without the semicolons between them. -/
theorem intercalate_pieces (closing : Option Char) (text : List Char) :
    [';'].intercalate (pieces closing text) = text ∧ pieces closing text ≠ [] := by
  have prepended (c : Char) {text : List Char} {pieces : List (List Char)}
      (joined : [';'].intercalate pieces = text) (given : pieces ≠ []) :
      [';'].intercalate (prepend c pieces) = c :: text ∧ prepend c pieces ≠ [] := by
    obtain ⟨piece, others, rfl⟩ := List.exists_cons_of_ne_nil given
    cases others <;> simp_all [prepend, List.intercalate_cons_cons]
  induction text generalizing closing with
  | nil => simp
  | cons c text ih =>
      cases closing with
      | some mark => exact prepended c (ih _).1 (ih _).2
      | none =>
          by_cases cut : c = ';'
          · obtain ⟨joined, given⟩ := ih none
            obtain ⟨piece, others, pieces_eq⟩ := List.exists_cons_of_ne_nil given
            rw [pieces_eq] at joined
            simp [List.intercalate_cons_cons, joined, cut, pieces_eq]
          · rw [pieces_cons cut]
            exact prepended c (ih _).1 (ih _).2

/-- A text stays in one piece, behind which nothing is quoted any more. -/
def Uncut (text : List Char) : Prop :=
  ∀ rest, pieces none (text ++ rest) = prependAll text (pieces none rest)

theorem uncut_nil : Uncut [] := fun _ => rfl

theorem Uncut.append (first : Uncut text) (next : Uncut later) : Uncut (text ++ later) := by
  intro rest
  rw [List.append_assoc, first, next, prependAll_append]

theorem Uncut.pieces_eq (uncut : Uncut text) : pieces none text = [text] := by
  have whole := uncut []
  rw [List.append_nil] at whole
  simp [whole, prependAll_of_cons]

theorem Uncut.pieces_behind (uncut : Uncut text) (rest : List Char) :
    pieces none (text ++ ';' :: rest) = text :: pieces none rest := by
  rw [uncut]
  simp [prependAll_of_cons]

theorem uncut_of_plain (plain : ∀ c ∈ text, c ≠ ';' ∧ closingOf c = none) : Uncut text := by
  intro rest
  induction text with
  | nil => rfl
  | cons c text ih =>
      obtain ⟨⟨notCut, opensNone⟩, others⟩ := List.forall_mem_cons.mp plain
      simp [pieces_cons notCut, opensNone, ih others]

theorem mark_ne_cut (opens : closingOf mark = some mark) : mark ≠ ';' := by
  rintro rfl
  cases opens

/-- Inside of quotation marks a doubled mark ends a region and opens the next one. -/
theorem pieces_doubleEach (opens : closingOf mark = some mark) (content rest : List Char) :
    pieces (some mark) (doubleEach mark content ++ mark :: rest) =
      prependAll (doubleEach mark content ++ [mark]) (pieces none rest) := by
  induction content with
  | nil => simp
  | cons c content ih =>
      by_cases isMark : c = mark
      · simp [isMark, pieces_cons (mark_ne_cut opens), opens, ih]
      · simp [doubleEach_cons_other isMark, pieces_inside isMark, ih]

theorem uncut_quotation (opens : closingOf mark = some mark) (content : List Char) :
    Uncut (mark :: (doubleEach mark content ++ [mark])) := by
  intro rest
  simp [pieces_cons (mark_ne_cut opens), opens, pieces_doubleEach opens]

theorem pieces_outside (outside : mark ∉ content) (rest : List Char) :
    pieces (some mark) (content ++ mark :: rest) =
      prependAll (content ++ [mark]) (pieces none rest) := by
  induction content with
  | nil => simp
  | cons c content ih =>
      simp only [List.mem_cons, not_or] at outside
      simp [pieces_inside (Ne.symm outside.1), ih outside.2]

theorem closingOf_bracket : closingOf '[' = some ']' := rfl

theorem uncut_brackets (outside : ']' ∉ content) : Uncut ('[' :: (content ++ [']'])) := by
  intro rest
  simp [pieces_cons, closingOf_bracket, pieces_outside outside]

/-- Where no mark ends a region, the region reaches to the end. -/
theorem pieces_of_not_mem (outside : mark ∉ text) : pieces (some mark) text = [text] := by
  induction text with
  | nil => rfl
  | cons c text ih =>
      simp only [List.mem_cons, not_or] at outside
      rw [pieces_inside (Ne.symm outside.1), ih outside.2]
      rfl

theorem pieces_unended (opens : closingOf mark = some mark)
    (unended : unquoteAfter mark text = none) : pieces (some mark) text = [text] := by
  induction text using EntitySql.Text.unquoteAfter.induct mark with
  | case1 => rfl
  | case2 =>
      rw [Text.unquoteAfter_end (by simp)] at unended
      cases unended
  | case3 c other =>
      rw [pieces_inside other]
      rfl
  | case4 later ih =>
      rw [Text.unquoteAfter_twice, Option.map_eq_none_iff] at unended
      rw [pieces_ended, pieces_cons (mark_ne_cut opens), opens, ih unended]
      rfl
  | case5 d later lone =>
      rw [Text.unquoteAfter_end (by simpa using lone)] at unended
      cases unended
  | case6 c d later other ih =>
      rw [Text.unquoteAfter_other other, Option.map_eq_none_iff] at unended
      rw [pieces_inside other, ih unended]
      rfl

end EntitySql.Batch
