import EntitySql.Proofs.Batch.Region

/-!
# Statements split again

A batch is cut only where no region is being read, so every piece but the last leaves no
region open, and each of them is read as if it stood alone.  Blanks open and close no
region.  Trimming the pieces therefore leaves the reading as it is, and the statements of a
batch, alone or joined, are split into themselves.
-/

namespace EntitySql.Batch

open Text (isBlank trimBlanks)

/-! ## Reading without a cut -/

/-- What closes the region being read, after one more character. -/
def closingAfter (c : Char) : Option Char → Option Char
  | some mark => if c == mark then none else some mark
  | none => closingOf c

/-- Reading a text leads from one closing character to another, without a cut. -/
inductive Reads : Option Char → List Char → Option Char → Prop
  | nil {closing : Option Char} : Reads closing [] closing
  | cons {closing ends : Option Char} {c : Char} {text : List Char}
      (notCut : closing = none → c ≠ ';') (others : Reads (closingAfter c closing) text ends) :
      Reads closing (c :: text) ends

/-- Texts that are read one behind the other, with no region left open at the cuts. -/
inductive Scanned : Option Char → List (List Char) → Prop
  | nil {closing : Option Char} : Scanned closing []
  | last {closing ends : Option Char} {piece : List Char} (read : Reads closing piece ends) :
      Scanned closing [piece]
  | cons {closing : Option Char} {piece : List Char} {texts : List (List Char)}
      (read : Reads closing piece none) (others : Scanned none texts) :
      Scanned closing (piece :: texts)

variable {closing ends : Option Char} {c : Char}
variable {text later piece : List Char} {texts : List (List Char)}

theorem pieces_step (notCut : closing = none → c ≠ ';') (text : List Char) :
    pieces closing (c :: text) = prepend c (pieces (closingAfter c closing) text) := by
  cases closing with
  | none => exact pieces_cons (notCut rfl) text
  | some mark => rfl

namespace Reads

theorem pieces_append (read : Reads closing text ends) (rest : List Char) :
    pieces closing (text ++ rest) = prependAll text (pieces ends rest) := by
  induction read with
  | nil => rfl
  | cons notCut _ ih => rw [List.cons_append, pieces_step notCut, ih, prependAll_cons]

theorem pieces_eq (read : Reads closing text ends) : pieces closing text = [text] := by
  have whole := read.pieces_append []
  rw [List.append_nil] at whole
  simp [whole, prependAll_of_cons]

theorem exists_of_append (read : Reads closing (text ++ later) ends) :
    ∃ middle, Reads closing text middle ∧ Reads middle later ends := by
  induction text generalizing closing with
  | nil => exact ⟨closing, .nil, read⟩
  | cons c text ih =>
      cases read with
      | cons notCut others =>
          obtain ⟨middle, first, next⟩ := ih others
          exact ⟨middle, .cons notCut first, next⟩

end Reads

/-! ## Blanks -/

/-- No blank closes the region being read. -/
def Solid (closing : Option Char) : Prop := ∀ mark ∈ closing, isBlank mark = false

theorem solid_none : Solid none := by simp [Solid]

theorem solid_closingOf (c : Char) : Solid (closingOf c) := by
  intro mark closes
  unfold closingOf at closes
  split at closes
  · rename_i quotation
    simp only [Bool.or_eq_true, beq_iff_eq] at quotation
    cases closes
    rcases quotation with rfl | rfl <;> decide
  · split at closes <;> cases closes
    decide

theorem Solid.after (solid : Solid closing) (c : Char) : Solid (closingAfter c closing) := by
  cases closing with
  | none => exact solid_closingOf c
  | some mark =>
      rw [closingAfter]
      split
      · exact solid_none
      · exact solid

theorem closingAfter_blank (solid : Solid closing) (blank : isBlank c = true) :
    closingAfter c closing = closing := by
  have other {mark : Char} (notBlank : isBlank mark = false) : c ≠ mark := by
    rintro rfl
    rw [blank] at notBlank
    cases notBlank
  cases closing with
  | none =>
      have single : c ≠ '\'' := other (by decide)
      have double : c ≠ '"' := other (by decide)
      have bracket : c ≠ '[' := other (by decide)
      simp [closingAfter, closingOf, single, double, bracket]
  | some mark => simp [closingAfter, other (solid mark rfl)]

namespace Reads

theorem solid (read : Reads closing text ends) (solid : Solid closing) : Solid ends := by
  induction read with
  | nil => exact solid
  | cons _ _ ih => exact ih (solid.after _)

theorem eq_of_blank (read : Reads closing text ends) (solid : Solid closing)
    (blank : ∀ c ∈ text, isBlank c = true) : ends = closing := by
  induction read with
  | nil => rfl
  | cons _ _ ih =>
      obtain ⟨first, others⟩ := List.forall_mem_cons.mp blank
      rw [ih (solid.after _) others, closingAfter_blank solid first]

/-- Trimming leaves the reading as it is, also behind a region that nothing closes. -/
theorem trim (read : Reads closing text ends) (solid : Solid closing) :
    Reads closing (trimBlanks text) ends := by
  obtain ⟨front, back, text_eq, frontBlank, backBlank⟩ := Text.exists_trimBlanks text
  rw [text_eq] at read
  obtain ⟨start, readFront, others⟩ := read.exists_of_append
  obtain ⟨stop, readTrimmed, readBack⟩ := others.exists_of_append
  obtain rfl := readFront.eq_of_blank solid frontBlank
  obtain rfl := readBack.eq_of_blank (readTrimmed.solid solid) backBlank
  exact readTrimmed

end Reads

/-! ## Pieces -/

/-- The texts, trimmed, without the blank ones. -/
def trimmed (texts : List (List Char)) : List (List Char) :=
  (texts.map trimBlanks).filter (!·.isEmpty)

theorem split_eq_trimmed (sql : String) :
    split sql = (trimmed (pieces none sql.toList)).map String.ofList := rfl

theorem scanned_pieces (closing : Option Char) (text : List Char) :
    Scanned closing (pieces closing text) := by
  induction text generalizing closing with
  | nil =>
      rw [pieces_nil]
      exact .last .nil
  | cons c text ih =>
      by_cases cut : closing = none ∧ c = ';'
      · obtain ⟨rfl, rfl⟩ := cut
        exact .cons .nil (ih none)
      · have notCut : closing = none → c ≠ ';' := fun outside isCut => cut ⟨outside, isCut⟩
        rw [pieces_step notCut]
        have scanned := ih (closingAfter c closing)
        generalize pieces (closingAfter c closing) text = texts at scanned
        cases scanned with
        | nil => exact .last (.cons notCut .nil)
        | last read => exact .last (.cons notCut read)
        | cons read others => exact .cons (.cons notCut read) others

namespace Scanned

theorem reads_of_mem (scanned : Scanned none texts) (isPiece : piece ∈ texts) :
    ∃ ends, Reads none piece ends := by
  induction texts with
  | nil => simp at isPiece
  | cons first texts ih =>
      cases scanned with
      | @last _ ends _ read =>
          obtain rfl := List.mem_singleton.mp isPiece
          exact ⟨ends, read⟩
      | cons read others =>
          rcases List.mem_cons.mp isPiece with rfl | isPiece
          · exact ⟨none, read⟩
          · exact ih others isPiece

/-- Joined again, the texts are cut where they were. -/
theorem pieces_intercalate (scanned : Scanned closing texts) (given : texts ≠ []) :
    pieces closing ([';'].intercalate texts) = texts := by
  induction scanned with
  | nil => exact absurd rfl given
  | last read => simpa using read.pieces_eq
  | @cons closing piece texts read _ ih =>
      cases texts with
      | nil => simpa using read.pieces_eq
      | cons next others =>
          rw [List.intercalate_cons_cons, List.append_assoc, read.pieces_append]
          simp [prependAll_of_cons, ih]

theorem trim (scanned : Scanned closing texts) (solid : Solid closing) :
    Scanned closing (trimmed texts) := by
  induction scanned with
  | nil => exact .nil
  | @last closing ends piece read =>
      by_cases blank : trimBlanks piece = []
      · simpa [trimmed, blank] using .nil
      · simpa [trimmed, blank] using .last (read.trim solid)
  | @cons closing piece texts read _ ih =>
      have readTrimmed := read.trim solid
      by_cases blank : trimBlanks piece = []
      · -- a blank piece leaves no region open, so it began outside of regions
        rw [blank] at readTrimmed
        cases readTrimmed
        simpa [trimmed, blank] using ih solid_none
      · simpa [trimmed, blank] using .cons readTrimmed (ih solid_none)

end Scanned

/-! ## Statements -/

theorem of_mem_trimmed (isStatement : piece ∈ trimmed texts) :
    piece ≠ [] ∧ trimBlanks piece = piece := by
  simp only [trimmed, List.mem_filter, List.mem_map, Bool.not_eq_true',
    List.isEmpty_eq_false_iff] at isStatement
  obtain ⟨⟨given, _, rfl⟩, notEmpty⟩ := isStatement
  exact ⟨notEmpty, Text.trimBlanks_trimBlanks given⟩

theorem trimmed_eq_self (each : ∀ piece ∈ texts, piece ≠ [] ∧ trimBlanks piece = piece) :
    trimmed texts = texts := by
  have unchanged : texts.map trimBlanks = texts :=
    (List.map_congr_left fun piece isPiece => (each piece isPiece).2).trans (List.map_id _)
  rw [trimmed, unchanged, List.filter_eq_self]
  intro piece isPiece
  simpa using (each piece isPiece).1

/-- Nothing but blanks is lost by trimming. -/
theorem filter_flatten_trimmed (texts : List (List Char)) :
    (trimmed texts).flatten.filter (!isBlank ·) = texts.flatten.filter (!isBlank ·) := by
  induction texts with
  | nil => rfl
  | cons piece texts ih =>
      have solid := Text.filter_trimBlanks piece
      by_cases blank : trimBlanks piece = []
      · rw [blank] at solid
        simpa [trimmed, blank, ← solid] using ih
      · simpa [trimmed, blank, solid] using ih

theorem Scanned.split_joined (scanned : Scanned none texts) (clean : trimmed texts = texts) :
    split (";".intercalate (texts.map String.ofList)) = texts.map String.ofList := by
  rw [split_eq_trimmed, String.toList_intercalate, List.map_map]
  cases texts with
  | nil => rfl
  | cons piece others =>
      have characters : String.toList ∘ String.ofList = id := funext fun _ => String.toList_ofList
      rw [characters, List.map_id, show ";".toList = [';'] from rfl,
        scanned.pieces_intercalate (List.cons_ne_nil _ _), clean]

/-! ## The characters of a batch -/

theorem flatten_splitOnP {Item : Type} (isCut : Item → Bool) (items : List Item) :
    (items.splitOnP isCut).flatten = items.filter (!isCut ·) := by
  induction items with
  | nil => simp
  | cons item items ih =>
      rw [List.splitOnP_cons_eq_if_modifyHead]
      cases cut : isCut item with
      | true => simp [cut, ih]
      | false =>
          obtain ⟨first, others, split_eq⟩ :=
            List.exists_cons_of_ne_nil (List.splitOnP_ne_nil isCut items)
          rw [split_eq] at ih
          simp [cut, split_eq, ← ih]

/-- The pieces of a batch are its parts, without the cuts. -/
theorem flatten_pieces (text : List Char) :
    (pieces none text).flatten =
      ((parts .inQuotes text).filter (!·.isCut)).flatMap Part.text := by
  rw [pieces_eq_parts, ← flatten_splitOnP, ← List.flatMap_def, ← List.flatMap_id,
    List.flatMap_assoc]
  rfl

/-- The parts of a batch are all of it. -/
theorem text_parts (text : List Char) :
    (parts .inQuotes text).flatMap Part.text = text := by
  induction text using parts.induct .inQuotes with
  | case1 => simp
  | case2 c rest plain ih => simp [parts_plain plain, ih, Part.text]
  | case3 c rest quote opens content later read ih =>
      rw [parts_region opens read, List.flatMap_cons, ih, ← (uncut_region opens read).1]
  | case4 c rest quote opens unread =>
      have opening : quote.opening = c := by simpa using List.find?_some opens
      simp [parts_unclosed opens unread, Part.text, opening]

/-- Each statement of a batch is trimmed, not blank and split into itself, and the statements
joined by semicolons are split into the same ones.  Together they hold, in order, all
characters of the parts of the batch, except the blanks and the semicolons that cut it. -/
theorem split_stable (sql : String) :
    (∀ statement ∈ split sql,
        (∃ c ∈ statement.toList, isBlank c = false) ∧
          trimBlanks statement.toList = statement.toList ∧ split statement = [statement]) ∧
      split (";".intercalate (split sql)) = split sql ∧
      (parts .inQuotes sql.toList).flatMap Part.text = sql.toList ∧
      ((split sql).flatMap String.toList).filter (!isBlank ·) =
        (((parts .inQuotes sql.toList).filter (!·.isCut)).flatMap Part.text).filter
          (!isBlank ·) := by
  have scanned : Scanned none (trimmed (pieces none sql.toList)) :=
    (scanned_pieces none sql.toList).trim solid_none
  have clean : ∀ piece ∈ trimmed (pieces none sql.toList), piece ≠ [] ∧ trimBlanks piece = piece :=
    fun piece isPiece => of_mem_trimmed isPiece
  refine ⟨?_, scanned.split_joined (trimmed_eq_self clean), text_parts _, ?_⟩
  · intro statement isStatement
    obtain ⟨piece, isPiece, rfl⟩ := List.mem_map.mp isStatement
    obtain ⟨given, trims⟩ := clean piece isPiece
    obtain ⟨ends, read⟩ := scanned.reads_of_mem isPiece
    refine ⟨?_, by simpa using trims, ?_⟩
    · obtain ⟨c, rest, rfl⟩ := List.exists_cons_of_ne_nil given
      exact ⟨c, by simp, (Text.ends_trimBlanks (c :: rest)).1 c (by rw [trims]; rfl)⟩
    · have alone := (Scanned.last read).split_joined (trimmed_eq_self (by simp [given, trims]))
      simpa using alone
  · have texts : (split sql).flatMap String.toList = (trimmed (pieces none sql.toList)).flatten := by
      simp [split_eq_trimmed, List.flatMap_map]
    rw [texts, filter_flatten_trimmed, flatten_pieces]

/-- Blank pieces, a quoted semicolon and a quotation that is not closed. -/
theorem split_again :
    let sql := " ; SELECT 'a;b' ; ;SELECT \"c ; "
    split sql = ["SELECT 'a;b'", "SELECT \"c ;"] ∧
      split "SELECT \"c ;" = ["SELECT \"c ;"] ∧
      split "SELECT 'a;b';SELECT \"c ;" = ["SELECT 'a;b'", "SELECT \"c ;"] ∧
      (((parts .inQuotes sql.toList).filter (!·.isCut)).flatMap Part.text).filter (!isBlank ·) =
        "SELECT'a;b'SELECT\"c;".toList := by
  intro sql
  have statements : split sql = ["SELECT 'a;b'", "SELECT \"c ;"] := by decide
  obtain ⟨alone, joined, _, kept⟩ := split_stable sql
  rw [statements] at alone joined kept
  exact ⟨statements, (alone _ (by simp)).2.2, joined, kept.symm⟩

end EntitySql.Batch
