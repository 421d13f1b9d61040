import EntitySql.Proofs.Batch.Uncut
import EntitySql.Proofs.Dialect.Identifier
import EntitySql.Proofs.Text.Blanks

/-!
# Quoted regions of a batch

A batch reads as characters and quoted regions, and is cut at the semicolons between
them.  A closing character that is written twice belongs to the content of a region in
quotes, which are their own closing characters; a region in brackets ends at its first
closing bracket.
-/

namespace EntitySql.Batch

open Text (Delimiters doubleEach doubleEach_of_not_mem unquoteAfter)

/-! ## Batches as parts -/

/-- The delimiters of quoted regions. -/
def quotes : List Delimiters := [⟨'\'', '\''⟩, ⟨'"', '"'⟩, ⟨'[', ']'⟩]

/-- The delimiters of the region that a character opens. -/
def quoteOf (c : Char) : Option Delimiters := quotes.find? (·.opening == c)

/-- A part of a batch.  A region that nothing closes reaches to the end of the batch. -/
inductive Part where
  | plain (c : Char)
  | region (quote : Delimiters) (content : List Char)
  | unclosed (quote : Delimiters) (content : List Char)
  deriving DecidableEq, Repr

namespace Part

def text : Part → List Char
  | plain c => [c]
  | region quote content => quote.opening :: (doubleEach quote.closing content ++ [quote.closing])
  | unclosed quote content => quote.opening :: content

/-- Statements are separated by semicolons outside of regions. -/
def isCut (part : Part) : Bool := part == plain ';'

/-- A region in brackets with a closing bracket inside. -/
def HoldsBracket : Part → Prop
  | plain _ => False
  | region quote content => quote.closing = ']' ∧ ']' ∈ content
  | unclosed quote content => quote.closing = ']' ∧ ']' ∈ content

instance : DecidablePred HoldsBracket
  | plain _ => inferInstanceAs (Decidable False)
  | region _ _ => inferInstanceAs (Decidable (_ ∧ _))
  | unclosed _ _ => inferInstanceAs (Decidable (_ ∧ _))

end Part

/-- Reads a content up to the first closing character. -/
def untilFirst (closing : Char) : List Char → Option (List Char × List Char)
  | [] => none
  | c :: rest =>
    if c = closing then some ([], rest)
    else (untilFirst closing rest).map fun read => (c :: read.1, read.2)

/-- Where a closing character that is written twice belongs to the content. -/
abbrev Escapes := Delimiters → Bool

/-- In all regions. -/
def Escapes.everywhere : Escapes := fun _ => true

/-- In regions whose opening and closing characters are the same. -/
def Escapes.inQuotes : Escapes := fun quote => quote.opening == quote.closing

/-- Reads the content of a region, and says what is left over. -/
def readRegion (escapes : Escapes) (quote : Delimiters) (text : List Char) :
    Option (List Char × List Char) :=
  if escapes quote then unquoteAfter quote.closing text else untilFirst quote.closing text

variable {escapes : Escapes} {quote : Delimiters} {closing c : Char}
variable {text content rest : List Char}

theorem eq_of_untilFirst (read : untilFirst closing text = some (content, rest)) :
    text = content ++ closing :: rest ∧ closing ∉ content := by
  induction text generalizing content with
  | nil => cases read
  | cons c text ih =>
      rw [untilFirst] at read
      split at read
      · rename_i closes
        cases read
        simp [closes]
      · rename_i other
        obtain ⟨⟨inner, left⟩, readInner, equal⟩ := Option.map_eq_some_iff.mp read
        cases equal
        obtain ⟨rfl, outside⟩ := ih readInner
        exact ⟨rfl, by simp [outside, Ne.symm other]⟩

theorem untilFirst_append (outside : closing ∉ content) :
    untilFirst closing (content ++ closing :: rest) = some (content, rest) := by
  induction content with
  | nil => simp [untilFirst]
  | cons c content ih =>
      simp only [List.mem_cons, not_or] at outside
      simp [untilFirst, Ne.symm outside.1, ih outside.2]

theorem untilFirst_eq_none : untilFirst closing text = none ↔ closing ∉ text := by
  induction text with
  | nil => simp [untilFirst]
  | cons c text ih =>
      by_cases closes : c = closing
      · simp [untilFirst, closes]
      · simp [untilFirst, closes, ih, Ne.symm closes]

theorem length_of_readRegion (read : readRegion escapes quote text = some (content, rest)) :
    rest.length < text.length := by
  unfold readRegion at read
  split at read
  · exact Text.length_of_unquoteAfter read
  · obtain ⟨rfl, _⟩ := eq_of_untilFirst read
    simp
    omega

/-- The parts of a batch. -/
def parts (escapes : Escapes) (text : List Char) : List Part :=
  match text with
  | [] => []
  | c :: rest =>
    match quoteOf c with
    | none => .plain c :: parts escapes rest
    | some quote =>
      match _read : readRegion escapes quote rest with
      | some (content, later) => .region quote content :: parts escapes later
      | none => [.unclosed quote rest]
termination_by text.length
decreasing_by
  · simp
  · exact Nat.lt_succ_of_lt (length_of_readRegion ‹_›)

/-- The texts between the cuts, trimmed, without the blank ones. -/
def statements (escapes : Escapes) (sql : String) : List String :=
  let pieces := (parts escapes sql.toList).splitOnP Part.isCut
  ((pieces.map fun piece => Text.trimBlanks (piece.flatMap Part.text)).filter
    (!·.isEmpty)).map String.ofList

@[simp]
theorem parts_nil : parts escapes [] = [] := by rw [parts]

theorem parts_plain (plain : quoteOf c = none) :
    parts escapes (c :: rest) = .plain c :: parts escapes rest := by
  rw [parts]
  simp only [plain]

theorem parts_region {later : List Char} (opens : quoteOf c = some quote)
    (read : readRegion escapes quote rest = some (content, later)) :
    parts escapes (c :: rest) = .region quote content :: parts escapes later := by
  rw [parts]
  simp only [opens]
  split
  · rename_i reads
    rw [read] at reads
    cases reads
    rfl
  · rename_i unread
    rw [read] at unread
    cases unread

theorem parts_unclosed (opens : quoteOf c = some quote)
    (unread : readRegion escapes quote rest = none) :
    parts escapes (c :: rest) = [.unclosed quote rest] := by
  rw [parts]
  simp only [opens]
  split
  · rename_i reads
    rw [unread] at reads
    cases reads
  · rfl

/-! ## The splitting of a batch as its reading -/

/-- A region is quoted by marks, or stands in brackets. -/
theorem quote_cases (opens : quoteOf c = some quote) :
    closingOf c = some c ∧ quote = ⟨c, c⟩ ∨ c = '[' ∧ quote = ⟨'[', ']'⟩ := by
  have opening : quote.opening = c := by simpa using List.find?_some opens
  have isQuote : quote ∈ quotes := List.mem_of_find?_eq_some opens
  simp only [quotes, List.mem_cons, List.not_mem_nil, or_false] at isQuote
  rcases isQuote with rfl | rfl | rfl <;> subst opening <;> simp [closingOf]

theorem closingOf_of_quoteOf (plain : quoteOf c = none) : closingOf c = none := by
  simp [quoteOf, quotes] at plain
  obtain ⟨notSingle, notDouble, notBracket⟩ := plain
  simp [closingOf, Ne.symm notSingle, Ne.symm notDouble, Ne.symm notBracket]

/-- A region that is read comes through in one piece. -/
theorem uncut_region {later : List Char} (opens : quoteOf c = some quote)
    (read : readRegion .inQuotes quote rest = some (content, later)) :
    c :: rest = (Part.region quote content).text ++ later ∧
      Uncut (Part.region quote content).text := by
  rcases quote_cases opens with ⟨closes, rfl⟩ | ⟨rfl, rfl⟩
  · have unquoted : unquoteAfter c rest = some (content, later) := by
      simpa [readRegion, Escapes.inQuotes] using read
    obtain ⟨rfl, _⟩ := Text.eq_of_unquoteAfter unquoted
    exact ⟨by simp [Part.text], uncut_quotation closes content⟩
  · have first : untilFirst ']' rest = some (content, later) := by
      simpa [readRegion, Escapes.inQuotes] using read
    obtain ⟨rfl, outside⟩ := eq_of_untilFirst first
    simp only [Part.text, doubleEach_of_not_mem outside]
    exact ⟨by simp, uncut_brackets outside⟩

/-- A region that is not closed takes the rest of the batch. -/
theorem pieces_unclosed (opens : quoteOf c = some quote)
    (unread : readRegion .inQuotes quote rest = none) : pieces none (c :: rest) = [c :: rest] := by
  rcases quote_cases opens with ⟨closes, rfl⟩ | ⟨rfl, rfl⟩
  · have unended : unquoteAfter c rest = none := by
      simpa [readRegion, Escapes.inQuotes] using unread
    rw [pieces_cons (mark_ne_cut closes), closes, pieces_unended closes unended]
    rfl
  · have outside : ']' ∉ rest := by
      simpa [readRegion, Escapes.inQuotes, untilFirst_eq_none] using unread
    rw [pieces_cons (by decide), closingOf_bracket, pieces_of_not_mem outside]
    rfl

/-- The texts of pieces, behind a part that is no cut. -/
theorem pieces_of_part {part : Part} (notCut : part.isCut = false) (others : List Part) :
    ((part :: others).splitOnP Part.isCut).map (·.flatMap Part.text) =
      prependAll part.text ((others.splitOnP Part.isCut).map (·.flatMap Part.text)) := by
  obtain ⟨piece, later, pieces_eq⟩ :=
    List.exists_cons_of_ne_nil (List.splitOnP_ne_nil Part.isCut others)
  simp [List.splitOnP_cons_eq_if_modifyHead, notCut, pieces_eq, prependAll_of_cons]

theorem pieces_eq_parts (text : List Char) :
    pieces none text =
      ((parts .inQuotes text).splitOnP Part.isCut).map (·.flatMap Part.text) := by
  induction text using parts.induct .inQuotes with
  | case1 => simp
  | case2 c rest plain ih =>
      rw [parts_plain plain]
      by_cases isCut : c = ';'
      · subst isCut
        simp [ih, List.splitOnP_cons_eq_if_modifyHead, Part.isCut]
      · have notCut : (Part.plain c).isCut = false := by simp [Part.isCut, isCut]
        simp [pieces_of_part notCut, pieces_cons isCut, closingOf_of_quoteOf plain, ih, Part.text]
  | case3 c rest quote opens content later read ih =>
      obtain ⟨text_eq, uncut⟩ := uncut_region opens read
      have notCut : (Part.region quote content).isCut = false := rfl
      rw [parts_region opens read, pieces_of_part notCut, text_eq, uncut, ih]
  | case4 c rest quote opens unread =>
      have opening : quote.opening = c := by simpa using List.find?_some opens
      rw [parts_unclosed opens unread, pieces_unclosed opens unread]
      simp [List.splitOnP_cons_eq_if_modifyHead, Part.isCut, Part.text, opening]

theorem split_eq_statements (sql : String) : split sql = statements .inQuotes sql := by
  simp [split, statements, pieces_eq_parts, Function.comp_def]

/-- Without a closing bracket inside of brackets, every doubled character is read alike. -/
theorem parts_everywhere {text : List Char}
    (noBracket : ∀ part ∈ parts .everywhere text, ¬part.HoldsBracket) :
    parts .everywhere text = parts .inQuotes text := by
  induction text using parts.induct .everywhere with
  | case1 => simp
  | case2 c rest plain ih =>
      rw [parts_plain plain] at noBracket ⊢
      rw [parts_plain plain, ih fun part isPart => noBracket part (by simp [isPart])]
  | case3 c rest quote opens content later read ih =>
      rw [parts_region opens read, List.forall_mem_cons] at noBracket
      have sameRead : readRegion .inQuotes quote rest = some (content, later) := by
        rcases quote_cases opens with ⟨_, rfl⟩ | ⟨rfl, rfl⟩
        · simpa [readRegion, Escapes.everywhere, Escapes.inQuotes] using read
        · have outside : ']' ∉ content := by simpa [Part.HoldsBracket] using noBracket.1
          obtain ⟨rfl, _⟩ := Text.eq_of_unquoteAfter read
          rw [doubleEach_of_not_mem outside]
          exact untilFirst_append outside
      rw [parts_region opens read, parts_region opens sameRead, ih noBracket.2]
  | case4 c rest quote opens unread =>
      rw [parts_unclosed opens unread, List.forall_mem_singleton] at noBracket
      have sameUnread : readRegion .inQuotes quote rest = none := by
        rcases quote_cases opens with ⟨_, rfl⟩ | ⟨rfl, rfl⟩
        · simpa [readRegion, Escapes.everywhere, Escapes.inQuotes] using unread
        · have outside : ']' ∉ rest := by simpa [Part.HoldsBracket] using noBracket
          exact untilFirst_eq_none.mpr outside
      rw [parts_unclosed opens unread, parts_unclosed opens sameUnread]

/-! ## Quoted identifiers -/

/-- A text that does not start or end with a blank is one statement exactly if it is one
piece. -/
theorem split_eq_singleton {sql : String} (given : sql ≠ "")
    (starts : ∀ c ∈ sql.toList.head?, Text.isBlank c = false ∧ c ≠ ';')
    (ends : ∀ c ∈ sql.toList.getLast?, Text.isBlank c = false) :
    split sql = [sql] ↔ pieces none sql.toList = [sql.toList] := by
  have trimmed : Text.trimBlanks sql.toList = sql.toList :=
    Text.trimBlanks_of_ends (fun c first => (starts c first).1) ends
  constructor
  · intro whole
    obtain ⟨joined, somePiece⟩ := intercalate_pieces none sql.toList
    obtain ⟨piece, others, pieces_eq⟩ := List.exists_cons_of_ne_nil somePiece
    cases others with
    | nil => simpa [pieces_eq] using joined
    | cons next others =>
        rw [pieces_eq, List.intercalate_cons_cons] at joined
        -- the first of several pieces is shorter than the text and not blank
        have shorter : (Text.trimBlanks piece).length < sql.toList.length := by
          have bound := Text.length_trimBlanks_le piece
          rw [← joined]
          simp
          omega
        have notBlank : Text.trimBlanks piece ≠ [] := by
          cases piece with
          | nil => exact absurd rfl (starts ';' (by rw [← joined]; simp)).2
          | cons c piece =>
              have solid : Text.isBlank c = false := (starts c (by rw [← joined]; simp)).1
              intro empty
              rw [Text.trimBlanks, List.dropWhile_cons_of_neg (by simp [solid]),
                List.reverse_eq_nil_iff, List.dropWhile_eq_nil_iff] at empty
              have blank := empty c (by simp)
              rw [solid] at blank
              cases blank
        have first : (split sql).head? = some (String.ofList (Text.trimBlanks piece)) := by
          simp [split, pieces_eq, notBlank]
        rw [whole, List.head?_cons, Option.some.injEq] at first
        rw [first, String.toList_ofList] at shorter
        exact absurd shorter (Nat.lt_irrefl _)
  · intro onePiece
    have notEmpty : sql.toList ≠ [] := by simpa using given
    simp [split, onePiece, trimmed, given]

theorem pieces_eq_singleton (text : List Char) :
    pieces none text = [text] ↔ .plain ';' ∉ parts .inQuotes text := by
  constructor
  · intro onePiece isCut
    obtain ⟨before, after, parts_eq⟩ := List.append_of_mem isCut
    have count := congrArg List.length ((pieces_eq_parts text).symm.trans onePiece)
    rw [parts_eq, List.splitOnP_append_cons _ _ rfl] at count
    have first := List.length_pos_of_ne_nil (List.splitOnP_ne_nil Part.isCut before)
    have last := List.length_pos_of_ne_nil (List.splitOnP_ne_nil Part.isCut after)
    simp at count
    omega
  · intro notCut
    have noCuts : ∀ part ∈ parts .inQuotes text, part.isCut = false := by
      intro part isPart
      rw [Part.isCut, beq_eq_false_iff_ne]
      rintro rfl
      exact notCut isPart
    obtain ⟨joined, _⟩ := intercalate_pieces none text
    rw [pieces_eq_parts, List.splitOnP_eq_singleton noCuts] at joined ⊢
    simpa using joined

variable {dialect : Dialect} {name : String}

theorem uncut_identifier (given : name ≠ "") (notDelimited : dialect.isDelimited name = false)
    (noBracket : dialect.delimiters.closing = ']' → ']' ∉ name.toList) :
    Uncut (dialect.identifier name).toList := by
  rw [Dialect.identifier_of_not_delimited given notDelimited, Delimiters.toList_enclose]
  obtain ⟨backend, style⟩ := dialect
  cases backend with
  | sqlServer =>
      have outside : ']' ∉ name.toList := noBracket rfl
      rw [show Dialect.fold ⟨.sqlServer, style⟩ name = name from rfl]
      rw [show Dialect.delimiters ⟨.sqlServer, style⟩ = ⟨'[', ']'⟩ from rfl]
      rw [doubleEach_of_not_mem outside]
      exact uncut_brackets outside
  | _ => exact uncut_quotation rfl _

/-- A batch is split at the semicolons outside of its regions, where doubled marks belong
to the content of quotation marks and brackets end at the first closing bracket.  So
doubled characters are read alike in all regions unless a closing bracket stands inside of
brackets.  A quoted identifier is one statement exactly if no semicolon of it is read
outside of regions, which is so if brackets do not hold a closing bracket. -/
theorem split_reads_regions (sql : String) (dialect : Dialect) (name : String) (given : name ≠ "")
    (notDelimited : dialect.isDelimited name = false) :
    split sql = statements .inQuotes sql ∧
      ((∀ part ∈ parts .everywhere sql.toList, ¬part.HoldsBracket) →
        split sql = statements .everywhere sql) ∧
      (split (dialect.identifier name) = [dialect.identifier name] ↔
        .plain ';' ∉ parts .inQuotes (dialect.identifier name).toList) ∧
      ((dialect.delimiters.closing = ']' → ']' ∉ name.toList) →
        split (dialect.identifier name) = [dialect.identifier name]) := by
  have quotation := Dialect.identifier_of_not_delimited given notDelimited
  have onePiece : split (dialect.identifier name) = [dialect.identifier name] ↔
      pieces none (dialect.identifier name).toList = [(dialect.identifier name).toList] := by
    apply split_eq_singleton
    · simp [quotation, Delimiters.enclose]
    · obtain ⟨backend, style⟩ := dialect
      cases backend <;> simp [quotation, Dialect.delimiters] <;> decide
    · obtain ⟨backend, style⟩ := dialect
      cases backend <;> simp [quotation, Dialect.delimiters, List.getLast?_cons] <;> decide
  refine ⟨split_eq_statements sql, fun noBracket => ?_, ?_, fun noBracket => ?_⟩
  · rw [split_eq_statements, statements, statements, parts_everywhere noBracket]
  · rw [onePiece, pieces_eq_singleton]
  · exact onePiece.mpr (uncut_identifier given notDelimited noBracket).pieces_eq

/-- Semicolons in brackets, in both kinds of quotation marks and behind a doubled mark. -/
theorem split_reads_quoted_batch :
    let dialect : Dialect := ⟨.postgres .keep, .percent⟩
    let sql := "DELETE FROM [a;b] WHERE \"c;d\" = 'it''s;'; SELECT 'x;y' "
    "a;\"b" ≠ "" ∧ dialect.isDelimited "a;\"b" = false ∧
      (∀ part ∈ parts .everywhere sql.toList, ¬part.HoldsBracket) ∧
      split sql = ["DELETE FROM [a;b] WHERE \"c;d\" = 'it''s;'", "SELECT 'x;y'"] ∧
      split sql = statements .everywhere sql ∧
      dialect.identifier "a;\"b" = "\"a;\"\"b\"" ∧ split "\"a;\"\"b\"" = ["\"a;\"\"b\""] := by
  intro dialect sql
  have notDelimited : dialect.isDelimited "a;\"b" = false := by decide +kernel
  have quotation : dialect.identifier "a;\"b" = "\"a;\"\"b\"" := by decide +kernel
  have noBracket : ∀ part ∈ parts .everywhere sql.toList, ¬part.HoldsBracket := by decide +kernel
  have pieces : statements .everywhere sql =
      ["DELETE FROM [a;b] WHERE \"c;d\" = 'it''s;'", "SELECT 'x;y'"] := by decide +kernel
  obtain ⟨_, readsAlike, _, identifier⟩ :=
    split_reads_regions sql dialect "a;\"b" (by decide) notDelimited
  have sameRead := readsAlike noBracket
  rw [quotation] at identifier
  exact ⟨by decide, notDelimited, noBracket, sameRead.trans pieces, sameRead, quotation,
    identifier (by decide)⟩

/-- A bracketed name is cut at a semicolon behind its closing bracket. -/
theorem split_cuts_bracketed_name :
    let dialect : Dialect := ⟨.sqlServer, .atSign⟩
    "a];b" ≠ "" ∧ dialect.isDelimited "a];b" = false ∧
      dialect.identifier "a];b" = "[a]];b]" ∧
      split "[a]];b]" = ["[a]]", "b]"] ∧
      statements .everywhere "[a]];b]" = ["[a]];b]"] := by
  decide +kernel

end EntitySql.Batch
