import EntitySql.Proofs.Sql.Composition
import EntitySql.Proofs.Sql.Path

/-!
# Tables and qualifiers of a SELECT

Where names are plain, the text of a SELECT over joined tables refers to the tables and
columns that it mentions, in the same order, and to nothing else.
-/

namespace EntitySql

namespace Dialect

open Sql (pathText)

variable {dialect : Dialect} {name owner : String} {qualifier : Option String}

/-- The stored names of the segments of a name. -/
def path (dialect : Dialect) (name : String) : List String := (segments name).map dialect.fold

/-- No segment of the name is empty or quoted already. -/
def PlainTable (dialect : Dialect) (name : String) : Prop :=
  ∀ segment ∈ segments name, segment ≠ "" ∧ dialect.isDelimited segment = false

/-- The name is a single segment, and neither empty nor quoted already. -/
def PlainColumn (dialect : Dialect) (name : String) : Prop :=
  name ≠ "" ∧ '.' ∉ name.toList ∧ dialect.isDelimited name = false

instance (dialect : Dialect) (name : String) : Decidable (dialect.PlainTable name) :=
  inferInstanceAs (Decidable (∀ segment ∈ segments name, _))

instance (dialect : Dialect) (name : String) : Decidable (dialect.PlainColumn name) :=
  inferInstanceAs (Decidable (_ ∧ _ ∧ _))

theorem path_ne_nil (dialect : Dialect) (name : String) : dialect.path name ≠ [] := by
  simp [path, segments, List.splitOn, List.splitOnP_ne_nil]

theorem PlainTable.ne_empty (plain : dialect.PlainTable name) : name ≠ "" := by
  rintro rfl
  exact (plain "" (by decide)).1 rfl

theorem tableText_eq (plain : dialect.PlainTable name) :
    dialect.tableText name = pathText dialect (dialect.path name) := by
  rw [tableText, pathText, path, List.map_map]
  congr 1
  refine List.map_congr_left fun segment member => ?_
  obtain ⟨given, notDelimited⟩ := plain segment member
  exact identifier_of_not_delimited given notDelimited

theorem qualifiedText_eq (ownerPlain : dialect.PlainTable owner)
    (plain : dialect.PlainColumn name) :
    dialect.tableText (owner ++ "." ++ name) =
      pathText dialect (dialect.path owner ++ [dialect.fold name]) := by
  have whole : segments (owner ++ "." ++ name) = segments owner ++ [name] := by
    rw [segments_append, segments_of_undotted plain.2.1]
  have all : dialect.PlainTable (owner ++ "." ++ name) := by
    rw [PlainTable, whole, List.forall_mem_append, List.forall_mem_singleton]
    exact ⟨ownerPlain, plain.1, plain.2.2⟩
  rw [tableText_eq all, path, whole, path, List.map_append]
  rfl

theorem columnText_eq (ownerPlain : ∀ owner ∈ qualifier, dialect.PlainTable owner)
    (plain : dialect.PlainColumn name) :
    dialect.columnText qualifier name =
      pathText dialect (qualifier.elim [] dialect.path ++ [dialect.fold name]) := by
  cases qualifier with
  | none => simp [columnText, pathText, identifier_of_not_delimited plain.1 plain.2.2]
  | some owner =>
      have given : owner.isEmpty = false :=
        String.isEmpty_eq_false_iff.mpr (ownerPlain owner rfl).ne_empty
      simp only [columnText, given]
      exact qualifiedText_eq (ownerPlain owner rfl) plain

/-- What stands behind a dot is rendered apart from what stands before it. -/
theorem tableText_append (dialect : Dialect) (owner name : String) :
    dialect.tableText (owner ++ "." ++ name) =
      dialect.tableText owner ++ "." ++ dialect.tableText name := by
  have given (name : String) : (segments name).map dialect.identifier ≠ [] := by
    simp [segments, List.splitOn, List.splitOnP_ne_nil]
  rw [tableText, segments_append, List.map_append,
    String.intercalate_append_of_ne_nil (given owner) (given name)]
  rfl

end Dialect

namespace Sql

variable {dialect : Dialect} {place reached : Place} {text later : List Char}
variable {found more : List Reference}

namespace Mention

variable {mention : Mention} {owner : String}

/-- The table that is listed. -/
def table? : Mention → Option String
  | table name => some name
  | _ => none

/-- The table that a column stands behind. -/
def owner? : Mention → Option String
  | column owner _ => owner.filter (· ≠ "")
  | entry owner _ => owner.filter (· ≠ "")
  | joined owner _ => some owner
  | _ => none

/-- What is mentioned behind a table starts with the rendering of that table. -/
theorem text_of_owner? (dialect : Dialect) (owned : mention.owner? = some owner) :
    ∃ rest, mention.text dialect = dialect.tableText owner ++ "." ++ rest := by
  have behind {qualifier : Option String} (name : String)
      (isOwner : qualifier.filter (· ≠ "") = some owner) :
      dialect.columnText qualifier name =
        dialect.tableText owner ++ "." ++ dialect.tableText name := by
    obtain ⟨isOwner, given⟩ := Option.filter_eq_some_iff.mp isOwner
    subst isOwner
    have nonempty : owner.isEmpty = false := by simpa using given
    simp only [Dialect.columnText, nonempty]
    exact dialect.tableText_append owner name
  cases mention with
  | column qualifier name => exact ⟨_, behind name owned⟩
  | joined qualifier name =>
      cases owned
      exact ⟨_, dialect.tableText_append owner name⟩
  | entry qualifier name =>
      rcases dialect.selectEntry_eq qualifier name with bare | aliased
      · exact ⟨_, bare.trans (behind name owned)⟩
      · refine ⟨dialect.tableText name ++ " AS " ++ dialect.delimiters.enclose name, ?_⟩
        rw [text, aliased, behind name owned]
        simp [String.append_assoc]
  | _ => cases owned

/-- What a plain mention refers to. -/
def references (dialect : Dialect) : Mention → List Reference
  | table name => [.table (dialect.path name)]
  | column owner name => [.column (owner.elim [] dialect.path ++ [dialect.fold name])]
  | entry owner name =>
    .column (owner.elim [] dialect.path ++ [dialect.fold name]) ::
      if dialect.fold name = name then [] else [.column [name]]
  | joined owner name => [.column (dialect.path owner ++ [dialect.fold name])]
  | _ => []

/-- Names are plain, and numbers among the arguments of functions are written as numbers. -/
def Plain (dialect : Dialect) : Mention → Prop
  | table name => dialect.PlainTable name
  | column owner name => (∀ table ∈ owner, dialect.PlainTable table) ∧ dialect.PlainColumn name
  | entry owner name => (∀ table ∈ owner, dialect.PlainTable table) ∧ dialect.PlainColumn name
  | joined owner name => dialect.PlainTable owner ∧ dialect.PlainColumn name
  | parameter _ => True
  | call function => ∀ argument ∈ function.arguments, argument.isLegible = true
  | _ => False

instance (dialect : Dialect) (mention : Mention) : Decidable (mention.Plain dialect) := by
  cases mention <;> unfold Plain <;> infer_instance

theorem tables_of_references (dialect : Dialect) (mention : Mention) :
    (mention.references dialect).filterMap (·.table?) = mention.table?.toList.map dialect.path := by
  cases mention with
  | entry owner name =>
      simp only [references]
      split <;> rfl
  | _ => rfl

theorem qualifiers_of_references (plain : mention.Plain dialect) :
    (mention.references dialect).filterMap (·.qualifier?) =
      mention.owner?.toList.map dialect.path := by
  have behind {owner : Option String} (ownerPlain : ∀ table ∈ owner, dialect.PlainTable table)
      (name : String) :
      [Reference.column (owner.elim [] dialect.path ++ [name])].filterMap (·.qualifier?) =
        (owner.filter (· ≠ "")).toList.map dialect.path := by
    cases owner with
    | none => simp [Reference.qualifier?]
    | some owner =>
        have kept : (some owner).filter (· ≠ "") = some owner := by
          simp [Option.filter, (ownerPlain owner rfl).ne_empty]
        rw [kept]
        simp [Reference.qualifier?, dialect.path_ne_nil]
  cases mention with
  | column owner name => exact behind plain.1 _
  | entry owner name =>
      have alone : [Reference.column [name]].filterMap (·.qualifier?) = [] := rfl
      simp only [references]
      rw [← List.singleton_append, List.filterMap_append, behind plain.1]
      split <;> simp [owner?, alone]
  | joined owner name => simp [references, Reference.qualifier?, owner?, dialect.path_ne_nil]
  | _ => rfl

end Mention

/-- A text that refers to what is mentioned has its tables and its qualifiers. -/
theorem tables_and_qualifiers {mentions : List Mention} {sql : String}
    (plain : ∀ mention ∈ mentions, mention.Plain dialect)
    (reads : referencesIn dialect (.columns []) sql.toList =
      mentions.flatMap (Mention.references dialect)) :
    tablesIn dialect sql = (mentions.filterMap (·.table?)).map dialect.path ∧
      qualifiersIn dialect sql = (mentions.filterMap (·.owner?)).map dialect.path := by
  have each {view : Reference → Option (List String)} {name : Mention → Option String}
      (same : ∀ mention ∈ mentions, (mention.references dialect).filterMap view =
        (name mention).toList.map dialect.path) :
      (mentions.flatMap (Mention.references dialect)).filterMap view =
        (mentions.filterMap name).map dialect.path := by
    rw [List.filterMap_flatMap, List.filterMap_eq_flatMap_toList, List.map_flatMap]
    exact List.flatMap_congr same
  rw [tablesIn, qualifiersIn, reads]
  exact ⟨each fun mention _ => Mention.tables_of_references dialect mention,
    each fun mention member => Mention.qualifiers_of_references (plain mention member)⟩

/-- Between two places the reader finds these references in the text. -/
def Reads (dialect : Dialect) (place reached : Place) (text : List Char)
    (found : List Reference) : Prop :=
  ∀ rest, Parts rest →
    referencesIn dialect place (text ++ rest) = found ++ referencesIn dialect reached rest

theorem Parts.append {rest : List Char} (parts : Parts later) (restParts : Parts rest) :
    Parts (later ++ rest) := by
  cases later with
  | nil => exact restParts
  | cons c later => simpa [Parts] using parts

namespace Reads

variable {middle : Place} {leading : String} {α : Type} {items : List α}

theorem nil (dialect : Dialect) (place : Place) : Reads dialect place place [] [] :=
  fun _ _ => rfl

theorem append (first : Reads dialect place middle text found)
    (next : Reads dialect middle reached later more) (parts : Parts later) :
    Reads dialect place reached (text ++ later) (found ++ more) := by
  intro rest restParts
  rw [List.append_assoc, first _ (parts.append restParts), next rest restParts, List.append_assoc]

/-- Plain words lead from one place to another. -/
theorem words (leading : String) (plain : leading.toList.all isPlain = true)
    (leads : leading.toList.foldl Place.next place = middle)
    (next : Reads dialect middle reached later more) :
    Reads dialect place reached (leading.toList ++ later) more := by
  intro rest parts
  rw [List.append_assoc, referencesIn_words plain, leads, next rest parts]

theorem path (dialect : Dialect) (place : Place) {path : List String} (given : path ≠ []) :
    Reads dialect place place.afterQuoted (pathText dialect path).toList [place.refer path] :=
  fun _ parts => referencesIn_path given parts

theorem column {owner : Option String} {name : String}
    (among : place = .columns [] ∨ place = .behind)
    (plain : (Mention.column owner name).Plain dialect) :
    Reads dialect place place (dialect.columnText owner name).toList
      ((Mention.column owner name).references dialect) := by
  have read := path dialect place
    (by simp : owner.elim [] dialect.path ++ [dialect.fold name] ≠ [])
  rw [← Dialect.columnText_eq plain.1 plain.2] at read
  rcases among with rfl | rfl <;> exact read

theorem joined {owner name : String} (plain : (Mention.joined owner name).Plain dialect) :
    Reads dialect (.columns []) (.columns []) (dialect.tableText (owner ++ "." ++ name)).toList
      ((Mention.joined owner name).references dialect) := by
  rw [Dialect.qualifiedText_eq plain.1 plain.2]
  exact path dialect (.columns []) (by simp)

theorem entry {owner : Option String} {name : String}
    (plain : (Mention.entry owner name).Plain dialect) :
    Reads dialect (.columns []) (.columns []) (dialect.selectEntry owner name).toList
      ((Mention.entry owner name).references dialect) := by
  have bare := column (.inl rfl) (show (Mention.column owner name).Plain dialect from plain)
  obtain ⟨_, given, _, notDelimited⟩ := plain
  unfold Dialect.selectEntry
  simp only [String.isEmpty_eq_false_iff.mpr given, notDelimited, Bool.false_or, beq_iff_eq,
    Mention.references]
  split
  · exact bare
  · rename_i folded
    have alias_eq : "\"" ++ Text.doubled '"' name ++ "\"" = pathText dialect [name] := by
      obtain ⟨backend, style⟩ := dialect
      cases backend with
      | postgres folding =>
          apply String.toList_inj.mp
          simp [pathText, Text.doubled, Dialect.delimiters]
      | _ => simp [Dialect.fold, Dialect.folding, Folding.apply] at folded
    have text_eq :
        (dialect.columnText owner name ++ " AS \"" ++ Text.doubled '"' name ++ "\"").toList =
          (dialect.columnText owner name).toList ++
            (" AS ".toList ++ (pathText dialect [name]).toList) := by
      rw [← alias_eq]
      simp
    have step : " AS ".toList.foldl Place.next (.columns []) = .columns [] := by decide
    have aliased := words " AS " (by decide) step
      (path dialect (.columns []) (by simp : [name] ≠ []))
    rw [text_eq]
    exact bare.append aliased (by simp [Parts])

theorem parameter {name : String} (readable : (Operand.parameter name).Readable) :
    Reads dialect .behind .behind (dialect.placeholder name).toList [] := by
  intro rest _
  have marks (c : Char) (inside : c ∈ (dialect.placeholder name).toList) :
      quoteEnd? dialect c = none := by
    let inClass (c : Char) : Bool := Text.isWord c || ['@', '%', '(', ')', ':'].contains c
    have tailIn : (tailOf dialect.style).all inClass = true := by cases dialect.style <;> decide
    have leadIn : (leadOf dialect.style).all inClass = true := by cases dialect.style <;> decide
    rw [placeholder_toList, List.mem_append, List.mem_append] at inside
    refine quoteEnd?_of_class (by decide : ['\'', '"', '['].all (fun c => !inClass c) = true) ?_
    rcases inside with isLead | isName | isTail
    · exact List.all_eq_true.mp leadIn c isLead
    · simp [inClass, readable.2 c isName]
    · exact List.all_eq_true.mp tailIn c isTail
  rw [referencesIn_unquoted marks, foldl_next_behind]
  rfl

theorem intercalate {write : α → String} {refer : α → List Reference}
    (each : ∀ item ∈ items,
      Reads dialect (.columns []) (.columns []) (write item).toList (refer item)) :
    Reads dialect (.columns []) (.columns []) (", ".intercalate (items.map write)).toList
      (items.flatMap refer) := by
  induction items with
  | nil => exact nil dialect _
  | cons item items ih =>
      obtain ⟨first, others⟩ := List.forall_mem_cons.mp each
      cases items with
      | nil => simpa using first
      | cons next items =>
          have step : ", ".toList.foldl Place.next (.columns []) = .columns [] := by decide
          have behind := words ", " (by decide) step (ih others)
          have text_eq : (", ".intercalate ((item :: next :: items).map write)).toList =
              (write item).toList ++
                (", ".toList ++ (", ".intercalate ((next :: items).map write)).toList) := by
            simp [String.intercalate_cons_cons]
          rw [text_eq, List.flatMap_cons]
          exact first.append behind (by simp [Parts])

end Reads

/-- What follows the tables refers to what it mentions. -/
theorem Composed.reads {text : String} {mentions : List Mention}
    (composed : Composed dialect text mentions)
    (each : ∀ mention ∈ mentions,
      Reads dialect .behind .behind (mention.text dialect).toList (mention.references dialect)) :
    Reads dialect .behind .behind text.toList (mentions.flatMap (Mention.references dialect)) := by
  induction composed with
  | nil => exact Reads.nil dialect .behind
  | words words plain _ ih =>
      rw [String.toList_append]
      exact .words words plain (foldl_next_behind _) (ih each)
  | mention mention separated _ ih =>
      obtain ⟨first, others⟩ := List.forall_mem_cons.mp each
      rw [String.toList_append, List.flatMap_cons]
      exact first.append (ih others) separated

/-! ## Clauses -/

/-- Clauses with a blank before each. -/
def clauses (parts : List String) : List Char := parts.flatMap fun part => ' ' :: part.toList

theorem toList_intercalate_blank (first : String) (parts : List String) :
    (" ".intercalate (first :: parts)).toList = first.toList ++ clauses parts := by
  induction parts generalizing first with
  | nil => simp [clauses]
  | cons part parts ih =>
      rw [String.intercalate_cons_cons, String.toList_append, String.toList_append, ih]
      simp [clauses]

theorem parts_clauses (parts : List String) : Parts (clauses parts) := by
  cases parts with
  | nil => simp [clauses, Parts]
  | cons part parts => simp [clauses, Parts]

theorem WovenEach.reads {style : PlaceholderStyle} {texts others : List String}
    {mentions : List Mention} (woven : WovenEach dialect style texts others mentions)
    (each : ∀ mention ∈ mentions,
      Reads dialect .behind .behind (mention.text dialect).toList (mention.references dialect)) :
    Reads dialect .behind .behind (clauses texts)
      (mentions.flatMap (Mention.references dialect)) := by
  induction woven with
  | nil => exact Reads.nil dialect .behind
  | @cons text _ texts _ _ _ first _ ih =>
      obtain ⟨firstEach, restEach⟩ := List.forall_mem_append.mp each
      have opened := Reads.words " " (by decide) (foldl_next_behind _)
        (first.composed.reads firstEach)
      rw [List.flatMap_append]
      exact opened.append (ih restEach) (parts_clauses texts)

/-- A join lists its table, and qualifies the columns it compares. -/
theorem Reads.joinClause {table owner name inner column : String}
    (among : place = .tables [] ∨ place = .columns [])
    (plain : ∀ mention ∈ [Mention.table table, .joined owner name, .joined inner column],
      mention.Plain dialect) :
    let join : Join :=
      { table, leftColumn := owner ++ "." ++ name, rightColumn := inner ++ "." ++ column }
    Reads dialect place (.columns []) (' ' :: (dialect.joinClause join).toList)
      ([Mention.table table, .joined owner name, .joined inner column].flatMap
        (Mention.references dialect)) := by
  simp only [List.forall_mem_cons, List.not_mem_nil, false_implies, implies_true, and_true] at plain
  obtain ⟨tablePlain, leftPlain, rightPlain⟩ := plain
  have opening : " INNER JOIN ".toList.foldl Place.next place = .tables [] := by
    rcases among with rfl | rfl <;> decide
  have on : " ON ".toList.foldl Place.next (.tables []) = .columns [] := by decide
  have equals : " = ".toList.foldl Place.next (.columns []) = .columns [] := by decide
  have right := Reads.words " = " (by decide) equals (.joined rightPlain)
  have left := Reads.words " ON " (by decide) on
    ((Reads.joined leftPlain).append right (by simp [Parts]))
  have listed : Reads dialect (.tables []) (.tables []) (dialect.tableText table).toList
      ((Mention.table table).references dialect) := by
    rw [Dialect.tableText_eq tablePlain]
    exact .path dialect (.tables []) (dialect.path_ne_nil table)
  have whole := Reads.words " INNER JOIN " (by decide) opening
    (listed.append left (by simp [Parts]))
  simpa [Dialect.joinClause] using whole

end Sql

/-! ## SELECT statements -/

namespace Dialect

open Sql (Mention Reference Place Parts Reads WovenEach clauses parts_clauses
  toList_intercalate_blank referencesIn
  referencesIn_words referencesIn_plain foldl_next_behind isPlain_of_isWording)

variable {dialect : Dialect} {selection : Selection} {style : PlaceholderStyle}

theorem selectList_reads (plain : ∀ column ∈ selection.columns,
      (Mention.entry selection.qualifier column).Plain dialect) :
    ∃ reached, " FROM ".toList.foldl Place.next reached = .tables [] ∧
      Reads dialect (.columns []) reached (dialect.selectList selection).toList
        ((selection.columns.map (Mention.entry selection.qualifier)).flatMap
          (Mention.references dialect)) := by
  cases columns : selection.columns with
  | nil =>
      refine ⟨.columns ['*'], by decide, fun rest parts => ?_⟩
      have star : dialect.selectList selection = "*" := by
        rw [selectList, columns]
        rfl
      rw [star, referencesIn_words (by decide)]
      rfl
  | cons column others =>
      rw [← columns, List.flatMap_map]
      refine ⟨.columns [], by decide, ?_⟩
      have entries := Reads.intercalate fun column member => Reads.entry (plain column member)
      rw [selectList, if_neg]
      · exact entries
      · -- a text in which something is referred to is not empty
        intro empty
        have nothing := entries [] (by simp [Parts])
        rw [String.isEmpty_iff.mp empty, columns] at nothing
        simp [referencesIn, Mention.references] at nothing

theorem sortTerms_reads {terms : List SortTerm} {qualifier : Option String}
    (plain : ∀ term ∈ terms, (Mention.column qualifier term.column).Plain dialect) :
    ∀ mention ∈ terms.map fun term => Mention.column qualifier term.column,
      Reads dialect .behind .behind (mention.text dialect).toList (mention.references dialect) := by
  rw [List.forall_mem_map]
  exact fun term member => .column (.inr rfl) (plain term member)

/-- Clauses for a condition and an ordering lead behind the tables, and the rest of a SELECT
refers to nothing. -/
theorem referencesIn_tail (dialect : Dialect) (selection : Selection) :
    let tail := clauses (conditionParts selection.condition ++ dialect.orderParts selection ++
      dialect.windowParts selection)
    referencesIn dialect (.columns []) tail = referencesIn dialect .behind tail := by
  have leads (words : String) (text : String) (others : List String)
      (plain : (" " ++ words).toList.all Sql.isPlain = true)
      (reached : (" " ++ words).toList.foldl Place.next (.columns []) = .behind) :
      referencesIn dialect (.columns []) (clauses ((words ++ text) :: others)) =
        referencesIn dialect .behind (clauses ((words ++ text) :: others)) := by
    have text_eq : clauses ((words ++ text) :: others) =
        (" " ++ words).toList ++ (text.toList ++ clauses others) := by
      simp [clauses]
    rw [text_eq, referencesIn_words plain, referencesIn_words plain, reached, foldl_next_behind]
  have silent : ∀ place,
      referencesIn dialect place (clauses (dialect.windowParts selection)) = [] := by
    intro place
    have plain : (String.ofList (clauses (dialect.windowParts selection))).toList.all Sql.isPlain =
        true := by
      rw [String.toList_ofList, List.all_eq_true]
      simp only [clauses, List.mem_flatMap]
      rintro c ⟨part, member, isIn⟩
      rcases List.mem_cons.mp isIn with rfl | isIn
      · decide
      · exact List.all_eq_true.mp
          (isPlain_of_isWording (windowParts_closes dialect selection part member).1) c isIn
    simpa using referencesIn_plain plain
  simp only [conditionParts, orderParts]
  split
  · split
    · simpa using (silent _).trans (silent _).symm
    · exact leads "ORDER BY " _ _ (by decide) (by decide)
  · split
    · split
      · simpa using (silent _).trans (silent _).symm
      · exact leads "ORDER BY " _ _ (by decide) (by decide)
    · exact leads "WHERE " _ _ (by decide) (by decide)

/-- A SELECT refers to its entries, its source, its joins, what its condition mentions and the
columns it is ordered by. -/
theorem referencesIn_selectFrom {source : String} {reached : Place} {others : List String}
    {sourceReferences joinReferences : List Reference} {conditions : List Mention}
    (entries : ∀ column ∈ selection.columns,
      (Mention.entry selection.qualifier column).Plain dialect)
    (sourceReads : ∀ rest, referencesIn dialect (.tables []) (source.toList ++ ' ' :: rest) =
      sourceReferences ++ referencesIn dialect reached (' ' :: rest))
    (joined : selection.joins ≠ [])
    (joinsRead : Reads dialect reached (.columns [])
      (clauses (selection.joins.map dialect.joinClause)) joinReferences)
    (conditionWoven :
      WovenEach dialect style (conditionParts selection.condition) others conditions)
    (conditionsRead : ∀ mention ∈ conditions,
      Reads dialect .behind .behind (mention.text dialect).toList (mention.references dialect))
    (orderings : ∀ term ∈ selection.orderBy,
      (Mention.column selection.qualifier term.column).Plain dialect) :
    referencesIn dialect (.columns []) (dialect.selectFrom selection source).toList =
      (selection.columns.map (Mention.entry selection.qualifier)).flatMap
          (Mention.references dialect) ++ sourceReferences ++ joinReferences ++
        (conditions ++ selection.orderBy.map fun term =>
          Mention.column selection.qualifier term.column).flatMap (Mention.references dialect) := by
  obtain ⟨listed, from_eq, listReads⟩ := selectList_reads entries
  have tailWoven := (conditionWoven.append (orderParts_woven selection)).append
    (.ofWords (windowParts_closes dialect selection))
  have tailReads := tailWoven.reads (by
    rw [List.append_nil]
    exact List.forall_mem_append.mpr ⟨conditionsRead, sortTerms_reads orderings⟩)
  have text_eq : (dialect.selectFrom selection source).toList = "SELECT ".toList ++
      ((dialect.selectList selection).toList ++ (" FROM ".toList ++ (source.toList ++
        (clauses (selection.joins.map dialect.joinClause) ++
          clauses (conditionParts selection.condition ++ dialect.orderParts selection ++
            dialect.windowParts selection))))) := by
    rw [selectFrom, List.append_assoc, List.append_assoc, List.append_assoc, List.cons_append,
      toList_intercalate_blank]
    simp [clauses]
  obtain ⟨join, joins, isJoins⟩ := List.exists_cons_of_ne_nil joined
  obtain ⟨later, starts⟩ : ∃ later,
      clauses (selection.joins.map dialect.joinClause) = ' ' :: later :=
    ⟨_, by rw [isJoins]; rfl⟩
  have selected : "SELECT ".toList.foldl Place.next (.columns []) = .columns [] := by decide
  rw [text_eq, referencesIn_words (by decide), selected, listReads _ (by simp [Parts]),
    referencesIn_words (by decide), from_eq, starts, List.cons_append, sourceReads,
    ← List.cons_append, ← starts, joinsRead _ (parts_clauses _), referencesIn_tail,
    ← List.append_nil (clauses _),
    tailReads [] (by simp [Parts]), referencesIn, List.append_nil, List.append_nil]
  simp only [List.append_assoc]

end Dialect

end EntitySql
