import EntitySql.Proofs.Sql.Parser
import EntitySql.Proofs.Sql.Path

/-!
# Conditions on qualified columns

Where tables are joined, a column is written as a path of quoted names.  A reader of such
conditions takes a path for the name of a column that has dots between its parts.
-/

namespace EntitySql.Sql

/-- The name that a path gives to a column. -/
def pathName (path : List String) : String := ".".intercalate path

/-- The text of a condition with one quoted name in the place of each path of them. -/
def mergePaths (dialect : Dialect) (text : List Char) : List Char :=
  match text with
  | [] => []
  | c :: rest =>
    if c = dialect.delimiters.opening then
      match _read : readPath dialect rest with
      | some (path, later) =>
        (dialect.delimiters.enclose (pathName path)).toList ++ mergePaths dialect later
      | none => c :: rest
    else c :: mergePaths dialect rest
termination_by text.length
decreasing_by
  · exact Nat.lt_succ_of_lt (length_of_readPath _read)
  · simp

/-- Reads a text as one condition, in which columns may be written as paths. -/
def readQualified (dialect : Dialect) (text : String) : Option Condition :=
  read dialect (String.ofList (mergePaths dialect text.toList))

variable {dialect : Dialect} {rest word : List Char} {path : List String}
variable {text merged left right leftMerged rightMerged : String}

/-- A path is one quoted name afterwards. -/
theorem mergePaths_path (given : path ≠ []) (parts : Parts rest) :
    mergePaths dialect ((pathText dialect path).toList ++ rest) =
      (dialect.delimiters.enclose (pathName path)).toList ++ mergePaths dialect rest := by
  cases path with
  | nil => exact absurd rfl given
  | cons first others =>
      have read : readPath dialect _ = some (first :: others, rest) :=
        readPath_names first others parts
      rw [toList_pathText, Text.Delimiters.toList_enclose]
      simp only [List.cons_append, List.append_assoc, List.nil_append]
      rw [mergePaths, if_pos rfl]
      split
      · rename_i reads
        rw [read] at reads
        cases reads
        rfl
      · rename_i unread
        rw [read] at unread
        cases unread

/-- No quoted name starts in the text. -/
def Unopened (dialect : Dialect) (text : String) : Prop :=
  ∀ c ∈ text.toList, c ≠ dialect.delimiters.opening

theorem mergePaths_unopened (unopened : ∀ c ∈ word, c ≠ dialect.delimiters.opening) :
    mergePaths dialect (word ++ rest) = word ++ mergePaths dialect rest := by
  induction word with
  | nil => rfl
  | cons c word ih =>
      obtain ⟨first, later⟩ := List.forall_mem_cons.mp unopened
      rw [List.cons_append, mergePaths, if_neg first, ih later, List.cons_append]

namespace Unopened

theorem append (first : Unopened dialect left) (later : Unopened dialect right) :
    Unopened dialect (left ++ right) := by
  rw [Unopened, String.toList_append, List.forall_mem_append]
  exact ⟨first, later⟩

theorem of_plain (plain : text.toList.all isPlain = true) : Unopened dialect text := by
  rintro c member rfl
  have isPlain := List.all_eq_true.mp plain _ member
  revert isPlain
  rcases dialect.opening_cases with opens | opens <;> rw [opens] <;> decide

theorem placeholder {name : String} (readable : (Operand.parameter name).Readable) :
    Unopened dialect (dialect.placeholder name) := by
  have marks : ∀ c ∈ leadOf dialect.style ++ tailOf dialect.style,
      c ≠ dialect.delimiters.opening := by
    rcases dialect.opening_cases with opens | opens <;> rw [opens] <;>
      cases dialect.style <;> simp [leadOf, tailOf]
  rw [List.forall_mem_append] at marks
  rw [Unopened, placeholder_toList, List.forall_mem_append, List.forall_mem_append]
  refine ⟨marks.1, fun c member => ?_, marks.2⟩
  rintro rfl
  have isWord := readable.2 _ member
  rw [opening_not_word] at isWord
  cases isWord

theorem intercalate {texts : List String} (each : ∀ text ∈ texts, Unopened dialect text) :
    Unopened dialect (", ".intercalate texts) := by
  induction texts with
  | nil => exact nofun
  | cons first others ih =>
      obtain ⟨firstUnopened, othersUnopened⟩ := List.forall_mem_cons.mp each
      cases others with
      | nil => simpa using firstUnopened
      | cons next others =>
          rw [String.intercalate_cons_cons]
          exact (firstUnopened.append (of_plain (by decide))).append (ih othersUnopened)

end Unopened

/-- A text, with what it is after its paths have become names. -/
def Merges (dialect : Dialect) (text merged : String) : Prop :=
  ∀ rest, Parts rest →
    mergePaths dialect (text.toList ++ rest) = merged.toList ++ mergePaths dialect rest

namespace Merges

/-- A path with words behind it. -/
theorem of_path (given : path ≠ []) {words : String} (parts : Parts words.toList)
    (unopened : Unopened dialect words) :
    Merges dialect (pathText dialect path ++ words)
      (dialect.delimiters.enclose (pathName path) ++ words) := by
  intro rest later
  have apart : Parts (words.toList ++ rest) := by
    cases isEmpty : words.toList with
    | nil => exact later
    | cons c others =>
        rw [isEmpty] at parts
        simpa [Parts] using parts
  rw [String.toList_append, List.append_assoc, mergePaths_path given apart,
    mergePaths_unopened unopened, String.toList_append, List.append_assoc]

theorem of_unopened (unopened : Unopened dialect text) : Merges dialect text text :=
  fun _ _ => mergePaths_unopened unopened

/-- Two texts in parentheses, joined by a word. -/
theorem join (first : Merges dialect left leftMerged) (second : Merges dialect right rightMerged)
    {word : String} (unopened : Unopened dialect word) :
    Merges dialect ("(" ++ left ++ ") " ++ word ++ " (" ++ right ++ ")")
      ("(" ++ leftMerged ++ ") " ++ word ++ " (" ++ rightMerged ++ ")") := by
  intro rest parts
  have opens : Unopened dialect "(" := .of_plain (by decide)
  have between : Unopened dialect (") " ++ word ++ " (") :=
    ((Unopened.of_plain (by decide)).append unopened).append (.of_plain (by decide))
  have closes : Unopened dialect ")" := .of_plain (by decide)
  have text_eq : ("(" ++ left ++ ") " ++ word ++ " (" ++ right ++ ")").toList ++ rest =
      "(".toList ++ (left.toList ++ ((") " ++ word ++ " (").toList ++
        (right.toList ++ (")".toList ++ rest)))) := by
    simp
  have merged_eq (later : List Char) :
      ("(" ++ leftMerged ++ ") " ++ word ++ " (" ++ rightMerged ++ ")").toList ++ later =
      "(".toList ++ (leftMerged.toList ++ ((") " ++ word ++ " (").toList ++
        (rightMerged.toList ++ (")".toList ++ later)))) := by
    simp
  rw [text_eq, merged_eq, mergePaths_unopened opens, first _ (by simp [Parts]),
    mergePaths_unopened between, second _ (by simp [Parts]), mergePaths_unopened closes]

/-- A text is read as what it is with its paths merged. -/
theorem readQualified_eq (merges : Merges dialect text merged) :
    readQualified dialect text = read dialect merged := by
  have whole := merges [] (by simp [Parts])
  rw [mergePaths, List.append_nil, List.append_nil] at whole
  rw [readQualified, whole, String.ofList_toList]

end Merges

end EntitySql.Sql
