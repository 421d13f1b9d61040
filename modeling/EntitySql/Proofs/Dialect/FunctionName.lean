import EntitySql.Dialect.Literal
import EntitySql.Proofs.Text.Blanks
import Mathlib.Computability.RegularExpressions

/-!
# Names of functions

The name of a function is the only text of a caller that a statement takes as it is.  It has to
consist of plain identifiers with dots between them, as a regular expression describes them, and
a call is refused if it does not.  The end of the expression also lies before a line break at
the very end of the text, so a name with such a line break behind it is let through.
-/

namespace EntitySql.Dialect

open RegularExpression

variable {c : Char} {part name word characters : List Char}

/-! ## Plain identifiers -/

/-- The characters that an identifier begins with: ASCII letters and the underscore. -/
def initials : List Char := "ABCDEFGHIJKLMNOPQRSTUVWXYZabcdefghijklmnopqrstuvwxyz_".toList

/-- The characters that an identifier goes on with. -/
def followers : List Char := initials ++ "0123456789".toList

/-- A plain identifier. -/
def IsPlain (part : List Char) : Prop :=
  ∃ first rest, part = first :: rest ∧ first ∈ initials ∧ ∀ c ∈ rest, c ∈ followers

/-- One or more plain identifiers with dots between them. -/
def IsPlainPath (name : List Char) : Prop :=
  ∃ parts, parts ≠ [] ∧ (∀ part ∈ parts, IsPlain part) ∧ name = ['.'].intercalate parts

theorem intercalate_cons_eq_flatten (first : List Char) (others : List (List Char)) :
    ['.'].intercalate (first :: others) = first ++ (others.map ('.' :: ·)).flatten := by
  induction others generalizing first with
  | nil => simp
  | cons next others ih => simp [List.intercalate_cons_cons, ih]

theorem mem_followers_of_isPlain (plain : IsPlain part) : ∀ c ∈ part, c ∈ followers := by
  obtain ⟨first, rest, rfl, starts, continues⟩ := plain
  exact List.forall_mem_cons.mpr ⟨List.mem_append_left _ starts, continues⟩

theorem mem_of_isPlainPath (plain : IsPlainPath name) : ∀ c ∈ name, c ∈ followers ∨ c = '.' := by
  obtain ⟨parts, given, each, rfl⟩ := plain
  obtain ⟨first, others, rfl⟩ := List.exists_cons_of_ne_nil given
  rw [List.forall_mem_cons] at each
  rw [intercalate_cons_eq_flatten, List.forall_mem_append, List.forall_mem_flatten,
    List.forall_mem_map]
  refine ⟨fun c member => .inl (mem_followers_of_isPlain each.1 c member), fun part isPart => ?_⟩
  rw [List.forall_mem_cons]
  exact ⟨.inr rfl, fun c member => .inl (mem_followers_of_isPlain (each.2 part isPart) c member)⟩

/-! ## The test of a name -/

theorem continuesName_iff : continuesName c = true ↔ c ∈ followers := by
  constructor
  · intro continues
    have ascii : c.toNat < 128 := by
      have cases : c.isAlphanum = true ∨ c = '_' := by simpa [continuesName] using continues
      rcases cases with letter | rfl
      · exact (Text.bounds_of_isAlphanum letter).2
      · decide
    have narrow : ∀ c : Char, c.toNat < 128 → continuesName c = true → c ∈ followers :=
      Text.forall_ascii (by decide +kernel)
    exact narrow c ascii continues
  · have each : followers.all continuesName = true := by decide
    exact List.all_eq_true.mp each c

theorem continuesName_of_startsName (starts : startsName c = true) : continuesName c = true := by
  have letter : c.isAlpha = true ∨ c = '_' := by simpa [startsName] using starts
  rcases letter with letter | underscore
  · simp [continuesName, Char.isAlphanum, letter]
  · simp [continuesName, underscore]

theorem startsName_iff : startsName c = true ↔ c ∈ initials := by
  have narrow : followers.filter startsName = initials := by decide
  rw [← narrow, List.mem_filter, ← continuesName_iff]
  constructor
  · exact fun starts => ⟨continuesName_of_startsName starts, starts⟩
  · exact And.right

theorem isNamePart_iff : isNamePart part = true ↔ IsPlain part := by
  cases part with
  | nil => simp [isNamePart, IsPlain]
  | cons first rest => simp [isNamePart, IsPlain, startsName_iff, continuesName_iff]

theorem dot_notMem_of_isPlain (plain : IsPlain part) : '.' ∉ part := by
  intro member
  have follows := mem_followers_of_isPlain plain '.' member
  revert follows
  decide

theorem isPlainPath_iff : (name.splitOn '.').all isNamePart = true ↔ IsPlainPath name := by
  rw [List.all_eq_true]
  constructor
  · intro each
    exact ⟨name.splitOn '.', List.splitOn_ne_nil '.' name,
      fun part member => isNamePart_iff.mp (each part member), (List.intercalate_splitOn '.').symm⟩
  · rintro ⟨parts, given, each, rfl⟩
    rw [List.splitOn_intercalate '.' (fun part member => dot_notMem_of_isPlain (each part member))
      given]
    exact fun part member => isNamePart_iff.mpr (each part member)

/-- A name is taken as it is, or has a line break behind it. -/
def IsAccepted (name : List Char) : Prop :=
  IsPlainPath name ∨ ∃ path, IsPlainPath path ∧ name = path ++ ['\n']

theorem lineBreak_notMem_of_isPlainPath (plain : IsPlainPath name) : '\n' ∉ name := by
  intro member
  have allowed := mem_of_isPlainPath plain '\n' member
  revert allowed
  decide

theorem isFunctionName_iff {name : String} :
    isFunctionName name = true ↔ IsAccepted name.toList := by
  simp only [isFunctionName]
  split
  · rename_i lineBreak
    have last : name.toList.getLast? = some '\n' := by simpa using lineBreak
    rw [isPlainPath_iff]
    constructor
    · exact fun plain => .inr ⟨_, plain, (List.dropLast_append_getLast? '\n' last).symm⟩
    · rintro (plain | ⟨path, plain, characters⟩)
      · exact absurd (List.mem_of_getLast? last) (lineBreak_notMem_of_isPlainPath plain)
      · rwa [characters, List.dropLast_concat]
  · rename_i noLineBreak
    rw [isPlainPath_iff]
    constructor
    · exact .inl
    · rintro (plain | ⟨path, plain, characters⟩)
      · exact plain
      · simp [characters] at noLineBreak

/-! ## The expression -/

/-- One of some characters. -/
def oneOf (characters : List Char) : RegularExpression Char :=
  characters.foldr (fun c others => char c + others) 0

def identifierPattern : RegularExpression Char := oneOf initials * (oneOf followers).star

def functionNamePattern : RegularExpression Char :=
  identifierPattern * (char '.' * identifierPattern).star

theorem mem_oneOf : word ∈ (oneOf characters).matches' ↔ ∃ c ∈ characters, word = [c] := by
  induction characters with
  | nil => simp [oneOf]
  | cons c others ih =>
      have either : (oneOf (c :: others)).matches' = {[c]} + (oneOf others).matches' := rfl
      rw [either, Language.mem_add, ih, List.exists_mem_cons_iff]
      exact Iff.rfl

theorem mem_star_oneOf : word ∈ (oneOf characters).star.matches' ↔ ∀ c ∈ word, c ∈ characters := by
  rw [matches'_star, Language.mem_kstar]
  constructor
  · rintro ⟨words, rfl, each⟩ c member
    obtain ⟨single, isWord, member⟩ := List.mem_flatten.mp member
    obtain ⟨d, listed, rfl⟩ := mem_oneOf.mp (each single isWord)
    obtain rfl := List.mem_singleton.mp member
    exact listed
  · intro each
    refine ⟨word.map ([·]), (List.flatMap_singleton' word).symm, ?_⟩
    rw [List.forall_mem_map]
    exact fun c member => mem_oneOf.mpr ⟨c, each c member, rfl⟩

theorem mem_identifierPattern : part ∈ identifierPattern.matches' ↔ IsPlain part := by
  rw [identifierPattern, matches'_mul, Language.mem_mul]
  constructor
  · rintro ⟨start, isStart, rest, follows, rfl⟩
    obtain ⟨first, initial, rfl⟩ := mem_oneOf.mp isStart
    exact ⟨first, rest, rfl, initial, mem_star_oneOf.mp follows⟩
  · rintro ⟨first, rest, rfl, initial, follows⟩
    exact ⟨[first], mem_oneOf.mpr ⟨first, initial, rfl⟩, rest, mem_star_oneOf.mpr follows, rfl⟩

theorem mem_dotted :
    word ∈ (char '.' * identifierPattern).matches' ↔ ∃ part, IsPlain part ∧ word = '.' :: part := by
  rw [matches'_mul, Language.mem_mul]
  constructor
  · rintro ⟨_, rfl, part, isPart, rfl⟩
    exact ⟨part, mem_identifierPattern.mp isPart, rfl⟩
  · rintro ⟨part, plain, rfl⟩
    exact ⟨['.'], rfl, part, mem_identifierPattern.mpr plain, rfl⟩

theorem mem_functionNamePattern : name ∈ functionNamePattern.matches' ↔ IsPlainPath name := by
  rw [functionNamePattern, matches'_mul, Language.mem_mul, matches'_star]
  constructor
  · rintro ⟨first, isFirst, later, isLater, rfl⟩
    obtain ⟨words, rfl, each⟩ := Language.mem_kstar.mp isLater
    have others_eq : (words.map List.tail).map ('.' :: ·) = words := by
      rw [List.map_map]
      refine (List.map_congr_left fun word isWord => ?_).trans (List.map_id words)
      obtain ⟨part, _, rfl⟩ := mem_dotted.mp (each word isWord)
      rfl
    refine ⟨first :: words.map List.tail, List.cons_ne_nil _ _, ?_, ?_⟩
    · rw [List.forall_mem_cons, List.forall_mem_map]
      refine ⟨mem_identifierPattern.mp isFirst, fun word isWord => ?_⟩
      obtain ⟨part, plain, rfl⟩ := mem_dotted.mp (each word isWord)
      exact plain
    · rw [intercalate_cons_eq_flatten, others_eq]
  · rintro ⟨parts, given, each, rfl⟩
    obtain ⟨first, others, rfl⟩ := List.exists_cons_of_ne_nil given
    obtain ⟨isFirst, areOthers⟩ := List.forall_mem_cons.mp each
    rw [intercalate_cons_eq_flatten]
    refine ⟨first, mem_identifierPattern.mpr isFirst, _, Language.mem_kstar.mpr ⟨_, rfl, ?_⟩, rfl⟩
    rw [List.forall_mem_map]
    exact fun part isPart => mem_dotted.mpr ⟨part, areOthers part isPart, rfl⟩

/-! ## Calls -/

variable {dialect : Dialect} {function : TableFunction}

theorem mem_of_isAccepted (accepted : IsAccepted name) :
    ∀ c ∈ name, c ∈ followers ∨ c = '.' ∨ c = '\n' := by
  have inPath {path : List Char} (plain : IsPlainPath path) :
      ∀ c ∈ path, c ∈ followers ∨ c = '.' ∨ c = '\n' := by
    intro c member
    rw [← or_assoc]
    exact .inl (mem_of_isPlainPath plain c member)
  rcases accepted with plain | ⟨path, plain, rfl⟩
  · exact inPath plain
  · rw [List.forall_mem_append, List.forall_mem_singleton]
    exact ⟨inPath plain, .inr (.inr rfl)⟩

theorem functionCall_of_isAccepted (accepted : IsAccepted function.name.toList) :
    dialect.functionCall function = .ok (function.name ++ "(" ++
      ", ".intercalate (function.arguments.map dialect.literal) ++ ")") :=
  if_pos (isFunctionName_iff.mpr accepted)

theorem functionCall_of_not_isAccepted (refused : ¬IsAccepted function.name.toList) :
    dialect.functionCall function = .error (.argument (.functionName function.name)) :=
  if_neg (isFunctionName_iff.not.mpr refused)

/-- What stands before the first parenthesis of a call is the name of the function. -/
theorem takeWhile_call (accepted : IsAccepted function.name.toList) (arguments : String) :
    (function.name ++ "(" ++ arguments ++ ")").toList.takeWhile (· ≠ '(') =
      function.name.toList := by
  have unopened : ∀ c ∈ function.name.toList, decide (c ≠ '(') = true := by
    intro c member
    have allowed := mem_of_isAccepted accepted c member
    rw [decide_eq_true_eq]
    rintro rfl
    revert allowed
    decide
  simp only [String.toList_append, List.append_assoc]
  rw [List.takeWhile_append_of_pos unopened]
  simp

/-- A call is refused exactly if the expression matches neither the name nor what stands before
a line break at the end of the name.  So if no line break ends the name, it is refused exactly
if the name is no path of plain identifiers, and what stands before the parenthesis of a call is
such a path, but for a line break behind it. -/
theorem functionCall_refuses_iff (dialect : Dialect) (function : TableFunction) :
    (dialect.functionCall function = .error (.argument (.functionName function.name)) ↔
      ¬(function.name.toList ∈ functionNamePattern.matches' ∨
        ∃ path ∈ functionNamePattern.matches', function.name.toList = path ++ ['\n'])) ∧
    (function.name.toList.getLast? ≠ some '\n' →
      (dialect.functionCall function = .error (.argument (.functionName function.name)) ↔
        ¬IsPlainPath function.name.toList)) ∧
    (IsAccepted function.name.toList →
      ∃ text, dialect.functionCall function = .ok text ∧
        text.toList.takeWhile (· ≠ '(') = function.name.toList) ∧
    (∀ text, dialect.functionCall function = .ok text →
      IsAccepted (text.toList.takeWhile (· ≠ '(')) ∧
        ∀ c ∈ text.toList.takeWhile (· ≠ '('), c ∈ followers ∨ c = '.' ∨ c = '\n') := by
  have refuses_iff : dialect.functionCall function =
      .error (.argument (.functionName function.name)) ↔ ¬IsAccepted function.name.toList := by
    constructor
    · intro refused accepted
      rw [functionCall_of_isAccepted accepted] at refused
      cases refused
    · exact functionCall_of_not_isAccepted
  refine ⟨?_, fun noLineBreak => ?_, fun accepted => ?_, fun text called => ?_⟩
  · simp only [refuses_iff, IsAccepted, mem_functionNamePattern]
  · rw [refuses_iff, not_iff_not]
    constructor
    · rintro (plain | ⟨path, plain, characters⟩)
      · exact plain
      · simp [characters] at noLineBreak
    · exact .inl
  · exact ⟨_, functionCall_of_isAccepted accepted, takeWhile_call accepted _⟩
  · by_cases accepted : IsAccepted function.name.toList
    · rw [functionCall_of_isAccepted accepted] at called
      cases called
      rw [takeWhile_call accepted]
      exact ⟨accepted, mem_of_isAccepted accepted⟩
    · rw [functionCall_of_not_isAccepted accepted] at called
      cases called

/-- A name with a schema in front, and one that would end the statement. -/
theorem names_told_apart :
    let dialect : Dialect := ⟨.sqlite, .colon⟩
    let found : TableFunction := { name := "dbo._found2", arguments := [.int 7] }
    let broken : TableFunction := { name := "f; DROP TABLE t" }
    IsAccepted found.name.toList ∧ dialect.functionCall found = .ok "dbo._found2(7)" ∧
      "dbo._found2(7)".toList.takeWhile (· ≠ '(') = found.name.toList ∧
      IsAccepted ("dbo._found2(7)".toList.takeWhile (· ≠ '(')) ∧
      broken.name.toList.getLast? ≠ some '\n' ∧ ¬IsPlainPath broken.name.toList ∧
      dialect.functionCall broken = .error (.argument (.functionName "f; DROP TABLE t")) := by
  intro dialect found broken
  have accepted : IsAccepted found.name.toList := .inl (isPlainPath_iff.mp (by decide))
  have notPlain : ¬IsPlainPath broken.name.toList := isPlainPath_iff.not.mp (by decide)
  have noLineBreak : broken.name.toList.getLast? ≠ some '\n' := by decide
  have called : dialect.functionCall found = .ok "dbo._found2(7)" :=
    (functionCall_of_isAccepted accepted).trans (congrArg Except.ok (by decide))
  obtain ⟨_, _, answers, named⟩ := functionCall_refuses_iff dialect found
  obtain ⟨_, refuses, _⟩ := functionCall_refuses_iff dialect broken
  obtain ⟨text, answered, before⟩ := answers accepted
  obtain rfl : text = "dbo._found2(7)" := Except.ok.inj (answered.symm.trans called)
  exact ⟨accepted, called, before, (named _ called).1, noLineBreak, notPlain,
    (refuses noLineBreak).mpr notPlain⟩

/-- A line break behind the name gets into the statement. -/
theorem lineBreak_let_through :
    let dialect : Dialect := ⟨.sqlite, .colon⟩
    let function : TableFunction := { name := "recent_orders\n", arguments := [.int 30] }
    ¬IsPlainPath function.name.toList ∧
      dialect.functionCall function = .ok "recent_orders\n(30)" := by
  intro dialect function
  have plain : IsPlainPath "recent_orders".toList := isPlainPath_iff.mp (by decide)
  have accepted : IsAccepted function.name.toList := .inr ⟨_, plain, by decide⟩
  constructor
  · exact fun notBroken => lineBreak_notMem_of_isPlainPath notBroken (by decide)
  · exact (functionCall_of_isAccepted accepted).trans (congrArg Except.ok (by decide))

end EntitySql.Dialect
