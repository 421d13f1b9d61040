import EntitySql.Text.Numeral
import Mathlib.Data.List.TakeWhile

/-!
# Blanks

No blank is part of a word.  Trimming strips blanks from the ends of a text and nothing else,
so a text that neither starts nor ends with a blank is what is left of it after trimming.
-/

namespace EntitySql.Text

/-! ## Characters below 128 -/

theorem forall_ascii {P : Char → Prop} (each : ∀ point < 128, P (.ofNat point)) (c : Char)
    (ascii : c.toNat < 128) : P c := by
  have narrowed := each c.toNat ascii
  rwa [Char.ofNat_toNat] at narrowed

theorem bounds_of_isAlphanum {c : Char} (letter : c.isAlphanum = true) :
    32 < c.toNat ∧ c.toNat < 128 := by
  delta Char.isAlphanum Char.isAlpha Char.isUpper Char.isLower Char.isDigit at letter
  simp only [Bool.or_eq_true, Bool.and_eq_true, decide_eq_true_eq, ge_iff_le,
    UInt32.le_iff_toNat_le] at letter
  have lasts : 'Z'.val.toNat < 128 ∧ 'z'.val.toNat < 128 ∧ '9'.val.toNat < 128 := by decide
  have firsts : 32 < 'A'.val.toNat ∧ 32 < 'a'.val.toNat ∧ 32 < '0'.val.toNat := by decide
  change 32 < c.val.toNat ∧ c.val.toNat < 128
  omega

/-! ## Blanks and words -/

theorem Boundaries.length_takeWhile_mono (boundaries : Boundaries) {near far : Nat}
    (order : near ≤ far) :
    (boundaries.takeWhile (· ≤ near)).length ≤ (boundaries.takeWhile (· ≤ far)).length := by
  have nested : boundaries.takeWhile (· ≤ near) =
      (boundaries.takeWhile (· ≤ far)).takeWhile (· ≤ near) := by
    rw [List.takeWhile_takeWhile]
    congr 1
    funext boundary
    have passed : boundary ≤ near → boundary ≤ far := fun atMost => atMost.trans order
    simpa using passed
  rw [nested]
  exact (List.takeWhile_prefix _).length_le

/-- Points without a boundary between them are inside or outside together. -/
theorem Boundaries.contains_between {boundaries : Boundaries} {low point high : Nat}
    (unchanged : (boundaries.takeWhile (· ≤ low)).length =
      (boundaries.takeWhile (· ≤ high)).length)
    (above : low ≤ point) (below : point ≤ high) :
    boundaries.contains point = boundaries.contains low := by
  have notFewer := boundaries.length_takeWhile_mono above
  have notMore := boundaries.length_takeWhile_mono below
  rw [← unchanged] at notMore
  rw [contains, contains, Nat.le_antisymm notMore notFewer]

theorem isWord_of_isDigit {c : Char} (isDigit : c.isDigit = true) :
    isWord c = true ∧ isBlank c = false := by
  have bounds : 48 ≤ c.toNat ∧ c.toNat ≤ 57 := by
    simpa [Char.isDigit, UInt32.le_iff_toNat_le] using isDigit
  have ascii : c.toNat < 128 := by omega
  constructor
  · simp [isWord, ascii, Char.isAlphanum, isDigit]
  · simp [isBlank, ascii]
    omega

theorem isBlank_of_isWord {c : Char} (word : isWord c = true) : isBlank c = false := by
  by_cases ascii : c.toNat < 128
  · have narrow : ∀ c : Char, c.toNat < 128 → isWord c = true → isBlank c = false :=
      forall_ascii (by decide +kernel)
    exact narrow c ascii word
  · rw [isWord, if_neg ascii] at word
    -- Most of the blanks lie between two neighbouring boundaries of the words.
    have gap : (wordBoundaries.takeWhile (· ≤ 0x2000)).length =
        (wordBoundaries.takeWhile (· ≤ 0x205F)).length := by decide +kernel
    have outside : [0x85, 0xA0, 0x1680, 0x2000, 0x3000].all
        (!wordBoundaries.contains ·) = true := by decide +kernel
    simp only [List.all_cons, List.all_nil, Bool.and_true, Bool.and_eq_true,
      Bool.not_eq_true'] at outside
    obtain ⟨nextLine, noBreak, ogham, quads, ideographic⟩ := outside
    have other {point : Nat} (outside : wordBoundaries.contains point = false) :
        c.toNat ≠ point := by
      rintro rfl
      rw [word] at outside
      cases outside
    have apart : ¬(0x2000 ≤ c.toNat ∧ c.toNat ≤ 0x205F) := by
      rintro ⟨above, below⟩
      exact other ((Boundaries.contains_between gap above below).trans quads) rfl
    have notNextLine := other nextLine
    have notNoBreak := other noBreak
    have notOgham := other ogham
    have notIdeographic := other ideographic
    simp only [isBlank, if_neg ascii, List.contains_eq_mem, List.mem_cons, List.not_mem_nil,
      or_false, Bool.or_eq_false_iff, Bool.and_eq_false_iff, decide_eq_false_iff_not]
    omega

/-! ## Trimming -/

theorem trimBlanks_of_ends {text : List Char} (starts : ∀ c ∈ text.head?, isBlank c = false)
    (ends : ∀ c ∈ text.getLast?, isBlank c = false) : trimBlanks text = text := by
  have fixed {characters : List Char} (starts : ∀ c ∈ characters.head?, isBlank c = false) :
      characters.dropWhile isBlank = characters := by
    cases characters with
    | nil => rfl
    | cons c rest => simp [starts c rfl]
  rw [trimBlanks, fixed starts, fixed (by simpa using ends), List.reverse_reverse]

theorem trimBlanks_blank {c : Char} (blank : isBlank c = true) (text : List Char) :
    trimBlanks (c :: text) = trimBlanks text := by
  rw [trimBlanks, trimBlanks, List.dropWhile_cons_of_pos blank]

theorem length_trimBlanks_le (text : List Char) :
    (trimBlanks text).length ≤ text.length := by
  have front := (List.dropWhile_suffix (l := text) isBlank).length_le
  have back := (List.dropWhile_suffix (l := (text.dropWhile isBlank).reverse) isBlank).length_le
  rw [trimBlanks, List.length_reverse]
  rw [List.length_reverse] at back
  exact Nat.le_trans back front

theorem dropWhile_eq_trimBlanks_append (text : List Char) :
    text.dropWhile isBlank = trimBlanks text ++
      ((text.dropWhile isBlank).reverse.takeWhile isBlank).reverse := by
  rw [trimBlanks, ← List.reverse_append, List.takeWhile_append_dropWhile, List.reverse_reverse]

/-- Only blanks are stripped, and only from the ends. -/
theorem exists_trimBlanks (text : List Char) :
    ∃ front back, text = front ++ (trimBlanks text ++ back) ∧
      (∀ c ∈ front, isBlank c = true) ∧ ∀ c ∈ back, isBlank c = true := by
  refine ⟨text.takeWhile isBlank, ((text.dropWhile isBlank).reverse.takeWhile isBlank).reverse,
    ?_, fun c => List.mem_takeWhile_imp, ?_⟩
  · rw [← dropWhile_eq_trimBlanks_append, List.takeWhile_append_dropWhile]
  · simp only [List.mem_reverse]
    exact fun c => List.mem_takeWhile_imp

theorem head?_dropWhile_isBlank (text : List Char) :
    ∀ c ∈ (text.dropWhile isBlank).head?, isBlank c = false := by
  intro c first
  have stops := List.head?_dropWhile_not isBlank text
  rw [Option.mem_def.mp first] at stops
  exact stops

/-- No blank is left at the ends. -/
theorem ends_trimBlanks (text : List Char) :
    (∀ c ∈ (trimBlanks text).head?, isBlank c = false) ∧
      ∀ c ∈ (trimBlanks text).getLast?, isBlank c = false := by
  constructor
  · intro c first
    apply head?_dropWhile_isBlank text
    rw [dropWhile_eq_trimBlanks_append]
    simp [List.head?_append, Option.mem_def.mp first]
  · rw [trimBlanks, List.getLast?_reverse]
    exact head?_dropWhile_isBlank _

@[simp]
theorem trimBlanks_trimBlanks (text : List Char) : trimBlanks (trimBlanks text) = trimBlanks text :=
  trimBlanks_of_ends (ends_trimBlanks text).1 (ends_trimBlanks text).2

/-- Nothing but blanks is lost. -/
theorem filter_trimBlanks (text : List Char) :
    (trimBlanks text).filter (!isBlank ·) = text.filter (!isBlank ·) := by
  obtain ⟨front, back, text_eq, frontBlank, backBlank⟩ := exists_trimBlanks text
  have dropped {blanks : List Char} (allBlank : ∀ c ∈ blanks, isBlank c = true) :
      blanks.filter (!isBlank ·) = [] := by
    simpa [List.filter_eq_nil_iff] using allBlank
  have kept := congrArg (List.filter (!isBlank ·)) text_eq
  rw [List.filter_append, List.filter_append, dropped frontBlank, dropped backBlank,
    List.nil_append, List.append_nil] at kept
  exact kept.symm

end EntitySql.Text
