import EntitySql.Dialect
import EntitySql.Proofs.Text.Quotation

/-!
# Percent signs in texts

A driver with the percent style reads the whole text of a statement, quoted or not: a doubled
sign is one percent sign, a sign before a name in brackets and the letter behind them is a
parameter, and any other sign is an error.
-/

namespace EntitySql.Sql

/-- What a driver finds in a text. -/
inductive Piece where
  | plain (c : Char)
  | parameter (name : String)
  deriving DecidableEq, Repr

/-- A piece as it is written in a placeholder style; only one style doubles percent signs. -/
def Piece.text (style : PlaceholderStyle) : Piece → List Char
  | plain c => if style = .percent ∧ c = '%' then ['%', '%'] else [c]
  | parameter name => (style.render name).toList

/-- How much of a marker has been read. -/
inductive Marker where
  | outside
  | sign
  | naming (read : List Char)
  | named (name : List Char)
  deriving DecidableEq, Repr

namespace Marker

def text : Marker → List Char
  | outside => []
  | sign => ['%']
  | naming read => '%' :: '(' :: read
  | named name => '%' :: '(' :: (name ++ [')'])

/-- Reads one more character, with which a piece may be complete. -/
def step : Marker → Char → Option (List Piece × Marker)
  | outside, c => some (if c = '%' then ([], sign) else ([.plain c], outside))
  | sign, c =>
    if c = '%' then some ([.plain '%'], outside)
    else if c = '(' then some ([], naming [])
    else none
  | naming read, c => some ([], if c = ')' then named read else naming (read ++ [c]))
  | named name, c => if c = 's' then some ([.parameter (.ofList name)], outside) else none

/-- The pieces of a text behind what has been read of a marker. -/
def scan : Marker → List Char → Option (List Piece)
  | marker, [] => if marker = outside then some [] else none
  | marker, c :: rest => do
    let (found, next) ← marker.step c
    let pieces ← next.scan rest
    return found ++ pieces

variable {marker next : Marker} {text later name : List Char} {pieces found : List Piece} {c : Char}

/-- No character is lost in a step. -/
theorem text_of_step (stepped : marker.step c = some (found, next)) :
    marker.text ++ [c] = found.flatMap (Piece.text .percent) ++ next.text := by
  cases marker with
  | outside =>
      simp only [step, Option.some.injEq] at stepped
      split at stepped
      all_goals cases stepped
      · simp_all [Marker.text]
      · simp_all [Marker.text, Piece.text]
  | sign =>
      simp only [step] at stepped
      split at stepped
      · cases stepped
        simp_all [Marker.text, Piece.text]
      · split at stepped
        · cases stepped
          simp_all [Marker.text]
        · cases stepped
  | naming read =>
      simp only [step, Option.some.injEq] at stepped
      cases stepped
      split
      all_goals simp_all [Marker.text]
  | named name =>
      simp only [step] at stepped
      split at stepped
      · cases stepped
        simp_all [Marker.text, Piece.text, PlaceholderStyle.render]
      · cases stepped

theorem scan_cons :
    marker.scan (c :: text) = some pieces ↔ ∃ found next others,
      marker.step c = some (found, next) ∧ next.scan text = some others ∧
        found ++ others = pieces := by
  simp [scan, Option.bind_eq_some_iff]

theorem scan_nil : marker.scan [] = some pieces ↔ marker = outside ∧ pieces = [] := by
  simp [scan, eq_comm]

/-- The pieces that are read in a text are those that it is written from. -/
theorem text_of_scan (scanned : marker.scan text = some pieces) :
    marker.text ++ text = pieces.flatMap (Piece.text .percent) := by
  induction text generalizing marker pieces with
  | nil =>
      obtain ⟨rfl, rfl⟩ := scan_nil.mp scanned
      rfl
  | cons c rest ih =>
      obtain ⟨found, next, others, stepped, restScanned, rfl⟩ := scan_cons.mp scanned
      rw [List.append_cons, text_of_step stepped, List.append_assoc, ih restScanned,
        List.flatMap_append]

/-- Texts are read one after the other. -/
theorem scan_append {others : List Piece} (scanned : marker.scan text = some pieces)
    (laterScanned : outside.scan later = some others) :
    marker.scan (text ++ later) = some (pieces ++ others) := by
  induction text generalizing marker pieces with
  | nil =>
      obtain ⟨rfl, rfl⟩ := scan_nil.mp scanned
      exact laterScanned
  | cons c rest ih =>
      obtain ⟨found, next, between, stepped, restScanned, rfl⟩ := scan_cons.mp scanned
      rw [List.append_assoc]
      exact scan_cons.mpr ⟨found, next, _, stepped, ih restScanned, rfl⟩

theorem scan_doubleEach (text : List Char) :
    outside.scan (Text.doubleEach '%' text) = some (text.map .plain) := by
  induction text with
  | nil => rfl
  | cons c rest ih =>
      by_cases isSign : c = '%'
      · simp [Text.doubleEach, isSign, scan, step, ih]
      · simp [Text.doubleEach, isSign, scan, step, ih]

theorem scan_naming {read : List Char} (unclosed : ')' ∉ name) :
    (naming read).scan (name ++ [')', 's']) = some [.parameter (.ofList (read ++ name))] := by
  induction name generalizing read with
  | nil => simp [scan, step]
  | cons c rest ih =>
      rw [List.mem_cons, not_or] at unclosed
      simp [scan, step, Ne.symm unclosed.1, ih unclosed.2]

theorem scan_placeholder {name : String} (unclosed : ')' ∉ name.toList) :
    outside.scan (PlaceholderStyle.percent.render name).toList = some [.parameter name] := by
  have naming : (naming []).scan (name.toList ++ [')', 's']) = _ := scan_naming unclosed
  simp [PlaceholderStyle.render, scan, step, naming]

end Marker

/-! ## Interpolation -/

/-- A driver with parameters of these names can read a text, and reads another text with its
parameters behind at signs. -/
def Interpolates (names : List String) (text other : String) : Prop :=
  ∃ pieces, Marker.outside.scan text.toList = some pieces ∧
    (∀ name, .parameter name ∈ pieces → name ∈ names) ∧
    other.toList = pieces.flatMap (Piece.text .atSign)

variable {names : List String} {text other later laterOther name : String} {doubled more : Nat}

theorem Interpolates.append (first : Interpolates names text other)
    (next : Interpolates names later laterOther) :
    Interpolates names (text ++ later) (other ++ laterOther) := by
  obtain ⟨pieces, scanned, named, other_eq⟩ := first
  obtain ⟨others, laterScanned, laterNamed, later_eq⟩ := next
  refine ⟨pieces ++ others, ?_, fun name isPiece => ?_, ?_⟩
  · rw [String.toList_append]
    exact Marker.scan_append scanned laterScanned
  · exact (List.mem_append.mp isPiece).elim (named name) (laterNamed name)
  · rw [String.toList_append, other_eq, later_eq, List.flatMap_append]

/-- A text whose percent signs are doubled is read as it was. -/
theorem interpolates_doubled (names : List String) (text : String) :
    Interpolates names (Text.doubled '%' text) text := by
  refine ⟨text.toList.map .plain, ?_, by simp, by simp [Piece.text, List.flatMap_map]⟩
  rw [Text.doubled, String.toList_ofList]
  exact Marker.scan_doubleEach text.toList

theorem interpolates_placeholder (isName : name ∈ names) (unclosed : ')' ∉ name.toList) :
    Interpolates names (PlaceholderStyle.percent.render name)
      (PlaceholderStyle.atSign.render name) :=
  ⟨[.parameter name], Marker.scan_placeholder unclosed, by simpa using isName, by simp [Piece.text]⟩

/-- The number of percent signs and at signs. -/
def signCount (text : List Char) : Nat := text.count '%' + text.count '@'

/-- In a text that is read, each percent sign is written twice and each parameter with one
sign in either style. -/
theorem signCount_of_interpolates (interpolates : Interpolates names text other)
    (silent : ∀ name ∈ names, '%' ∉ name.toList) :
    signCount text.toList = signCount other.toList + other.toList.count '%' := by
  obtain ⟨pieces, scanned, named, other_eq⟩ := interpolates
  have text_eq : text.toList = pieces.flatMap (Piece.text .percent) := Marker.text_of_scan scanned
  rw [text_eq, other_eq]
  clear scanned text_eq other_eq
  induction pieces with
  | nil => rfl
  | cons piece pieces ih =>
      have later := ih fun name isPiece => named name (List.mem_cons_of_mem _ isPiece)
      have first : signCount (piece.text .percent) =
          signCount (piece.text .atSign) + (piece.text .atSign).count '%' := by
        cases piece with
        | plain c =>
            by_cases isSign : c = '%'
            · simp [isSign, Piece.text, signCount]
            · simp [isSign, Piece.text, signCount]
        | parameter name =>
            have unsigned := List.count_eq_zero.mpr (silent name (named name List.mem_cons_self))
            simp [Piece.text, PlaceholderStyle.render, signCount, unsigned]
            omega
      simp only [signCount, List.flatMap_cons, List.count_append] at first later ⊢
      omega

/-- The signs of a text and of its counterpart with at signs, in which some percent signs are
doubled.  Those that are not are what a driver cannot read. -/
structure Tally (names : List String) (text other : String) (doubled : Nat) : Prop where
  signs : signCount text.toList = signCount other.toList + doubled
  within : doubled ≤ other.toList.count '%'
  interpolates : other.toList.count '%' = doubled → Interpolates names text other

namespace Tally

theorem append (first : Tally names text other doubled) (next : Tally names later laterOther more) :
    Tally names (text ++ later) (other ++ laterOther) (doubled + more) := by
  obtain ⟨firstSigns, firstWithin, firstInterpolates⟩ := first
  obtain ⟨nextSigns, nextWithin, nextInterpolates⟩ := next
  simp only [signCount] at firstSigns nextSigns
  refine ⟨?_, ?_, fun all => ?_⟩
  · simp only [signCount, String.toList_append, List.count_append]
    omega
  · rw [String.toList_append, List.count_append]
    omega
  · rw [String.toList_append, List.count_append] at all
    exact (firstInterpolates (by omega)).append (nextInterpolates (by omega))

/-- A text that is written alike in both styles. -/
theorem same (names : List String) (text : String) : Tally names text text 0 := by
  refine ⟨rfl, Nat.zero_le _, fun none => ?_⟩
  have interpolates := interpolates_doubled names text
  rwa [Text.doubled, Text.doubleEach_of_not_mem (List.count_eq_zero.mp none),
    String.ofList_toList] at interpolates

theorem ofDoubled (names : List String) (text : String) :
    Tally names (Text.doubled '%' text) text (text.toList.count '%') := by
  refine ⟨?_, Nat.le_refl _, fun _ => interpolates_doubled names text⟩
  have atSigns : (Text.doubleEach '%' text.toList).count '@' = text.toList.count '@' :=
    Text.count_doubleEach_of_ne (by decide)
  simp only [Text.doubled, String.toList_ofList, signCount, Text.count_doubleEach_self, atSigns]
  omega

theorem placeholder (isName : name ∈ names) (unclosed : ')' ∉ name.toList) :
    Tally names (PlaceholderStyle.percent.render name) (PlaceholderStyle.atSign.render name) 0 := by
  refine ⟨?_, Nat.zero_le _, fun _ => interpolates_placeholder isName unclosed⟩
  simp [PlaceholderStyle.render, signCount]
  omega

/-- A driver reads a text exactly if all its percent signs are doubled. -/
theorem interpolates_iff (tally : Tally names text other doubled)
    (silent : ∀ name ∈ names, '%' ∉ name.toList) :
    Interpolates names text other ↔ other.toList.count '%' = doubled := by
  refine ⟨fun interpolates => ?_, tally.interpolates⟩
  -- what is read has one sign more for every percent sign, the text only for doubled ones
  have read := signCount_of_interpolates interpolates silent
  have tallied := tally.signs
  omega

end Tally

end EntitySql.Sql
