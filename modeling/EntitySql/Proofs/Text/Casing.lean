import EntitySql.Text.Casing
import EntitySql.Proofs.Text.Blanks
import Mathlib.Data.List.Basic

/-!
# Small letters that stay small

A small form is its own small form, and no character but the underscore and the dot has the
underscore or the dot in its small form.  So it makes no difference whether underscores are
taken out before or after the letters of a text are made small, as long as no letter looks at
its neighbours.
-/

namespace EntitySql.Text

/-! ## Single characters -/

/-- No image of the shift belongs to the stride: they are apart, they alternate, or the
only image is none of its points. -/
def Shift.avoids (shift : Shift) (stride : Stride) : Bool :=
  (shift.target + (shift.last - shift.first)).blt stride.first || stride.last.blt shift.target ||
    (shift.step.beq 2 && stride.step.beq 2 && ((shift.target + stride.first) % 2).beq 1) ||
    (shift.first.beq shift.last && !stride.contains shift.target)

theorem not_contains_of_avoids {shift : Shift} {stride : Stride} {point : Nat}
    (avoids : shift.avoids stride = true) (member : shift.contains point = true) :
    stride.contains (shift.target + (point - shift.first)) = false := by
  simp only [Stride.contains, Bool.and_eq_true, decide_eq_true_eq, beq_iff_eq] at member
  obtain ⟨⟨above, below⟩, aligned⟩ := member
  simp only [Shift.avoids, Nat.blt_eq, Nat.beq_eq, Bool.or_eq_true, Bool.and_eq_true,
    Bool.not_eq_true'] at avoids
  rw [← Bool.not_eq_true]
  intro contained
  rcases avoids with ((before | behind) | ⟨⟨shiftStep, strideStep⟩, odd⟩) | ⟨single, outside⟩
  · simp only [Stride.contains, Bool.and_eq_true, decide_eq_true_eq] at contained
    omega
  · simp only [Stride.contains, Bool.and_eq_true, decide_eq_true_eq] at contained
    omega
  · rw [shiftStep] at aligned
    simp only [Stride.contains, strideStep, Bool.and_eq_true, decide_eq_true_eq,
      beq_iff_eq] at contained
    omega
  · obtain rfl : point = shift.first := by omega
    simp [outside] at contained

/-- What no small form of a character above 127 is: a character with another small form, a
capital letter below 128, an underscore, or no character at all. -/
def unsettled : List Stride :=
  [⟨0x41, 0x5A, 1⟩, ⟨0x5F, 0x5F, 1⟩, ⟨0x130, 0x130, 1⟩, ⟨0xD800, 0xDFFF, 1⟩] ++
    lowercaseShifts.map (·.toStride)

theorem shifts_avoid_unsettled :
    (lowercaseShifts.all fun shift => unsettled.all shift.avoids &&
      (shift.target + (shift.last - shift.first)).blt 0x110000) = true := by
  decide +kernel

theorem settled_of_shifted {point image : Nat}
    (found : shifted lowercaseShifts point = some image) :
    image < 0x110000 ∧ ∀ stride ∈ unsettled, stride.contains image = false := by
  obtain ⟨shift, first, rfl⟩ := Option.map_eq_some_iff.mp found
  have contained := List.find?_some (p := fun shift : Shift => shift.contains point) first
  have avoids := List.all_eq_true.mp shifts_avoid_unsettled shift (List.mem_of_find?_eq_some first)
  simp only [Bool.and_eq_true, Nat.blt_eq] at avoids
  obtain ⟨avoids, bound⟩ := avoids
  refine ⟨?_, fun stride member =>
    not_contains_of_avoids (List.all_eq_true.mp avoids stride member) contained⟩
  simp only [Stride.contains, Bool.and_eq_true, decide_eq_true_eq] at contained
  omega

theorem toNat_of_shifted {point image : Nat} (found : shifted lowercaseShifts point = some image) :
    (Char.ofNat image).toNat = image := by
  obtain ⟨bound, outside⟩ := settled_of_shifted found
  have noSurrogate := outside ⟨0xD800, 0xDFFF, 1⟩ (by simp [unsettled])
  simp only [Stride.contains, Nat.mod_one, beq_self_eq_true, Bool.and_true, Bool.and_eq_false_iff,
    decide_eq_false_iff_not] at noSurrogate
  have valid : image.isValidChar := by
    unfold Nat.isValidChar
    omega
  rw [Char.ofNat, dif_pos valid]
  rfl

theorem shifted_eq_none {point : Nat}
    (outside : ∀ stride ∈ unsettled, stride.contains point = false) :
    shifted lowercaseShifts point = none := by
  rw [shifted, Option.map_eq_none_iff, List.find?_eq_none]
  intro shift member
  simp [outside shift.toStride (List.mem_append_right _ (List.mem_map_of_mem member))]

/-- A character is its own small form. -/
def IsSmall (c : Char) : Prop := smallForm c = [c]

theorem isSmall_toLower : ∀ c : Char, c.toNat < 128 → IsSmall c.toLower := by
  unfold IsSmall
  exact forall_ascii (by decide)

theorem smallForm_of_ascii {c : Char} (ascii : c.toNat < 128) : smallForm c = [c.toLower] := by
  rw [smallForm, if_pos ascii]

/-- The image of a shift is a character that is its own small form. -/
theorem isSmall_of_shifted {point image : Nat}
    (found : shifted lowercaseShifts point = some image) : IsSmall (Char.ofNat image) := by
  obtain ⟨_, outside⟩ := settled_of_shifted found
  have noCapital := outside ⟨0x41, 0x5A, 1⟩ (by simp [unsettled])
  have noDotted := outside ⟨0x130, 0x130, 1⟩ (by simp [unsettled])
  simp only [Stride.contains, Nat.mod_one, beq_self_eq_true, Bool.and_true, Bool.and_eq_false_iff,
    decide_eq_false_iff_not] at noCapital noDotted
  have point_eq := toNat_of_shifted found
  by_cases ascii : image < 128
  · have narrow : ∀ point < 128, ¬(0x41 ≤ point ∧ point ≤ 0x5A) →
        smallForm (.ofNat point) = [.ofNat point] := by decide
    exact narrow image ascii (by omega)
  · have noLatin : ¬(Char.ofNat image).toNat < 128 := by rwa [point_eq]
    have notDotted : ((Char.ofNat image).toNat == 0x130) = false := by
      rw [point_eq, beq_eq_false_iff_ne]
      omega
    rw [IsSmall, smallForm, if_neg noLatin, notDotted, if_neg Bool.false_ne_true, point_eq,
      shifted_eq_none outside]

/-- The characters of a small form are small. -/
theorem isSmall_of_mem_smallForm {c d : Char} (member : d ∈ smallForm c) : IsSmall d := by
  by_cases ascii : c.toNat < 128
  · rw [smallForm_of_ascii ascii, List.mem_singleton] at member
    exact member ▸ isSmall_toLower c ascii
  · rw [smallForm, if_neg ascii] at member
    split at member
    · rcases List.mem_pair.mp member with rfl | rfl <;> rfl
    · split at member
      · rename_i point found
        rw [List.mem_singleton] at member
        subst member
        exact isSmall_of_shifted found
      · rename_i notDotted _ noShift
        rw [List.mem_singleton] at member
        subst member
        rw [IsSmall, smallForm, if_neg ascii, if_neg notDotted, noShift]

/-- Characters that are the small form of no other character. -/
def uncasedMarks : List Char := ['_', '.']

theorem shifts_avoid_uncasedMarks : (lowercaseShifts.all fun shift =>
    uncasedMarks.all fun mark => shift.avoids ⟨mark.toNat, mark.toNat, 1⟩) = true := by
  decide

theorem notMem_uncasedMarks_of_shifted {point image : Nat}
    (found : shifted lowercaseShifts point = some image) : Char.ofNat image ∉ uncasedMarks := by
  intro isMark
  obtain ⟨shift, first, image_eq⟩ := Option.map_eq_some_iff.mp found
  have avoids := List.all_eq_true.mp (List.all_eq_true.mp shifts_avoid_uncasedMarks shift
    (List.mem_of_find?_eq_some first)) _ isMark
  have contained := List.find?_some (p := fun shift : Shift => shift.contains point) first
  have apart := not_contains_of_avoids avoids contained
  rw [image_eq, toNat_of_shifted found] at apart
  simp [Stride.contains] at apart

/-- No other character has such a mark in its small form. -/
theorem eq_of_mem_smallForm {c mark : Char} (isMark : mark ∈ uncasedMarks)
    (member : mark ∈ smallForm c) : c = mark := by
  by_cases ascii : c.toNat < 128
  · rw [smallForm_of_ascii ascii, List.mem_singleton] at member
    have narrow : ∀ c : Char, c.toNat < 128 → c.toLower ∈ uncasedMarks → c = c.toLower :=
      forall_ascii (by decide)
    rw [member] at isMark ⊢
    exact narrow c ascii isMark
  · rw [smallForm, if_neg ascii] at member
    split at member
    · exfalso
      rcases List.mem_pair.mp member with rfl | rfl <;> exact absurd isMark (by decide)
    · split at member
      · rename_i point found
        rw [List.mem_singleton] at member
        subst member
        exact absurd isMark (notMem_uncasedMarks_of_shifted found)
      · exact (List.mem_singleton.mp member).symm

theorem IsSmall.ne_capitalSigma {c : Char} (small : IsSmall c) : c ≠ 'Σ' := by
  rintro rfl
  revert small
  unfold IsSmall
  decide

theorem smallForm_ne_nil (c : Char) : smallForm c ≠ [] := by
  unfold smallForm
  split
  · simp
  · split
    · simp
    · split <;> simp

/-! ## Texts -/

variable {text : List Char}

/-- Without a capital sigma no letter looks at its neighbours. -/
theorem lowercaseAfter_of_noSigma (before : List Char) (noSigma : 'Σ' ∉ text) :
    lowercaseAfter before text = text.flatMap smallForm := by
  induction text generalizing before with
  | nil => rfl
  | cons c rest ih =>
      obtain ⟨other, noSigma⟩ := List.ne_and_not_mem_of_not_mem_cons noSigma
      rw [lowercaseAfter, if_neg (by simpa using Ne.symm other), ih _ noSigma, List.flatMap_cons]

theorem length_le_lowercaseAfter (before text : List Char) :
    text.length ≤ (lowercaseAfter before text).length := by
  induction text generalizing before with
  | nil => exact Nat.le_refl _
  | cons c rest ih =>
      have written : 0 < (smallForm c).length := List.length_pos_of_ne_nil (smallForm_ne_nil c)
      have later := ih (c :: before)
      rw [lowercaseAfter]
      split <;> simp <;> omega

theorem dot_notMem_lowercaseAfter (before : List Char) (undotted : '.' ∉ text) :
    '.' ∉ lowercaseAfter before text := by
  induction text generalizing before with
  | nil => exact List.not_mem_nil
  | cons c rest ih =>
      obtain ⟨other, undotted⟩ := List.ne_and_not_mem_of_not_mem_cons undotted
      rw [lowercaseAfter, List.mem_append, not_or]
      refine ⟨?_, ih _ undotted⟩
      split
      · split <;> decide
      · exact fun member => other (eq_of_mem_smallForm (by decide) member).symm

theorem flatMap_smallForm_of_small (small : ∀ c ∈ text, IsSmall c) :
    text.flatMap smallForm = text := by
  rw [List.flatMap_congr small, List.flatMap_singleton']

theorem smallForm_smallForm (c : Char) : (smallForm c).flatMap smallForm = smallForm c :=
  flatMap_smallForm_of_small fun _ member => isSmall_of_mem_smallForm member

theorem filter_smallForm {c : Char} (other : c ≠ '_') :
    (smallForm c).filter (· != '_') = smallForm c := by
  rw [List.filter_eq_self]
  intro d member
  have kept : d ≠ '_' := by
    rintro rfl
    exact other (eq_of_mem_smallForm (by decide) member)
  simpa using kept

theorem filter_flatMap_smallForm (text : List Char) :
    (text.flatMap smallForm).filter (· != '_') = (text.filter (· != '_')).flatMap smallForm := by
  induction text with
  | nil => rfl
  | cons c rest ih =>
      rw [List.flatMap_cons, List.filter_append, ih]
      by_cases underscore : c = '_'
      · subst underscore
        have dropped : (smallForm '_').filter (· != '_') = [] := by decide
        simp [dropped]
      · rw [filter_smallForm underscore, List.filter_cons_of_pos (by simpa using underscore),
          List.flatMap_cons]

end EntitySql.Text
