import EntitySql.Proofs.Text.Casing

/-!
# Names in snake case

The snake-case form is written character by character: a capital letter becomes small, behind an
underscore where it opens a word, and blanks, dashes and dots become underscores.  So the letters
of a name stay as they are, but for their case.

A text in snake case holds no capital letter, blank, dash or dot.  Whatever stands before such a
text, no word opens in it and nothing is replaced, so it is its own snake-case form.  The form of
a text is in snake case exactly if the small forms of its capital letters are, and below 128 all
of them are.
-/

namespace EntitySql.Text

variable {text : List Char} {name : String} {c : Char}

/-! ## Single characters -/

/-- Whether the snake-case form has an underscore in place of the character. -/
def isSeparator (c : Char) : Bool := isBlank c || c == '-' || c == '.'

/-- Whether the character is left when a name has lost its underscores and separators. -/
def isKept (c : Char) : Bool := c != '_' && !isSeparator c

theorem not_isUppercase_of_isSeparator (separates : isSeparator c = true) :
    isUppercase c = false := by
  by_cases ascii : c.toNat < 128
  · have narrow : ∀ c : Char, c.toNat < 128 → isSeparator c = true → isUppercase c = false :=
      forall_ascii (by decide)
    exact narrow c ascii separates
  · -- the blanks above 127 are few
    have blanks : ∀ point ∈ [0x85, 0xA0, 0x1680, 0x2028, 0x2029, 0x202F, 0x205F, 0x3000] ++
        List.range' 0x2000 11, uppercaseStrides.any (·.contains point) = false := by
      decide
    rw [isUppercase, if_neg ascii]
    apply blanks
    simp only [isSeparator, isBlank, if_neg ascii, Bool.or_eq_true, Bool.and_eq_true,
      decide_eq_true_eq, List.contains_iff_mem, beq_iff_eq] at separates
    rcases separates with ((⟨above, below⟩ | listed) | rfl) | rfl
    · exact List.mem_append_right _ (List.mem_range'_1.mpr (by omega))
    · exact List.mem_append_left _ listed
    · exact absurd (by decide) ascii
    · exact absurd (by decide) ascii

theorem not_isSeparator_of_isUppercase (upper : isUppercase c = true) : isSeparator c = false := by
  by_contra separates
  rw [not_isUppercase_of_isSeparator (by simpa using separates)] at upper
  cases upper

theorem ne_underscore_of_isUppercase (upper : isUppercase c = true) : c ≠ '_' := by
  rintro rfl
  revert upper
  decide

/-- What the snake-case form has for one character. -/
def snakeForm (wordOpen : Bool) (c : Char) : List Char :=
  if isUppercase c then (if wordOpen then ['_'] else []) ++ smallForm c
  else if isSeparator c then ['_']
  else [c]

/-- Whether a capital letter behind the character opens a word. -/
def leavesWordOpen (c : Char) : Bool :=
  !isUppercase c && !isSeparator c && (isLowercase c || isDigit c)

theorem snakeCaseAfter_cons (wordOpen : Bool) (c : Char) (rest : List Char) :
    snakeCaseAfter wordOpen (c :: rest) =
      snakeForm wordOpen c ++ snakeCaseAfter (leavesWordOpen c) rest := by
  have gap_eq : (isBlank c || c == '-' || c == '.') = isSeparator c := rfl
  rw [snakeCaseAfter, gap_eq]
  cases upper : isUppercase c <;> cases separates : isSeparator c <;>
    simp [snakeForm, leavesWordOpen, upper, separates]

theorem snakeForm_ne_nil (wordOpen : Bool) (c : Char) : snakeForm wordOpen c ≠ [] := by
  unfold snakeForm
  split
  · simp [smallForm_ne_nil]
  · split <;> simp

theorem dot_notMem_snakeForm (wordOpen : Bool) (c : Char) : '.' ∉ snakeForm wordOpen c := by
  unfold snakeForm
  split
  · rename_i upper
    have letter : '.' ∉ smallForm c := by
      intro member
      rw [eq_of_mem_smallForm (by decide) member] at upper
      revert upper
      decide
    have opening : '.' ∉ (if wordOpen then ['_'] else []) := by
      cases wordOpen <;> decide
    simp [opening, letter]
  · split
    · decide
    · rename_i noGap
      rw [List.mem_singleton]
      rintro rfl
      exact noGap (by decide)

/-- Underscores left aside, a character that is kept has its small form if it is a capital
letter, and itself else. -/
theorem filter_snakeForm (wordOpen : Bool) (c : Char) :
    (snakeForm wordOpen c).filter (· != '_') =
      ([c].filter isKept).flatMap fun c => if isUppercase c then smallForm c else [c] := by
  unfold snakeForm
  split
  · rename_i upper
    have letter := ne_underscore_of_isUppercase upper
    have opening : (if wordOpen then ['_'] else []).filter (· != '_') = [] := by
      cases wordOpen <;> rfl
    simp [isKept, upper, letter, not_isSeparator_of_isUppercase upper, opening,
      filter_smallForm letter]
  · rename_i notUpper
    split
    · rename_i separates
      simp [isKept, separates]
    · rename_i noGap
      by_cases underscore : c = '_' <;> simp [isKept, notUpper, noGap, underscore]

/-! ## Texts -/

theorem length_le_snakeCaseAfter (wordOpen : Bool) (text : List Char) :
    text.length ≤ (snakeCaseAfter wordOpen text).length := by
  induction text generalizing wordOpen with
  | nil => exact Nat.le_refl _
  | cons c rest ih =>
      have written := List.length_pos_of_ne_nil (snakeForm_ne_nil wordOpen c)
      have later := ih (leavesWordOpen c)
      rw [snakeCaseAfter_cons, List.length_append, List.length_cons]
      omega

/-- The snake-case form has no dots, whether the name has any or not. -/
theorem dot_notMem_snakeCaseAfter (wordOpen : Bool) (text : List Char) :
    '.' ∉ snakeCaseAfter wordOpen text := by
  induction text generalizing wordOpen with
  | nil => exact List.not_mem_nil
  | cons c rest ih =>
      rw [snakeCaseAfter_cons, List.mem_append, not_or]
      exact ⟨dot_notMem_snakeForm wordOpen c, ih _⟩

/-- The snake-case form has the letters of a name in their order, the capital ones small. -/
theorem filter_snakeCaseAfter (wordOpen : Bool) (text : List Char) :
    (snakeCaseAfter wordOpen text).filter (· != '_') =
      (text.filter isKept).flatMap fun c => if isUppercase c then smallForm c else [c] := by
  induction text generalizing wordOpen with
  | nil => rfl
  | cons c rest ih =>
      rw [snakeCaseAfter_cons, List.filter_append, filter_snakeForm, ih, ← List.flatMap_append,
        ← List.filter_append, List.singleton_append]

/-- The letters of the snake-case form in small. -/
theorem flatMap_filter_snakeCaseAfter (wordOpen : Bool) (text : List Char) :
    ((snakeCaseAfter wordOpen text).filter (· != '_')).flatMap smallForm =
      (text.filter isKept).flatMap smallForm := by
  rw [filter_snakeCaseAfter, List.flatMap_assoc]
  refine List.flatMap_congr fun c _ => ?_
  split
  · exact smallForm_smallForm c
  · exact List.flatMap_singleton ..

theorem noSigma_filter_snakeCaseAfter (wordOpen : Bool) (text : List Char) :
    'Σ' ∉ (snakeCaseAfter wordOpen text).filter (· != '_') := by
  rw [filter_snakeCaseAfter, List.mem_flatMap]
  rintro ⟨c, _, member⟩
  split at member
  · exact (isSmall_of_mem_smallForm member).ne_capitalSigma rfl
  · rename_i notUpper
    rw [List.mem_singleton] at member
    subst member
    exact notUpper (by decide)

/-! ## Texts in snake case -/

/-- No capital letter opens a word in the text, and no character of it is replaced. -/
def InSnakeCase (text : List Char) : Prop :=
  ∀ c ∈ text, isUppercase c = false ∧ isSeparator c = false

theorem inSnakeCase_underscore : InSnakeCase ['_'] :=
  List.forall_mem_singleton.mpr (by decide)

theorem inSnakeCase_append {front back : List Char} :
    InSnakeCase (front ++ back) ↔ InSnakeCase front ∧ InSnakeCase back :=
  List.forall_mem_append

/-- Only a capital letter without a small form leaves a capital letter in the text. -/
theorem inSnakeCase_snakeForm_iff (wordOpen : Bool) :
    InSnakeCase (snakeForm wordOpen c) ↔ (isUppercase c = true → InSnakeCase (smallForm c)) := by
  unfold snakeForm
  split
  · rename_i upper
    have opening : InSnakeCase (if wordOpen then ['_'] else []) := by
      cases wordOpen
      · exact List.forall_mem_nil _
      · exact inSnakeCase_underscore
    simp [inSnakeCase_append, opening, upper]
  · rename_i notUpper
    refine iff_of_true ?_ fun upper => absurd upper notUpper
    split
    · exact inSnakeCase_underscore
    · rename_i noGap
      simp [InSnakeCase, notUpper, noGap]

theorem inSnakeCase_snakeCaseAfter_iff (wordOpen : Bool) (text : List Char) :
    InSnakeCase (snakeCaseAfter wordOpen text) ↔
      ∀ c ∈ text, isUppercase c = true → InSnakeCase (smallForm c) := by
  induction text generalizing wordOpen with
  | nil => exact iff_of_true (List.forall_mem_nil _) (List.forall_mem_nil _)
  | cons c rest ih =>
      rw [snakeCaseAfter_cons, inSnakeCase_append, inSnakeCase_snakeForm_iff, ih,
        List.forall_mem_cons]

/-- A text in snake case is left alone, whatever stands before it. -/
theorem snakeCaseAfter_of_inSnakeCase (wordOpen : Bool) (settled : InSnakeCase text) :
    snakeCaseAfter wordOpen text = text := by
  induction text generalizing wordOpen with
  | nil => rfl
  | cons c rest ih =>
      obtain ⟨⟨notUpper, noGap⟩, later⟩ := List.forall_mem_cons.mp settled
      have alone : snakeForm wordOpen c = [c] := by simp [snakeForm, notUpper, noGap]
      rw [snakeCaseAfter_cons, alone, ih _ later, List.singleton_append]

theorem snakeCase_of_inSnakeCase (settled : InSnakeCase name.toList) : snakeCase name = name := by
  rw [snakeCase, snakeCaseAfter_of_inSnakeCase false settled, String.ofList_toList]

/-- The bold capital A has no small form.  The letter before it has one, so a second pass opens
a word where the first one did not. -/
example : snakeCase "B𝐀" = "b𝐀" ∧ snakeCase "b𝐀" = "b_𝐀" := by decide

/-! ## Names below 128 -/

/-- Only characters below 128 stand in the name. -/
def IsAscii (name : String) : Prop := ∀ c ∈ name.toList, c.toNat < 128

instance (name : String) : Decidable (IsAscii name) :=
  decidable_of_iff (name.toList.all (·.toNat < 128) = true) (by simp [IsAscii])

theorem isUppercase_toLower : ∀ c : Char, c.toNat < 128 → isUppercase c.toLower = false :=
  forall_ascii (by decide)

theorem isSeparator_toLower : ∀ c : Char, c.toNat < 128 → isSeparator c.toLower = isSeparator c :=
  forall_ascii (by decide)

theorem isKept_toLower : ∀ c : Char, c.toNat < 128 → isKept c.toLower = isKept c :=
  forall_ascii (by decide)

theorem toLower_of_not_isUppercase :
    ∀ c : Char, c.toNat < 128 → isUppercase c = false → c.toLower = c :=
  forall_ascii (by decide)

theorem inSnakeCase_smallForm (ascii : c.toNat < 128) (upper : isUppercase c = true) :
    InSnakeCase (smallForm c) := by
  rw [smallForm_of_ascii ascii]
  simp [InSnakeCase, isUppercase_toLower c ascii, isSeparator_toLower c ascii,
    not_isSeparator_of_isUppercase upper]

theorem inSnakeCase_snakeCase (ascii : IsAscii name) : InSnakeCase (snakeCase name).toList := by
  rw [snakeCase, String.toList_ofList, inSnakeCase_snakeCaseAfter_iff]
  exact fun c member => inSnakeCase_smallForm (ascii c member)

theorem toList_lowercase (ascii : IsAscii name) :
    (lowercase name).toList = name.toList.map Char.toLower := by
  have noSigma : 'Σ' ∉ name.toList := fun member => absurd (ascii _ member) (by decide)
  rw [lowercase, String.toList_ofList, lowercaseAfter_of_noSigma [] noSigma, List.map_eq_flatMap]
  exact List.flatMap_congr fun c member => smallForm_of_ascii (ascii c member)

/-- Without its underscores, the snake-case form is the name in small without underscores and
separators. -/
theorem filter_snakeCase (ascii : IsAscii name) :
    (snakeCase name).toList.filter (· != '_') = (lowercase name).toList.filter isKept := by
  have small : ∀ c ∈ name.toList.filter isKept,
      (if isUppercase c then smallForm c else [c]) = [c.toLower] := by
    intro c member
    have below := ascii c (List.mem_of_mem_filter member)
    split
    · exact smallForm_of_ascii below
    · rename_i notUpper
      rw [toLower_of_not_isUppercase c below (by simpa using notUpper)]
  calc (snakeCase name).toList.filter (· != '_')
      = (name.toList.filter isKept).flatMap fun c => if isUppercase c then smallForm c else [c] := by
        rw [snakeCase, String.toList_ofList, filter_snakeCaseAfter]
    _ = (name.toList.filter isKept).map Char.toLower := by
        rw [List.flatMap_congr small, List.map_eq_flatMap]
    _ = (name.toList.filter (isKept ∘ Char.toLower)).map Char.toLower := by
        congr 1
        exact List.filter_congr fun c member => (isKept_toLower c (ascii c member)).symm
    _ = (lowercase name).toList.filter isKept := by
        rw [toList_lowercase ascii, List.filter_map]

/-- The letters and digits of a name, in small. -/
def lettersAndDigits (name : String) : List Char :=
  (lowercase name).toList.filter Char.isAlphanum

theorem isKept_of_isAlphanum (letter : c.isAlphanum = true) : isKept c = true := by
  have narrow : ∀ c : Char, c.toNat < 128 → c.isAlphanum = true → isKept c = true :=
    forall_ascii (by decide)
  exact narrow c (bounds_of_isAlphanum letter).2 letter

/-- The letters and digits of a name can be read off its snake-case form. -/
theorem lettersAndDigits_eq (ascii : IsAscii name) :
    lettersAndDigits name = (snakeCase name).toList.filter Char.isAlphanum := by
  have absorbed {weaker : Char → Bool} (implied : ∀ c, isKept c = true → weaker c = true)
      (characters : List Char) :
      (characters.filter weaker).filter Char.isAlphanum = characters.filter Char.isAlphanum := by
    rw [List.filter_filter]
    refine List.filter_congr fun c _ => ?_
    cases letter : c.isAlphanum
    · rfl
    · exact implied c (isKept_of_isAlphanum letter)
  calc lettersAndDigits name
      = ((lowercase name).toList.filter isKept).filter Char.isAlphanum :=
        (absorbed (fun _ => id) _).symm
    _ = ((snakeCase name).toList.filter (· != '_')).filter Char.isAlphanum := by
        rw [filter_snakeCase ascii]
    _ = (snakeCase name).toList.filter Char.isAlphanum :=
        absorbed (fun _ kept => (Bool.and_eq_true_iff.mp kept).1) _

/-- The snake-case form of a name below 128 has no capital letter, blank, dash or dot, and is its
own snake-case form.  Without its underscores it is the name in small without underscores,
blanks, dashes and dots, so names with other letters or digits have other snake-case forms. -/
theorem snakeCase_keeps_name (ascii : IsAscii name) :
    (∀ c ∈ (snakeCase name).toList,
        isUppercase c = false ∧ isBlank c = false ∧ c ≠ '-' ∧ c ≠ '.') ∧
      snakeCase (snakeCase name) = snakeCase name ∧
      (snakeCase name).toList.filter (· != '_') =
        (lowercase name).toList.filter
          (fun c => !(c == '_' || isBlank c || c == '-' || c == '.')) ∧
      ∀ other, IsAscii other → lettersAndDigits name ≠ lettersAndDigits other →
        snakeCase name ≠ snakeCase other := by
  have settled := inSnakeCase_snakeCase ascii
  refine ⟨?_, snakeCase_of_inSnakeCase settled, ?_, ?_⟩
  · intro c member
    obtain ⟨notUpper, noGap⟩ := settled c member
    simpa [isSeparator, notUpper, and_assoc] using noGap
  · rw [filter_snakeCase ascii]
    refine List.filter_congr fun c _ => ?_
    simp [isKept, isSeparator, bne, Bool.and_assoc]
  · intro other otherAscii apart same
    rw [lettersAndDigits_eq ascii, lettersAndDigits_eq otherAscii, same] at apart
    exact apart rfl

/-- Two names with their words set apart in different ways, that differ in one digit. -/
theorem dated_names_apart :
    let name := "Create-Date.UTC\t2_b"
    let other := "createDate UTC3B"
    IsAscii name ∧ snakeCase name = "create_date_utc_2_b" ∧
      snakeCase "create_date_utc_2_b" = "create_date_utc_2_b" ∧
      (lowercase name).toList.filter
        (fun c => !(c == '_' || isBlank c || c == '-' || c == '.')) = "createdateutc2b".toList ∧
      IsAscii other ∧ lettersAndDigits name ≠ lettersAndDigits other ∧
      snakeCase name ≠ snakeCase other := by
  intro name other
  have ascii : IsAscii name := by decide
  have otherAscii : IsAscii other := by decide
  have differ : lettersAndDigits name ≠ lettersAndDigits other := by decide
  have folded : snakeCase name = "create_date_utc_2_b" := by decide
  obtain ⟨_, again, kept, apart⟩ := snakeCase_keeps_name ascii
  rw [folded] at again kept
  exact ⟨ascii, folded, again, kept.symm, otherAscii, differ, apart other otherAscii differ⟩

end EntitySql.Text
