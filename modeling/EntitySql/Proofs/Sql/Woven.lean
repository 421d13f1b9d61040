import EntitySql.Proofs.Sql.Mention
import EntitySql.Text.CharacterClasses

/-!
# Texts woven from words and mentions

A statement is put together from the same words and mentions in every placeholder style.
A woven text comes with its counterpart in another style.  It ends with a mention or with
a word, and none of its words has a semicolon.
-/

namespace EntitySql

/-- The same backend with placeholders in another style. -/
def Dialect.inStyle (dialect : Dialect) (style : PlaceholderStyle) : Dialect :=
  { dialect with style }

namespace Sql

/-- A plain character other than the semicolon. -/
def isWording (c : Char) : Bool := isPlain c && c != ';'

/-- Plain words that do not end with a blank. -/
def Closes (words : String) : Prop :=
  words.toList.all isWording = true ∧ words.toList.getLast?.any (!Text.isBlank ·) = true

instance (words : String) : Decidable (Closes words) :=
  inferInstanceAs (Decidable (_ ∧ _))

/-- A text that does not start with a blank. -/
def Begins (text : String) : Prop := text.toList.head?.any (!Text.isBlank ·) = true

instance (text : String) : Decidable (Begins text) :=
  inferInstanceAs (Decidable (_ = true))

/-- A text and its counterpart in another style consist of the same words and mentions. -/
inductive Woven (dialect : Dialect) (style : PlaceholderStyle) :
    String → String → List Mention → Prop where
  | ending (words : String) (closes : Closes words) : Woven dialect style words words []
  | last (mention : Mention) :
      Woven dialect style (mention.text dialect) (mention.text (dialect.inStyle style)) [mention]
  | words (words : String) {text other : String} {mentions : List Mention}
      (plain : words.toList.all isWording = true) (rest : Woven dialect style text other mentions) :
      Woven dialect style (words ++ text) (words ++ other) mentions
  | mention (mention : Mention) {text other : String} {mentions : List Mention}
      (separated : Separated text) (rest : Woven dialect style text other mentions) :
      Woven dialect style (mention.text dialect ++ text)
        (mention.text (dialect.inStyle style) ++ other) (mention :: mentions)

/-- Texts that are woven one by one, with what they mention together. -/
inductive WovenEach (dialect : Dialect) (style : PlaceholderStyle) :
    List String → List String → List Mention → Prop where
  | nil : WovenEach dialect style [] [] []
  | cons {text other : String} {texts others : List String} {mentions more : List Mention}
      (first : Woven dialect style text other mentions)
      (rest : WovenEach dialect style texts others more) :
      WovenEach dialect style (text :: texts) (other :: others) (mentions ++ more)

/-- A statement and its counterpart in another style, alone or with a SELECT behind it
that reads its row back. -/
inductive Batched (dialect : Dialect) (style : PlaceholderStyle) :
    Bool → String → String → String → List Mention → Prop where
  | alone {text other : String} {mentions : List Mention} (begins : Begins text)
      (woven : Woven dialect style text other mentions) :
      Batched dialect style false text text other mentions
  | followed {text other readBack readBackOther : String} {mentions more : List Mention}
      (begins : Begins text) (woven : Woven dialect style text other mentions)
      (selects : ∃ table condition, readBack = dialect.selectWhole table condition)
      (readBackWoven : Woven dialect style readBack readBackOther more) :
      Batched dialect style true text (text ++ "; " ++ readBack) (other ++ "; " ++ readBackOther)
        (mentions ++ more)

variable {dialect : Dialect} {style : PlaceholderStyle} {text other later laterOther : String}
variable {texts others : List String} {mentions more : List Mention} {α : Type} {items : List α}

theorem isPlain_of_isWording {words : String} (plain : words.toList.all isWording = true) :
    words.toList.all isPlain = true := by
  rw [List.all_eq_true] at plain ⊢
  intro c member
  have wording := plain c member
  rw [isWording, Bool.and_eq_true] at wording
  exact wording.1

/-- Words in front of others that end a statement. -/
theorem Closes.behind {words : String} (closes : Closes text)
    (plain : words.toList.all isWording = true) : Closes (words ++ text) := by
  obtain ⟨textPlain, closing⟩ := closes
  refine ⟨by rw [String.toList_append, List.all_append, plain, textPlain]; rfl, ?_⟩
  cases last : text.toList.getLast? with
  | none => simp [last] at closing
  | some c => simpa [List.getLast?_append, last] using closing

theorem Begins.append (begins : Begins text) : Begins (text ++ later) := by
  unfold Begins at *
  rw [String.toList_append]
  cases start : text.toList with
  | nil => simp [start] at begins
  | cons c rest => simpa [start] using begins

theorem Begins.intercalate {separator : String} (begins : Begins text) :
    Begins (separator.intercalate (text :: texts)) := by
  cases texts with
  | nil => simpa using begins
  | cons next rest =>
      rw [String.intercalate_cons_cons, String.append_assoc]
      exact begins.append

namespace Woven

theorem composed (woven : Woven dialect style text other mentions) :
    Composed dialect text mentions := by
  induction woven with
  | ending words closes => exact .of_words (isPlain_of_isWording closes.1)
  | last mention => exact .of_mention mention
  | words words plain _ ih => exact .words words (isPlain_of_isWording plain) ih
  | mention mention separated _ ih => exact .mention mention separated ih

/-- What is woven may go on with what is separated from it. -/
theorem append (first : Woven dialect style text other mentions)
    (next : Woven dialect style later laterOther more) (separated : Separated later) :
    Woven dialect style (text ++ later) (other ++ laterOther) (mentions ++ more) := by
  induction first with
  | ending words closes => exact .words words closes.1 next
  | last mention => exact .mention mention separated next
  | words words plain _ ih =>
      rw [String.append_assoc, String.append_assoc]
      exact .words words plain ih
  | mention mention textSeparated _ ih =>
      rw [String.append_assoc, String.append_assoc]
      exact .mention mention (textSeparated.append separated) ih

theorem closed (woven : Woven dialect style text other mentions) :
    Woven dialect style (text ++ ")") (other ++ ")") mentions := by
  simpa using woven.append (.ending ")" (by decide)) (by decide)

/-- Two texts in brackets, with plain words between the brackets. -/
theorem bracketed {between : String} (first : Woven dialect style text other mentions)
    (next : Woven dialect style later laterOther more)
    (plain : between.toList.all isWording = true) (separated : Separated between)
    (nonempty : between ≠ "") :
    Woven dialect style ("(" ++ (text ++ (between ++ (later ++ ")"))))
      ("(" ++ (other ++ (between ++ (laterOther ++ ")")))) (mentions ++ more) :=
  .words "(" (by decide)
    (first.append (.words between plain next.closed) (separated.append_of_ne nonempty))

end Woven

namespace WovenEach

theorem append (first : WovenEach dialect style texts others mentions)
    {moreTexts moreOthers : List String}
    (next : WovenEach dialect style moreTexts moreOthers more) :
    WovenEach dialect style (texts ++ moreTexts) (others ++ moreOthers) (mentions ++ more) := by
  induction first with
  | nil => exact next
  | cons first _ ih =>
      rw [List.append_assoc]
      exact .cons first ih

theorem singleton (woven : Woven dialect style text other mentions) :
    WovenEach dialect style [text] [other] mentions := by
  simpa using WovenEach.cons woven .nil

/-- Texts of items, each of which is woven. -/
theorem map {write writeOther : α → String} {mention : α → List Mention}
    (each : ∀ item ∈ items, Woven dialect style (write item) (writeOther item) (mention item)) :
    WovenEach dialect style (items.map write) (items.map writeOther) (items.flatMap mention) := by
  induction items with
  | nil => exact .nil
  | cons item items ih =>
      rw [List.forall_mem_cons] at each
      exact .cons each.1 (ih each.2)

/-- Items that are mentions themselves. -/
theorem ofMentions (mention : α → Mention) (items : List α) :
    WovenEach dialect style (items.map fun item => (mention item).text dialect)
      (items.map fun item => (mention item).text (dialect.inStyle style))
      (items.map mention) := by
  rw [List.map_eq_flatMap (f := mention)]
  exact map fun item _ => .last (mention item)

theorem ofWords (closing : ∀ text ∈ texts, Closes text) :
    WovenEach dialect style texts texts [] := by
  induction texts with
  | nil => exact .nil
  | cons text texts ih =>
      obtain ⟨closes, rest⟩ := List.forall_mem_cons.mp closing
      exact .cons (.ending text closes) (ih rest)

/-- Woven texts with a plain separator between them. -/
theorem intercalate (separator : String) (plain : separator.toList.all isWording = true)
    (separated : Separated separator) (nonempty : separator ≠ "")
    (each : WovenEach dialect style texts others mentions) (given : texts ≠ []) :
    Woven dialect style (separator.intercalate texts) (separator.intercalate others) mentions := by
  induction each with
  | nil => exact absurd rfl given
  | cons first rest ih =>
      cases rest with
      | nil => simpa using first
      | cons next rest =>
          rw [String.intercalate_cons_cons, String.intercalate_cons_cons, String.append_assoc,
            String.append_assoc]
          exact first.append (.words separator plain (ih (List.cons_ne_nil _ _)))
            (separated.append_of_ne nonempty)

end WovenEach

theorem Batched.composed {readsBack : Bool} {statement : String}
    (batched : Batched dialect style readsBack statement text other mentions) :
    Composed dialect text mentions := by
  cases batched with
  | alone _ woven => exact woven.composed
  | followed _ woven _ readBackWoven =>
      rw [String.append_assoc]
      exact woven.composed.append (.words "; " (by decide) readBackWoven.composed)
        (Separated.append_of_ne (by decide) (by decide))

end Sql

end EntitySql
