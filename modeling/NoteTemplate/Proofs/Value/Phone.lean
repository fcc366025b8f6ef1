import NoteTemplate.Proofs.Regex.Language
import NoteTemplate.Regex.Parser
import NoteTemplate.Value.Phone

/-!
Which texts are phone numbers. The shape admits decimal digits of every script, but only ASCII
digits are counted, so that any number of other digits may come on top of the 15.
-/
namespace NoteTemplate.Value

/-- Digits and separators between a first and a last digit. -/
structure PhoneBody (digit : Char → Bool) (t : Text) : Prop where
  first : ∃ d, t.head? = some d ∧ digit d = true
  last : ∃ d, t.getLast? = some d ∧ digit d = true
  parts : ∀ c ∈ t, digit c = true ∨ isPhoneSeparator c = true

def PhoneShape (digit : Char → Bool) (t : Text) : Prop :=
  ∃ sign body, t = sign ++ body ∧ (sign = ['+'] ∨ sign = []) ∧ PhoneBody digit body

def PhoneNumber (digit : Char → Bool) (t : Text) : Prop :=
  PhoneShape digit t ∧ 7 ≤ t.countP digit ∧ t.countP digit ≤ 15

def phoneExpression : Text := "^\\+?\\d(?:[\\d ().-]*\\d)?$".toList

def phonePart : Regex.CharClass :=
  [' ', '(', ')', '.', '-'].foldl (fun part c => .union part (.single c)) (.union .none .digit)

def phoneTail : Regex := .optional (.cat (.star (.chars phonePart)) (.chars .digit))

def phoneRegex : Regex :=
  .cat (.look .start) (.cat (.optional (.chars (.single '+')))
    (.cat (.chars .digit) (.cat phoneTail (.look .stop))))

theorem ofText_phoneExpression : Regex.ofText phoneExpression = .ok phoneRegex := rfl

section Shape

variable {digit digit' : Char → Bool} {t : Text}

theorem phoneBody_cons_iff {d : Char} : PhoneBody digit (d :: t) ↔ digit d = true ∧
    (t = [] ∨ ∃ middle e, t = middle ++ [e] ∧ digit e = true ∧
      ∀ c ∈ middle, digit c = true ∨ isPhoneSeparator c = true) := by
  constructor
  · intro body
    rcases body with ⟨⟨_, head, first⟩, ⟨e, stop, last⟩, parts⟩
    cases head
    refine ⟨first, ?_⟩
    rcases List.eq_nil_or_concat' t with rfl | ⟨middle, e', rfl⟩
    · exact .inl rfl
    · rw [← List.cons_append, List.getLast?_concat] at stop
      cases stop
      refine .inr ⟨middle, e, rfl, last, ?_⟩
      intro c member
      apply parts
      simp [member]
  · intro whole
    rcases whole with ⟨first, rfl | ⟨middle, e, rfl, last, parts⟩⟩
    · exact ⟨⟨d, rfl, first⟩, ⟨d, rfl, first⟩, by simp [first]⟩
    · refine ⟨⟨d, rfl, first⟩, ⟨e, ?_, last⟩, ?_⟩
      · rw [← List.cons_append, List.getLast?_concat]
      · intro c member
        simp only [List.mem_cons, List.mem_append, List.not_mem_nil, or_false] at member
        rcases member with rfl | between | rfl
        · exact .inl first
        · exact parts c between
        · exact .inl last

theorem PhoneBody.exists_cons (body : PhoneBody digit t) :
    ∃ d tail, t = d :: tail ∧ digit d = true := by
  rcases body.first with ⟨d, head, first⟩
  rcases List.head?_eq_some_iff.mp head with ⟨tail, text⟩
  exact ⟨d, tail, text, first⟩

theorem PhoneShape.imp (shape : PhoneShape digit t)
    (digits : ∀ c ∈ t, digit c = true → digit' c = true) : PhoneShape digit' t := by
  rcases shape with ⟨sign, body, rfl, signs, ⟨d, head, first⟩, ⟨e, stop, last⟩, parts⟩
  have inside {c : Char} (member : c ∈ body) : digit c = true → digit' c = true :=
    digits c (List.mem_append_right sign member)
  refine ⟨sign, body, rfl, signs, ⟨d, head, ?_⟩, ⟨e, stop, ?_⟩, ?_⟩
  · exact inside (List.mem_of_head? head) first
  · exact inside (List.mem_of_getLast? stop) last
  · intro c member
    exact (parts c member).imp_left (inside member)

theorem not_isDecimalDigit_of_isPhoneSeparator {c : Char}
    (separator : isPhoneSeparator c = true) : Text.isDecimalDigit c = false := by
  simp only [isPhoneSeparator, Bool.or_eq_true, beq_iff_eq] at separator
  rcases separator with (((rfl | rfl) | rfl) | rfl) | rfl <;> decide

/-- A decimal digit in a text of the shape is one of its digits. -/
theorem PhoneShape.digit_of_isDecimalDigit (shape : PhoneShape digit t) :
    ∀ c ∈ t, Text.isDecimalDigit c = true → digit c = true := by
  rcases shape with ⟨sign, body, rfl, signs, _, _, parts⟩
  intro c member decimal
  rcases List.mem_append.mp member with front | behind
  · rcases signs with rfl | rfl
    · cases List.mem_singleton.mp front
      exact absurd decimal (by decide)
    · cases front
  · cases parts c behind with
    | inl isDigit => exact isDigit
    | inr separator =>
        rw [not_isDecimalDigit_of_isPhoneSeparator separator] at decimal
        cases decimal

theorem phoneShape_isDigit_iff : PhoneShape Char.isDigit t ↔
    PhoneShape Text.isDecimalDigit t ∧
      ∀ c ∈ t, Text.isDecimalDigit c = true → c.isDigit = true := by
  constructor
  · intro shape
    exact ⟨shape.imp fun _ _ => Text.isDecimalDigit_of_isDigit, shape.digit_of_isDecimalDigit⟩
  · intro both
    exact both.1.imp both.2

end Shape

section Expression

variable {previous next : Option Char} {t : Text}

theorem contains_single (d c : Char) : (Regex.CharClass.single d).contains c = (c == d) := by
  rw [Bool.eq_iff_iff]
  simp only [Regex.CharClass.single, Regex.CharClass.contains, Bool.and_eq_true,
    decide_eq_true_eq, beq_iff_eq]
  constructor
  · intro range
    exact Char.le_antisymm range.2 range.1
  · intro same
    subst same
    exact ⟨Char.le_refl c, Char.le_refl c⟩

theorem contains_phonePart (c : Char) :
    phonePart.contains c = (Text.isDecimalDigit c || isPhoneSeparator c) := by
  simp only [phonePart, List.foldl, Regex.CharClass.contains, contains_single, isPhoneSeparator,
    Bool.false_or, Bool.or_assoc]

theorem matches_phoneTail_iff : Regex.Matches phoneTail previous t next ↔
    t = [] ∨ ∃ middle e, t = middle ++ [e] ∧ Text.isDecimalDigit e = true ∧
      ∀ c ∈ middle, Text.isDecimalDigit c = true ∨ isPhoneSeparator c = true := by
  rw [phoneTail, Regex.matches_optional_iff, or_comm]
  apply or_congr_right
  constructor
  · intro whole
    rcases Regex.matches_cat_iff.mp whole with ⟨middle, v, rfl, parts, last⟩
    rcases Regex.matches_chars_iff.mp last with ⟨e, rfl, decimal⟩
    refine ⟨middle, e, rfl, decimal, ?_⟩
    intro c member
    have part := Regex.matches_star_chars_iff.mp parts c member
    rwa [contains_phonePart, Bool.or_eq_true] at part
  · intro whole
    rcases whole with ⟨middle, e, rfl, decimal, parts⟩
    apply Regex.Matches.cat
    · apply Regex.matches_star_chars_iff.mpr
      intro c member
      rw [contains_phonePart, Bool.or_eq_true]
      exact parts c member
    · exact .chars decimal

theorem matches_sign_iff : Regex.Matches (.optional (.chars (.single '+'))) previous t next ↔
    t = ['+'] ∨ t = [] := by
  rw [Regex.matches_optional_iff, Regex.matches_chars_iff]
  simp [contains_single]

theorem matches_phoneRegex_iff : Regex.Matches phoneRegex previous t next ↔
    previous = none ∧ next = none ∧ PhoneShape Text.isDecimalDigit t := by
  constructor
  · intro whole
    rcases Regex.matches_cat_iff.mp whole with ⟨_, _, rfl, start, whole⟩
    rcases Regex.matches_look_iff.mp start with ⟨rfl, first⟩
    rcases Regex.matches_cat_iff.mp whole with ⟨sign, _, rfl, signs, whole⟩
    rcases Regex.matches_cat_iff.mp whole with ⟨_, _, rfl, head, whole⟩
    rcases Regex.matches_chars_iff.mp head with ⟨d, rfl, decimal⟩
    rcases Regex.matches_cat_iff.mp whole with ⟨tail, _, rfl, behind, stop⟩
    rcases Regex.matches_look_iff.mp stop with ⟨rfl, last⟩
    refine ⟨Option.isNone_iff_eq_none.mp first, Option.isNone_iff_eq_none.mp last, sign,
      d :: tail, by simp, matches_sign_iff.mp signs, ?_⟩
    exact phoneBody_cons_iff.mpr ⟨decimal, matches_phoneTail_iff.mp behind⟩
  · intro shape
    rcases shape with ⟨rfl, rfl, sign, body, rfl, signs, whole⟩
    rcases whole.exists_cons with ⟨d, tail, rfl, _⟩
    rcases phoneBody_cons_iff.mp whole with ⟨decimal, behind⟩
    have found : Regex.Matches phoneRegex none ([] ++ (sign ++ ([d] ++ (tail ++ [])))) none :=
      .cat (.look rfl) (.cat (matches_sign_iff.mpr signs)
        (.cat (.chars decimal) (.cat (matches_phoneTail_iff.mpr behind) (.look rfl))))
    simpa using found

/-- The expression finds exactly the texts of the shape, since it is anchored at both ends. -/
theorem isMatch_phoneRegex : phoneRegex.isMatch t = true ↔ PhoneShape Text.isDecimalDigit t := by
  rw [Regex.isMatch_iff]
  constructor
  · intro part
    rcases part with ⟨a, m, b, rfl, whole⟩
    rcases matches_phoneRegex_iff.mp whole with ⟨first, last, shape⟩
    rw [List.getLast?_eq_none_iff.mp first, List.head?_eq_none_iff.mp last]
    simpa using shape
  · intro shape
    exact ⟨[], t, [], by simp, matches_phoneRegex_iff.mpr ⟨rfl, rfl, shape⟩⟩

end Expression

section Validator

variable {t : Text}

theorem isPhoneBody_eq_true_iff {body : Text} : isPhoneBody body = true ↔
    PhoneBody Text.isDecimalDigit body := by
  simp only [isPhoneBody, Bool.and_eq_true, List.all_eq_true, Bool.or_eq_true, and_assoc,
    Option.any_eq_true]
  constructor
  · intro body
    exact ⟨body.1, body.2.1, body.2.2⟩
  · intro body
    exact ⟨body.first, body.last, body.parts⟩

theorem isPhone_eq_true_iff : isPhone t = true ↔ PhoneShape Text.isDecimalDigit t ∧
    7 ≤ t.countP Char.isDigit ∧ t.countP Char.isDigit ≤ 15 := by
  simp only [isPhone, Bool.and_eq_true, decide_eq_true_eq, and_assoc, isPhoneBody_eq_true_iff]
  apply and_congr_left'
  constructor
  · intro body
    split at body
    · exact ⟨['+'], _, rfl, .inl rfl, body⟩
    · exact ⟨[], t, rfl, .inr rfl, body⟩
  · intro shape
    rcases shape with ⟨sign, body, rfl, rfl | rfl, whole⟩
    · exact whole
    · rcases whole.exists_cons with ⟨d, tail, rfl, decimal⟩
      have other : d ≠ '+' := by
        intro same
        rw [same] at decimal
        exact absurd decimal (by decide)
      simpa [other] using whole

/-- What the validator of phone numbers accepts: the texts that its expression finds with 7 to 15
ASCII digits. Where all digits are ASCII digits these are the phone numbers. -/
theorem isPhone_spec (t : Text) :
    (∃ r, Regex.ofText phoneExpression = .ok r ∧
      (r.isMatch t = true ↔ PhoneShape Text.isDecimalDigit t)) ∧
    (isPhone t = true ↔ PhoneShape Text.isDecimalDigit t ∧
      7 ≤ t.countP Char.isDigit ∧ t.countP Char.isDigit ≤ 15) ∧
    (PhoneNumber Char.isDigit t ↔ isPhone t = true ∧
      ∀ c ∈ t, Text.isDecimalDigit c = true → c.isDigit = true) := by
  refine ⟨⟨phoneRegex, ofText_phoneExpression, isMatch_phoneRegex⟩, isPhone_eq_true_iff, ?_⟩
  rw [PhoneNumber, phoneShape_isDigit_iff, isPhone_eq_true_iff, and_right_comm]

theorem isPhone_sixteen_digits : isPhone "1234567٠١٢٣٤٥٦٧٨".toList = true ∧
    "1234567٠١٢٣٤٥٦٧٨".toList.countP Text.isDecimalDigit = 16 ∧
      ¬ PhoneNumber Char.isDigit "1234567٠١٢٣٤٥٦٧٨".toList := by
  refine ⟨by decide, by decide, ?_⟩
  intro number
  have ascii := (phoneShape_isDigit_iff.mp number.1).2 '٠' (by decide) (by decide)
  exact absurd ascii (by decide)

end Validator

end NoteTemplate.Value
