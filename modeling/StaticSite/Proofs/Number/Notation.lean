import StaticSite.Number.Notation

/-!
Contract: the characters of written numbers.

Owns:
- the characters that the texts of integers and of finite numbers consist of.

Does not own: which number a text denotes (see `StaticSite.Json.Token`).
-/

namespace StaticSite.Number

/-- The characters of numerals: digits, signs, the decimal point and the exponent mark. -/
def isNumeralCharacter (character : Char) : Bool :=
  character.isDigit || character == '-' || character == '+' || character == '.' ||
    character == 'e'

theorem isNumeralCharacter_of_isDigit {character : Char} (digit : character.isDigit = true) :
    isNumeralCharacter character = true := by
  simp [isNumeralCharacter, digit]

theorem isNumeralCharacter_of_mem_toDigits {value : Nat} {character : Char}
    (member : character ∈ Nat.toDigits 10 value) : isNumeralCharacter character = true :=
  isNumeralCharacter_of_isDigit
    (Nat.isDigit_of_mem_toDigits (by decide) (by decide) member)

theorem toList_toString (value : Nat) : (toString value).toList = Nat.toDigits 10 value := by
  rw [Nat.toString_eq_repr, Nat.repr_eq_ofList_toDigits, String.toList_ofList]

/-- The text of an integer is its digits, with a sign before them if it is negative. -/
theorem toList_toString_int (value : Int) :
    (toString value).toList =
      (if value < 0 then ['-'] else []) ++ Nat.toDigits 10 value.natAbs := by
  cases value with
  | ofNat size =>
      have notNegative : ¬ (Int.ofNat size < 0) := by
        have sized := Int.natCast_nonneg size
        exact Int.not_lt.mpr sized
      rw [if_neg notNegative, Int.toString_eq_repr, Int.repr, Nat.repr_eq_ofList_toDigits,
        String.toList_ofList]
      rfl
  | negSucc size =>
      rw [if_pos (Int.negSucc_lt_zero size), Int.toString_eq_repr, Int.repr, Int.natAbs,
        Nat.repr_eq_ofList_toDigits]
      simp

theorem isNumeralCharacter_of_mem_int {value : Int} {character : Char}
    (member : character ∈ (toString value).toList) : isNumeralCharacter character = true := by
  rw [toList_toString_int, List.mem_append] at member
  rcases member with inSign | inDigits
  · split at inSign
    · rw [List.mem_singleton.mp inSign]
      rfl
    · cases inSign
  · exact isNumeralCharacter_of_mem_toDigits inDigits

end StaticSite.Number

namespace StaticSite.Binary64

open StaticSite.Number

/-- Whether a text consists of characters of numerals. -/
def IsNumeral (text : String) : Prop :=
  ∀ character ∈ text.toList, isNumeralCharacter character = true

instance (text : String) : Decidable (IsNumeral text) :=
  decidable_of_iff (text.toList.all isNumeralCharacter = true) List.all_eq_true

theorem isNumeral_append {text other : String} (numeral : IsNumeral text)
    (otherNumeral : IsNumeral other) : IsNumeral (text ++ other) := by
  rw [IsNumeral, String.toList_append]
  exact List.forall_mem_append.mpr ⟨numeral, otherNumeral⟩

theorem isNumeral_zeros (count : Nat) : IsNumeral (zeros count) := by
  intro character member
  rw [zeros, String.toList_ofList] at member
  rw [List.eq_of_mem_replicate member]
  rfl

theorem isNumeral_ofList {digits : List Char} {value : Nat}
    (among : ∀ digit ∈ digits, digit ∈ Nat.toDigits 10 value) :
    IsNumeral (String.ofList digits) := by
  intro character member
  rw [String.toList_ofList] at member
  exact isNumeralCharacter_of_mem_toDigits (among character member)

theorem isNumeral_positional {digits : List Char} {value : Nat} (magnitude : Int)
    (among : ∀ digit ∈ digits, digit ∈ Nat.toDigits 10 value) :
    IsNumeral (positional digits magnitude) := by
  have point : IsNumeral "." := by decide
  have zeroPoint : IsNumeral "0." := by decide
  have pointZero : IsNumeral ".0" := by decide
  have whole := isNumeral_ofList fun digit member =>
    among digit (List.mem_of_mem_take (i := magnitude.toNat + 1) member)
  have fraction := isNumeral_ofList fun digit member =>
    among digit (List.mem_of_mem_drop (i := magnitude.toNat + 1) member)
  unfold positional
  split
  · exact isNumeral_append (isNumeral_append zeroPoint (isNumeral_zeros _))
      (isNumeral_ofList among)
  · dsimp only
    split
    · exact isNumeral_append (isNumeral_append (isNumeral_ofList among) (isNumeral_zeros _))
        pointZero
    · exact isNumeral_append (isNumeral_append whole point) fraction

theorem isNumeral_exponentText (magnitude : Int) : IsNumeral (exponentText magnitude) := by
  have mark : IsNumeral (if magnitude < 0 then "e-" else "e+") := by
    split <;> decide
  exact isNumeral_append (isNumeral_append mark (isNumeral_zeros _))
    (isNumeral_ofList fun _ member => member)

theorem isNumeral_scientific {digits : List Char} {value : Nat} (magnitude : Int)
    (among : ∀ digit ∈ digits, digit ∈ Nat.toDigits 10 value) :
    IsNumeral (scientific digits magnitude) := by
  have point : IsNumeral "." := by decide
  have first := isNumeral_ofList fun digit member =>
    among digit (List.mem_of_mem_take (i := 1) member)
  have others := isNumeral_ofList fun digit member =>
    among digit (List.mem_of_mem_drop (i := 1) member)
  have fraction : IsNumeral (if digits.length ≤ 1 then "" else
      "." ++ String.ofList (digits.drop 1)) := by
    split
    · decide
    · exact isNumeral_append point others
  exact isNumeral_append (isNumeral_append first fraction) (isNumeral_exponentText magnitude)

theorem isNumeral_decimal (style : NumberStyle) (decimal : Decimal) :
    IsNumeral (decimal.text style) := by
  unfold Decimal.text
  dsimp only
  split
  · exact isNumeral_positional _ fun _ member => member
  · exact isNumeral_scientific _ fun _ member => member

theorem isNumeral_signText (negative : Bool) : IsNumeral (signText negative) := by
  cases negative <;> decide

theorem isNumeral_finite (style : NumberStyle) (negative : Bool) (exponentField : Fin 2047)
    (fraction : Fin 4503599627370496) :
    IsNumeral ((finite negative exponentField fraction).textIn style) := by
  refine isNumeral_append (isNumeral_signText negative) ?_
  split
  · decide
  · exact isNumeral_decimal style _

/-- A number is written with the characters of numerals and of the names of exceptional
values. -/
theorem mem_textIn {style : NumberStyle} {number : Binary64} {character : Char}
    (member : character ∈ (number.textIn style).toList) :
    isNumeralCharacter character = true ∨ character ∈ style.infinityName.toList ∨
      character ∈ style.notANumberName.toList := by
  cases number with
  | finite negative exponentField fraction =>
      exact Or.inl (isNumeral_finite style negative exponentField fraction character member)
  | infinite negative =>
      rw [textIn, String.toList_append, List.mem_append] at member
      rcases member with inSign | inName
      · exact Or.inl (isNumeral_signText negative character inSign)
      · exact Or.inr (Or.inl inName)
  | notANumber => exact Or.inr (Or.inr member)

/-- A rounded number is written with the same characters as one that is not rounded. -/
theorem mem_onePlaceText {number : Binary64} {character : Char}
    (member : character ∈ number.onePlaceText.toList) :
    isNumeralCharacter character = true ∨ character ∈ plainStyle.infinityName.toList ∨
      character ∈ plainStyle.notANumberName.toList := by
  cases number with
  | finite negative exponentField fraction =>
      have count (value : Nat) : IsNumeral (toString value) := by
        intro digit isDigit
        rw [toList_toString] at isDigit
        exact isNumeralCharacter_of_mem_toDigits isDigit
      have point : IsNumeral "." := by decide
      have numeral : IsNumeral (onePlaceText (finite negative exponentField fraction)) :=
        isNumeral_append (isNumeral_append (isNumeral_append (isNumeral_signText negative)
          (count _)) point) (count _)
      exact Or.inl (numeral character member)
  | infinite negative => exact mem_textIn member
  | notANumber => exact mem_textIn member

end StaticSite.Binary64
