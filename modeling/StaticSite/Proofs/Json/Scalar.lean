import Mathlib.Data.List.Find
import Mathlib.Data.List.TakeWhile
import StaticSite.Json.Token
import StaticSite.Proofs.Number.Notation

/-!
Contract: scalars of JSON other than texts, and what they are read as.

Owns:
- the characters after which a scalar ends;
- the law that a scalar is read alike alone and before such a character;
- the texts of integers and of the named constants.

Does not own: which number the text of a fraction denotes (see `StaticSite.Json.Token`).
-/

namespace StaticSite.Json

open StaticSite.Number

/-- The characters that may follow a scalar: blanks, commas and closing marks. -/
def isDelimiter (character : Char) : Bool :=
  isTokenBlank character || character == ',' || character == ']' || character == '\x7d'

/-- Whether nothing follows, or a character that ends a scalar. -/
def Delimited (rest : List Char) : Prop :=
  ∀ character, rest.head? = some character → isDelimiter character = true

/-- The characters of scalars: Latin letters and the characters of numerals. -/
def isScalarCharacter (character : Char) : Bool :=
  character.isAlpha || isNumeralCharacter character

/-- Whether a text, read by itself, is a scalar. -/
def SpellsScalar [Text.Halves] (source : List Char) (value : Json) : Prop :=
  firstToken 0 source = (.scalar value, source.length) ∧
    ∀ character ∈ source, isScalarCharacter character = true

variable {halves : Text.Halves}

theorem delimited_nil : Delimited [] := by
  intro character isHead
  cases isHead

theorem delimited_cons {character : Char} (ends : isDelimiter character = true)
    (rest : List Char) : Delimited (character :: rest) := by
  intro head isHead
  rw [← Option.some.inj isHead]
  exact ends

theorem eq_of_isDelimiter {character : Char} (ends : isDelimiter character = true) :
    character ∈ [' ', '\t', '\n', '\r', ',', ']', '\x7d'] := by
  simpa [isDelimiter, isTokenBlank, or_assoc] using ends

theorem not_of_isDelimiter (test : Char → Bool)
    (apart : [' ', '\t', '\n', '\r', ',', ']', '\x7d'].all (fun mark => !test mark) = true)
    {character : Char} (ends : isDelimiter character = true) : test character = false := by
  have excluded := List.all_eq_true.mp apart character (eq_of_isDelimiter ends)
  simpa using excluded

theorem isTokenBlank_of_isScalarCharacter {character : Char}
    (scalar : isScalarCharacter character = true) : isTokenBlank character = false := by
  rw [← Bool.not_eq_true]
  intro blank
  have ends : isDelimiter character = true := by
    simp only [isDelimiter, blank, Bool.true_or]
  have notScalar := not_of_isDelimiter isScalarCharacter (by decide) ends
  rw [scalar] at notScalar
  cases notScalar

/-! ## Numbers before a delimiter -/

theorem isPrefix_wholePart (source : List Char) : wholePart source <+: source := by
  unfold wholePart
  split
  · exact ⟨_, rfl⟩
  · exact List.takeWhile_prefix _

theorem isPrefix_fractionPart (source : List Char) : fractionPart source <+: source := by
  unfold fractionPart
  split
  · split
    · exact List.nil_prefix
    · exact (List.cons_prefix_cons.mpr ⟨rfl, List.takeWhile_prefix _⟩)
  · exact List.nil_prefix

theorem isPrefix_exponentPart (source : List Char) : exponentPart source <+: source := by
  cases source with
  | nil => exact List.nil_prefix
  | cons mark rest =>
      obtain ⟨further, isRest⟩ := List.takeWhile_prefix (l := rest) fun character =>
        character == '+' || character == '-'
      have isDropped : ((rest.takeWhile fun character =>
            character == '+' || character == '-') ++ further).drop
          (rest.takeWhile fun character => character == '+' || character == '-').length =
          further := List.drop_left
      rw [isRest] at isDropped
      rw [exponentPart]
      split
      · dsimp only
        split
        · exact List.nil_prefix
        · have digits := List.takeWhile_prefix (l := further) Char.isDigit
          have joined := (List.prefix_append_right_inj (rest.takeWhile fun character =>
            character == '+' || character == '-')).mpr digits
          rw [isRest] at joined
          rw [isDropped]
          exact List.cons_prefix_cons.mpr ⟨rfl, joined⟩
      · exact List.nil_prefix

section Delimited

variable {rest : List Char} (delimited : Delimited rest)
include delimited

theorem takeWhile_append_of_delimited (test : Char → Bool)
    (apart : [' ', '\t', '\n', '\r', ',', ']', '\x7d'].all (fun mark => !test mark) = true)
    (text : List Char) : (text ++ rest).takeWhile test = text.takeWhile test := by
  have nothingMore : rest.takeWhile test = [] := by
    cases rest with
    | nil => rfl
    | cons head others =>
        have excluded := not_of_isDelimiter test apart (delimited head rfl)
        rw [List.takeWhile_cons_of_neg (by rw [excluded]; exact Bool.false_ne_true)]
  rw [List.takeWhile_append, nothingMore, List.append_nil]
  split
  · rename_i allTaken
    exact ((List.takeWhile_prefix test).eq_of_length allTaken).symm
  · rfl

theorem wholePart_append (text : List Char) : wholePart (text ++ rest) = wholePart text := by
  cases text with
  | nil =>
      cases rest with
      | nil => rfl
      | cons head others =>
          have ends := delimited head rfl
          have notZero : head ≠ '0' := by
            rintro rfl
            exact absurd ends (by decide)
          have notDigit : head.isDigit = false := not_of_isDelimiter Char.isDigit (by decide) ends
          rw [List.nil_append, wholePart]
          · rw [List.takeWhile_cons_of_neg (by rw [notDigit]; exact Bool.false_ne_true)]
            rfl
          · exact fun _ isZero => notZero (List.cons.inj isZero).1
  | cons first others =>
      by_cases isZero : first = '0'
      · subst isZero
        rfl
      · have notZero (further : List Char) : ∀ tail, first :: further = '0' :: tail → False :=
          fun _ same => isZero (List.cons.inj same).1
        rw [List.cons_append, wholePart, wholePart, ← List.cons_append]
        · exact takeWhile_append_of_delimited delimited Char.isDigit (by decide) (first :: others)
        · exact notZero others
        · exact notZero (others ++ rest)

theorem fractionPart_append (text : List Char) :
    fractionPart (text ++ rest) = fractionPart text := by
  cases text with
  | nil =>
      cases rest with
      | nil => rfl
      | cons head others =>
          have notPoint : head ≠ '.' := by
            rintro rfl
            exact absurd (delimited '.' rfl) (by decide)
          rw [List.nil_append, fractionPart]
          · rfl
          · exact fun _ isPoint => notPoint (List.cons.inj isPoint).1
  | cons first others =>
      by_cases isPoint : first = '.'
      · subst isPoint
        have digits :=
          takeWhile_append_of_delimited delimited Char.isDigit (by decide) others
        simp only [List.cons_append, fractionPart, digits]
      · have notPoint (further : List Char) : ∀ tail, first :: further = '.' :: tail → False :=
          fun _ same => isPoint (List.cons.inj same).1
        rw [List.cons_append, fractionPart, fractionPart]
        · exact notPoint others
        · exact notPoint (others ++ rest)

theorem exponentPart_append (text : List Char) :
    exponentPart (text ++ rest) = exponentPart text := by
  cases text with
  | nil =>
      cases rest with
      | nil => rfl
      | cons head others =>
          have notMark : (head == 'e' || head == 'E') = false :=
            not_of_isDelimiter (fun mark => mark == 'e' || mark == 'E') (by decide)
              (delimited head rfl)
          rw [List.nil_append, exponentPart, notMark]
          rfl
  | cons first others =>
      have signs := takeWhile_append_of_delimited delimited
        (fun character => character == '+' || character == '-') (by decide) others
      have within : (others.takeWhile fun character =>
          character == '+' || character == '-').length ≤ others.length :=
        (List.takeWhile_prefix _).length_le
      have digits := takeWhile_append_of_delimited delimited Char.isDigit (by decide)
        (others.drop (others.takeWhile fun character =>
          character == '+' || character == '-').length)
      simp only [List.cons_append, exponentPart, signs, List.drop_append_of_le_length within,
        digits]

/-- A number without its sign is read alike alone and before a delimiter. -/
theorem readUnsigned?_append (negative : Bool) (text : List Char) :
    readUnsigned? negative (text ++ rest) = readUnsigned? negative text := by
  have wholeWithin : (wholePart text).length ≤ text.length :=
    (isPrefix_wholePart text).length_le
  have fractionWithin :
      (wholePart text).length + (fractionPart (text.drop (wholePart text).length)).length ≤
        text.length := by
    have within := (isPrefix_fractionPart (text.drop (wholePart text).length)).length_le
    rw [List.length_drop] at within
    omega
  unfold readUnsigned?
  simp only [wholePart_append delimited, List.drop_append_of_le_length wholeWithin,
    fractionPart_append delimited, List.drop_append_of_le_length fractionWithin,
    exponentPart_append delimited]

theorem readNumber?_append {text : List Char} (some : text ≠ []) :
    readNumber? (text ++ rest) = readNumber? text := by
  cases text with
  | nil => exact absurd rfl some
  | cons first others =>
      by_cases isSign : first = '-'
      · subst isSign
        simp only [List.cons_append, readNumber?, readUnsigned?_append delimited]
      · have notSign (further : List Char) : ∀ tail, first :: further = '-' :: tail → False :=
          fun _ same => isSign (List.cons.inj same).1
        rw [List.cons_append, readNumber?, readNumber?, ← List.cons_append]
        · exact readUnsigned?_append delimited false (first :: others)
        · exact notSign others
        · exact notSign (others ++ rest)

end Delimited

/-! ## Tokens of scalars -/

theorem mark?_of_isScalarCharacter {character : Char}
    (scalar : isScalarCharacter character = true) : mark? character = none := by
  unfold mark?
  split
  · exact absurd scalar (by decide)
  · exact absurd scalar (by decide)
  · exact absurd scalar (by decide)
  · exact absurd scalar (by decide)
  · exact absurd scalar (by decide)
  · exact absurd scalar (by decide)
  · rfl

theorem ne_quote_of_isScalarCharacter {character : Char}
    (scalar : isScalarCharacter character = true) : character ≠ '"' := by
  rintro rfl
  exact absurd scalar (by decide)

/-- Where no quote and no mark stands, a named constant is tried first and then a number. -/
theorem firstToken_of_no_mark {first : Char} (noQuote : first ≠ '"')
    (noMark : mark? first = none) (offset : Nat) (rest : List Char) :
    firstToken offset (first :: rest) =
      match namedConstants.find? fun constant => constant.1.isPrefixOf (first :: rest) with
      | some constant => (.scalar constant.2, constant.1.length)
      | none => (readNumber? (first :: rest)).getD (.stray, 0) := by
  rw [firstToken]
  · cases isMark : mark? first with
    | none => rfl
    | some token =>
        rw [noMark] at isMark
        cases isMark
  · exact fun isQuote => noQuote isQuote

theorem firstToken_of_isScalarCharacter {first : Char} (scalar : isScalarCharacter first = true)
    (offset : Nat) (rest : List Char) :
    firstToken offset (first :: rest) =
      match namedConstants.find? fun constant => constant.1.isPrefixOf (first :: rest) with
      | some constant => (.scalar constant.2, constant.1.length)
      | none => (readNumber? (first :: rest)).getD (.stray, 0) :=
  firstToken_of_no_mark (ne_quote_of_isScalarCharacter scalar)
    (mark?_of_isScalarCharacter scalar) offset rest

theorem isPrefixOf_append_of_delimited {constant : List Char}
    (apart : ∀ character ∈ constant, isDelimiter character = false) {rest : List Char}
    (delimited : Delimited rest) (text : List Char) :
    constant.isPrefixOf (text ++ rest) = constant.isPrefixOf text := by
  induction constant generalizing text with
  | nil => simp
  | cons first others inductionHypothesis =>
      cases text with
      | nil =>
          cases rest with
          | nil => rfl
          | cons head further =>
              have differs : (first == head) = false := by
                rw [beq_eq_false_iff_ne]
                rintro rfl
                have ends := delimited first rfl
                rw [apart first List.mem_cons_self] at ends
                cases ends
              simp [List.isPrefixOf, differs]
      | cons head further =>
          have later := inductionHypothesis
            (fun character member => apart character (List.mem_cons_of_mem first member)) further
          simp only [List.cons_append, List.isPrefixOf, later]

theorem find?_namedConstants_append {rest : List Char} (delimited : Delimited rest)
    (text : List Char) :
    (namedConstants.find? fun constant => constant.1.isPrefixOf (text ++ rest)) =
      namedConstants.find? fun constant => constant.1.isPrefixOf text := by
  have allApart : namedConstants.all
      (fun constant => constant.1.all fun character => !isDelimiter character) = true := by
    decide
  refine List.find?_congr fun constant member => ?_
  have apart := List.all_eq_true.mp (List.all_eq_true.mp allApart constant member)
  simp only [Bool.not_eq_true'] at apart
  exact isPrefixOf_append_of_delimited apart delimited text

/-- A scalar is read alike by itself and before a delimiter, wherever it stands. -/
theorem SpellsScalar.firstToken_append {source rest : List Char} {value : Json}
    (spells : SpellsScalar source value) (delimited : Delimited rest) (offset : Nat) :
    firstToken offset (source ++ rest) = (.scalar value, source.length) := by
  obtain ⟨isToken, scalar⟩ := spells
  cases source with
  | nil => cases isToken
  | cons first others =>
      have begins := scalar first List.mem_cons_self
      have constants := find?_namedConstants_append delimited (first :: others)
      have number := readNumber?_append delimited (List.cons_ne_nil first others)
      rw [firstToken_of_isScalarCharacter begins] at isToken
      rw [List.cons_append] at constants number ⊢
      rw [firstToken_of_isScalarCharacter begins, constants, number]
      exact isToken

theorem isScalarCharacter_of_mem_null {character : Char} (member : character ∈ "null".toList) :
    isScalarCharacter character = true :=
  List.all_eq_true.mp (by decide) character member

theorem isScalarCharacter_of_mem_bool {value : Bool} {character : Char}
    (member : character ∈ (if value then "true" else "false").toList) :
    isScalarCharacter character = true := by
  cases value with
  | false => exact List.all_eq_true.mp (by decide) character member
  | true => exact List.all_eq_true.mp (by decide) character member

theorem spellsScalar_null : SpellsScalar "null".toList .null :=
  ⟨rfl, fun _ member => isScalarCharacter_of_mem_null member⟩

theorem spellsScalar_bool (value : Bool) :
    SpellsScalar (if value then "true" else "false").toList (.bool value) := by
  refine ⟨?_, fun _ member => isScalarCharacter_of_mem_bool member⟩
  cases value with
  | false => rfl
  | true => rfl

/-! ## Integers -/

theorem isScalarCharacter_of_isNumeralCharacter {character : Char}
    (numeral : isNumeralCharacter character = true) : isScalarCharacter character = true := by
  rw [isScalarCharacter, numeral, Bool.or_true]

theorem isScalarCharacter_of_mem_int {value : Int} {character : Char}
    (member : character ∈ (toString value).toList) : isScalarCharacter character = true :=
  isScalarCharacter_of_isNumeralCharacter (isNumeralCharacter_of_mem_int member)

/-- A text in the characters of numerals begins with none of the named constants, each of
which has a character that numerals lack. -/
theorem find?_namedConstants_of_numeral {source : List Char}
    (numeral : ∀ character ∈ source, isNumeralCharacter character = true) :
    (namedConstants.find? fun constant => constant.1.isPrefixOf source) = none := by
  have foreign : namedConstants.all
      (fun constant => constant.1.any fun character => !isNumeralCharacter character) = true := by
    decide
  rw [List.find?_eq_none]
  intro constant member isPrefix
  obtain ⟨character, inConstant, notNumeral⟩ :=
    List.any_eq_true.mp (List.all_eq_true.mp foreign constant member)
  have held := (List.isPrefixOf_iff_prefix.mp isPrefix).subset inConstant
  rw [numeral character held] at notNumeral
  cases notNumeral

theorem head?_toDigits {value : Nat} (positive : value ≠ 0) :
    (Nat.toDigits 10 value).head? ≠ some '0' := by
  induction value using Nat.strongRecOn with
  | ind value inductionHypothesis =>
      by_cases small : value < 10
      · rw [Nat.toDigits_of_lt_base small]
        have digits : ∀ digit < 10, digit ≠ 0 → [digit.digitChar].head? ≠ some '0' := by
          decide
        exact digits value small positive
      · have large : 10 ≤ value := by omega
        have quotient := inductionHypothesis (value / 10) (by omega) (by omega)
        rw [Nat.toDigits_of_base_le (by decide) large]
        cases isDigits : Nat.toDigits 10 (value / 10) with
        | nil => exact absurd isDigits Nat.toDigits_ne_nil
        | cons first others =>
            rw [isDigits] at quotient
            exact quotient

theorem wholePart_toDigits (value : Nat) :
    wholePart (Nat.toDigits 10 value) = Nat.toDigits 10 value := by
  by_cases isZero : value = 0
  · rw [isZero]
    rfl
  · have allDigits : ∀ digit ∈ Nat.toDigits 10 value, digit.isDigit = true :=
      fun _ member => Nat.isDigit_of_mem_toDigits (by decide) (by decide) member
    rw [wholePart]
    · exact List.takeWhile_eq_self_iff.mpr allDigits
    · intro rest isDigits
      exact head?_toDigits isZero (by rw [isDigits]; rfl)

theorem digitsValue_toDigits (value : Nat) : digitsValue (Nat.toDigits 10 value) = value :=
  Nat.ofDigitChars_toDigits (by decide) (by decide)

/-- The digits of a number within the limit on digits are read as that number. -/
theorem readUnsigned?_toDigits (negative : Bool) {value : Nat}
    (fits : (Nat.toDigits 10 value).length ≤ integerDigitLimit) :
    readUnsigned? negative (Nat.toDigits 10 value) =
      some (.scalar (.int (if negative then -(value : Int) else value)),
        (Nat.toDigits 10 value).length) := by
  have someDigits : (Nat.toDigits 10 value).isEmpty = false := by
    rw [List.isEmpty_eq_false_iff]
    exact Nat.toDigits_ne_nil
  unfold readUnsigned?
  simp only [wholePart_toDigits, someDigits, List.drop_length, digitsValue_toDigits,
    fractionPart, exponentPart, List.isEmpty_nil, Bool.and_self, if_true, List.length_nil,
    Nat.add_zero, if_neg (Nat.not_lt.mpr fits)]
  rfl

/-- The text of an integer within the limit on digits is read as that integer. -/
theorem spellsScalar_int {value : Int}
    (fits : (Nat.toDigits 10 value.natAbs).length ≤ integerDigitLimit) :
    SpellsScalar (toString value).toList (.int value) := by
  have numeral : ∀ character ∈ (toString value).toList, isNumeralCharacter character = true :=
    fun _ member => isNumeralCharacter_of_mem_int member
  refine ⟨?_, fun character member =>
    isScalarCharacter_of_isNumeralCharacter (numeral character member)⟩
  have noConstant := find?_namedConstants_of_numeral numeral
  have isNumber : readNumber? (toString value).toList =
      some (.scalar (.int value), (toString value).toList.length) := by
    rw [toList_toString_int]
    by_cases negative : value < 0
    · have isValue : -(value.natAbs : Int) = value := by omega
      rw [if_pos negative, List.cons_append, List.nil_append, readNumber?,
        readUnsigned?_toDigits true fits, if_pos rfl, isValue]
      rfl
    · have isValue : (value.natAbs : Int) = value := by omega
      have noSign : ∀ rest, Nat.toDigits 10 value.natAbs = '-' :: rest → False := by
        intro rest isDigits
        have digit : '-'.isDigit = true := by
          refine Nat.isDigit_of_mem_toDigits (b := 10) (n := value.natAbs) (by decide) (by decide) ?_
          rw [isDigits]
          exact List.mem_cons_self
        exact absurd digit (by decide)
      rw [if_neg negative, List.nil_append, readNumber?]
      · rw [readUnsigned?_toDigits false fits, if_neg Bool.false_ne_true, isValue]
      · exact noSign
  cases isText : (toString value).toList with
  | nil =>
      rw [isText] at isNumber
      cases isNumber
  | cons first others =>
      have begins := isScalarCharacter_of_isNumeralCharacter
        (numeral first (by rw [isText]; exact List.mem_cons_self))
      rw [isText] at noConstant isNumber
      rw [firstToken_of_isScalarCharacter begins, noConstant, isNumber]
      rfl

end StaticSite.Json
