import StaticSite.Json.Reader
import StaticSite.Proofs.Json.Data
import StaticSite.Proofs.Json.Scalar
import StaticSite.Proofs.Text.Blank

/-!
Contract: what reading a JSON text leaves.

Owns:
- the scalars that tokens hold, and how much of a text a number takes;
- values whose integers are within the limit on digits;
- regular values, which besides have no object that repeats a name;
- what every step of a reading keeps, as a law of the value of a text;
- the law that every value that is read is regular;
- the law that no value is read from a blank text.

Does not own: which value a text is read as (see `StaticSite.Proofs.Json.Denotation`).
-/

namespace StaticSite.Json

open StaticSite.Number

variable {halves : Text.Halves}

/-! ## Scalars of tokens -/

/-- Whether a value is a scalar as a token can hold it. -/
inductive IsReadScalar : Json → Prop where
  | null : IsReadScalar .null
  | bool (value : Bool) : IsReadScalar (.bool value)
  | int (value : Int) (fits : (Nat.toDigits 10 value.natAbs).length ≤ integerDigitLimit) :
      IsReadScalar (.int value)
  | real (number : Binary64) : IsReadScalar (.real number)

/-- Whether a token is a scalar or an attempt at one. -/
inductive IsScalarToken : Token → Prop where
  | scalar {value : Json} (isScalar : IsReadScalar value) : IsScalarToken (.scalar value)
  | malformed (error : ReadError) : IsScalarToken (.malformedNumber error)
  | stray : IsScalarToken .stray

/-- The number that some digits denote has at most as many digits. -/
theorem length_toDigits_digitsValue_le {digits : List Char} (some : digits ≠ [])
    (allDigits : ∀ digit ∈ digits, digit.isDigit = true) :
    (Nat.toDigits 10 (digitsValue digits)).length ≤ digits.length := by
  rw [Nat.length_toDigits_le_iff (by decide) (List.length_pos_iff.mpr some)]
  -- The bound is carried through the fold for every value that it may start from.
  have bounded : ∀ start, digits.foldl (fun value digit => 10 * value + (digit.toNat - 48)) start <
      (start + 1) * 10 ^ digits.length := by
    clear some
    induction digits with
    | nil => simp
    | cons digit others inductionHypothesis =>
        intro start
        have small : digit.toNat - 48 < 10 := by
          have isDigit := allDigits digit List.mem_cons_self
          have zero : '0'.toNat = 48 := rfl
          have nine : '9'.toNat = 57 := rfl
          rw [Char.isDigit_iff_toNat] at isDigit
          omega
        have later := inductionHypothesis
          (fun other member => allDigits other (List.mem_cons_of_mem digit member))
          (10 * start + (digit.toNat - 48))
        have grown : (10 * start + (digit.toNat - 48) + 1) * 10 ^ others.length ≤
            ((start + 1) * 10) * 10 ^ others.length :=
          Nat.mul_le_mul_right _ (by omega)
        rw [List.foldl_cons, List.length_cons, Nat.pow_succ']
        calc _ < (10 * start + (digit.toNat - 48) + 1) * 10 ^ others.length := later
          _ ≤ ((start + 1) * 10) * 10 ^ others.length := grown
          _ = (start + 1) * (10 * 10 ^ others.length) := Nat.mul_assoc _ _ _
  have fromZero := bounded 0
  rw [Nat.zero_add, Nat.one_mul] at fromZero
  exact fromZero

theorem isDigit_of_mem_wholePart {source : List Char} :
    ∀ digit ∈ wholePart source, digit.isDigit = true := by
  unfold wholePart
  split
  · intro digit member
    rw [List.mem_singleton.mp member]
    rfl
  · exact fun digit member => List.mem_takeWhile_imp member

/-- A number takes no more characters than there are, and its token is a number or an
error. -/
theorem readUnsigned?_eq_some {negative : Bool} {source : List Char} {token : Token}
    {length : Nat} (isRead : readUnsigned? negative source = some (token, length)) :
    IsScalarToken token ∧ length ≤ source.length := by
  have wholeWithin := (isPrefix_wholePart source).length_le
  have fractionWithin :=
    (isPrefix_fractionPart (source.drop (wholePart source).length)).length_le
  have exponentWithin := (isPrefix_exponentPart (source.drop ((wholePart source).length +
    (fractionPart (source.drop (wholePart source).length)).length))).length_le
  rw [List.length_drop] at fractionWithin exponentWithin
  cases noDigits : (wholePart source).isEmpty with
  | true =>
      simp only [readUnsigned?, noDigits, if_true] at isRead
      cases isRead
  | false =>
      simp only [readUnsigned?, noDigits, Bool.false_eq_true, if_false] at isRead
      obtain ⟨isToken, isLength⟩ := Prod.mk.inj (Option.some.inj isRead)
      refine ⟨?_, by omega⟩
      rw [← isToken]
      split
      · split
        · exact .malformed _
        · have short := length_toDigits_digitsValue_le (List.isEmpty_eq_false_iff.mp noDigits)
            isDigit_of_mem_wholePart
          have isSize : (if negative = true then -(digitsValue (wholePart source) : Int) else
              digitsValue (wholePart source)).natAbs = digitsValue (wholePart source) := by
            split <;> omega
          refine .scalar (.int _ ?_)
          rw [isSize]
          omega
      · exact .scalar (.real _)

theorem readNumber?_eq_some {source : List Char} {token : Token} {length : Nat}
    (isRead : readNumber? source = some (token, length)) :
    IsScalarToken token ∧ length ≤ source.length := by
  unfold readNumber? at isRead
  split at isRead
  · rename_i rest
    obtain ⟨⟨token', length'⟩, isUnsigned, same⟩ := Option.map_eq_some_iff.mp isRead
    obtain ⟨rfl, rfl⟩ := Prod.mk.inj same
    have inside := readUnsigned?_eq_some isUnsigned
    exact ⟨inside.1, Nat.add_le_add_right inside.2 1⟩
  · exact readUnsigned?_eq_some isRead

theorem isReadScalar_namedConstants :
    ∀ constant ∈ namedConstants, IsReadScalar constant.2 := by
  simp only [namedConstants, List.forall_mem_cons]
  exact ⟨.null, .bool _, .bool _, .real _, .real _, .real _, fun _ member => by cases member⟩

/-- Where no mark and no quote stands, a scalar is tried. -/
theorem isScalarToken_firstToken {first : Char} {rest : List Char} {token : Token}
    {offset length : Nat} (noQuote : first ≠ '"') (noMark : mark? first = none)
    (isToken : firstToken offset (first :: rest) = (token, length)) :
    IsScalarToken token ∧ length ≤ (first :: rest).length := by
  rw [firstToken_of_no_mark noQuote noMark] at isToken
  split at isToken
  · rename_i constant isFound
    obtain ⟨rfl, rfl⟩ := Prod.mk.inj isToken
    have isPrefix := List.find?_some isFound
    have listed := List.mem_of_find?_eq_some isFound
    exact ⟨.scalar (isReadScalar_namedConstants constant listed),
      (List.isPrefixOf_iff_prefix.mp isPrefix).length_le⟩
  · cases isNumber : readNumber? (first :: rest) with
    | none =>
        rw [isNumber] at isToken
        obtain ⟨rfl, rfl⟩ := Prod.mk.inj isToken
        exact ⟨.stray, Nat.zero_le _⟩
    | some result =>
        rw [isNumber, Option.getD_some] at isToken
        rw [isToken] at isNumber
        exact readNumber?_eq_some isNumber

theorem isScalarToken_of_isScalarCharacter {first : Char} {rest : List Char} {token : Token}
    {offset length : Nat} (scalar : isScalarCharacter first = true)
    (isToken : firstToken offset (first :: rest) = (token, length)) :
    IsScalarToken token ∧ length ≤ (first :: rest).length :=
  isScalarToken_firstToken (ne_quote_of_isScalarCharacter scalar)
    (mark?_of_isScalarCharacter scalar) isToken

/-- A token that holds a scalar is one of the named constants or a number. -/
theorem isReadScalar_of_firstToken {offset length : Nat} {source : List Char} {value : Json}
    (isToken : firstToken offset source = (.scalar value, length)) : IsReadScalar value := by
  cases source with
  | nil => cases isToken
  | cons first rest =>
      by_cases isQuote : first = '"'
      · rw [isQuote, firstToken] at isToken
        split at isToken
        · cases isToken
        · cases isToken
      · cases isMark : mark? first with
        | some token =>
            have isFirst : firstToken offset (first :: rest) = (token, 1) := by
              rw [firstToken]
              · rw [isMark]
              · exact fun same => isQuote same
            rw [isFirst] at isToken
            rw [(Prod.mk.inj isToken).1] at isMark
            unfold mark? at isMark
            split at isMark
            all_goals cases isMark
        | none =>
            cases (isScalarToken_firstToken isQuote isMark isToken).1 with
            | scalar isScalar => exact isScalar

/-- A text that is given by its characters is read without taking it apart first. -/
theorem read_ofList (source : List Char) : read (String.ofList source) = readCharacters source := by
  rw [read, String.toList_ofList]

/-! ## Regular values -/

/-- Whether all integers in a value are within the limit on digits. -/
def HasShortIntegers (value : Json) : Prop :=
  ∀ number, Occurs (.int number) value →
    (Nat.toDigits 10 number.natAbs).length ≤ integerDigitLimit

/-- Whether a value, apart from the values in it, is as reading leaves it. -/
def IsRegularPart : Json → Prop
  | int value => (Nat.toDigits 10 value.natAbs).length ≤ integerDigitLimit
  | object members => (members.map Prod.fst).Nodup
  | _ => True

/-- Whether no object in a value repeats a name and all integers are within the limit on
digits. -/
def IsRegular (value : Json) : Prop :=
  ∀ part, Occurs part value → part.IsRegularPart

theorem IsRegular.hasShortIntegers {value : Json} (regular : value.IsRegular) :
    value.HasShortIntegers :=
  fun number occurs => regular (.int number) occurs

theorem isRegular_of_isReadScalar {value : Json} (isScalar : IsReadScalar value) :
    value.IsRegular := by
  intro part occurs
  cases isScalar <;> cases occurs
  case null => trivial
  case bool => trivial
  case int fits => exact fits
  case real => trivial

theorem isRegular_text (text : String) : (Json.text text).IsRegular := by
  intro part occurs
  cases occurs
  trivial

theorem isRegular_array_iff {items : List Json} :
    (array items).IsRegular ↔ ∀ item ∈ items, item.IsRegular := by
  simp only [IsRegular, occurs_array_iff]
  constructor
  · intro regular item member part occurs
    exact regular part (Or.inr ⟨item, member, occurs⟩)
  · rintro regular part (rfl | ⟨item, member, occurs⟩)
    · trivial
    · exact regular item member part occurs

/-- Whether the values of some members are regular. -/
def AreRegular (members : Members) : Prop :=
  ∀ name value, (name, value) ∈ members → value.IsRegular

theorem areRegular_nil : AreRegular [] := by
  intro name value member
  cases member

theorem areRegular_cons {name : String} {value : Json} {members : Members}
    (regular : value.IsRegular) (others : AreRegular members) :
    AreRegular ((name, value) :: members) := by
  intro name value member
  rcases List.mem_cons.mp member with same | later
  · rw [(Prod.mk.inj same).2]
    exact regular
  · exact others name value later

theorem isRegular_object_iff {members : Members} :
    (object members).IsRegular ↔ (members.map Prod.fst).Nodup ∧ AreRegular members := by
  simp only [IsRegular, AreRegular, occurs_object_iff]
  constructor
  · intro regular
    exact ⟨regular _ (Or.inl rfl), fun name value member part occurs =>
      regular part (Or.inr ⟨name, value, member, occurs⟩)⟩
  · rintro ⟨distinct, regular⟩ part (rfl | ⟨name, value, member, occurs⟩)
    · exact distinct
    · exact regular name value member part occurs

theorem isRegular_ofBindings {bindings : Members} (regular : AreRegular bindings) :
    (object (Association.ofBindings bindings)).IsRegular :=
  isRegular_object_iff.mpr ⟨Association.nodup_names_ofBindings bindings,
    fun name value member => regular name value (Association.mem_of_mem_ofBindings member)⟩

/-! ## Steps and runs -/

/-- Whether the values that an open container holds so far are regular. -/
def Frame.IsRegular : Frame → Prop
  | .array items => ∀ item ∈ items, item.IsRegular
  | .object members _ => AreRegular members

/-- Whether the values that have been read at a point of a reading are regular. -/
def Expectation.IsRegular : Expectation → Prop
  | .name members => AreRegular members
  | .colon members _ => AreRegular members
  | .continuation held => held.IsRegular
  | _ => True

/-- Whether all values that a reading has read are regular. -/
def Reading.IsRegular : Reading → Prop
  | .open expectation frames => expectation.IsRegular ∧ ∀ frame ∈ frames, frame.IsRegular
  | .complete value => value.IsRegular

/-- Whether what a token holds, if it is no text, is a scalar that was read. -/
def Token.HoldsReadScalar : Token → Prop
  | .scalar value => IsReadScalar value
  | _ => True

theorem holdsReadScalar_of_firstToken {offset length : Nat} {source : List Char} {token : Token}
    (isToken : firstToken offset source = (token, length)) : token.HoldsReadScalar := by
  cases token with
  | scalar value => exact isReadScalar_of_firstToken isToken
  | _ => trivial

theorem holdsReadScalar_of_mem_tokensFrom {offset : Nat} {source : List Char}
    {placed : PlacedToken} (member : placed ∈ tokensFrom offset source) :
    placed.token.HoldsReadScalar := by
  induction offset, source using tokensFrom.induct with
  | case1 offset =>
      rw [tokensFrom, List.mem_singleton] at member
      rw [member]
      trivial
  | case2 offset character rest blank inductionHypothesis =>
      rw [tokensFrom, if_pos blank] at member
      exact inductionHypothesis member
  | case3 offset character rest notBlank token isToken =>
      rw [tokensFrom, if_neg notBlank, isToken, List.mem_singleton] at member
      rw [member]
      exact holdsReadScalar_of_firstToken isToken
  | case4 offset character rest notBlank token length isToken inductionHypothesis =>
      rw [tokensFrom, if_neg notBlank, isToken] at member
      rcases List.mem_cons.mp member with isFirst | later
      · rw [isFirst]
        exact holdsReadScalar_of_firstToken isToken
      · exact inductionHypothesis later

/-- What every step of a reading keeps holds of what a run gives. -/
theorem holds_run {Holds : Reading → Prop} {tokens : List PlacedToken}
    (kept : ∀ placed ∈ tokens, ∀ reading next, Holds reading →
      Reading.step placed reading = .ok next → Holds next)
    {reading : Reading} (holds : Holds reading) {value : Json}
    (isRun : Reading.run tokens reading = .ok value) : Holds (.complete value) := by
  induction tokens generalizing reading with
  | nil =>
      cases reading with
      | complete result =>
          cases isRun
          exact holds
      | «open» expectation frames => cases isRun
  | cons first others inductionHypothesis =>
      obtain ⟨keptFirst, keptOthers⟩ := List.forall_mem_cons.mp kept
      rw [Reading.run] at isRun
      cases isStep : reading.step first with
      | error error =>
          rw [isStep] at isRun
          cases isRun
      | ok next =>
          rw [isStep] at isRun
          exact inductionHypothesis keptOthers (keptFirst reading next holds isStep) isRun

/-- What holds at the start and is kept by every step holds of the value of a text. -/
theorem holds_of_read (Holds : Reading → Prop)
    (kept : ∀ placed : PlacedToken, placed.token.HoldsReadScalar → ∀ reading next,
      Holds reading → Reading.step placed reading = .ok next → Holds next)
    (start : Holds (.open .value [])) {source : String} {value : Json}
    (isRead : read source = .ok value) : Holds (.complete value) := by
  unfold read readCharacters at isRead
  split at isRead
  · cases isRead
  · exact holds_run (fun placed member => kept placed (holdsReadScalar_of_mem_tokensFrom member))
      start isRead

section Step

variable {placed : PlacedToken} {frames : List Frame} {next : Reading}
  (ofScalar : placed.token.HoldsReadScalar) (regularFrames : ∀ frame ∈ frames, frame.IsRegular)
include regularFrames

include ofScalar in
theorem isRegular_beginValue (isStep : beginValue placed frames = .ok next) : next.IsRegular := by
  unfold beginValue at isStep
  split at isStep
  · cases isStep
    exact ⟨isRegular_text _, regularFrames⟩
  · rename_i value isToken
    cases isStep
    rw [isToken] at ofScalar
    exact ⟨isRegular_of_isReadScalar ofScalar, regularFrames⟩
  · split at isStep
    · cases isStep
      exact ⟨trivial, regularFrames⟩
    · cases isStep
  · split at isStep
    · cases isStep
      exact ⟨trivial, regularFrames⟩
    · cases isStep
  · cases isStep
  · cases isStep
  · cases isStep

theorem isRegular_beginMember {members : Members} (regular : AreRegular members)
    (isStep : beginMember placed members frames = .ok next) : next.IsRegular := by
  unfold beginMember at isStep
  split at isStep
  · cases isStep
    exact ⟨regular, regularFrames⟩
  · cases isStep
  · cases isStep

theorem isRegular_continueAfter {value : Json} (regular : value.IsRegular)
    (isStep : continueAfter value placed frames = .ok next) : next.IsRegular := by
  unfold continueAfter at isStep
  split at isStep
  · split at isStep
    · cases isStep
      exact regular
    · cases isStep
  · rename_i items outer
    obtain ⟨regularItems, regularOuter⟩ := List.forall_mem_cons.mp regularFrames
    have regularAll : ∀ item ∈ value :: items, item.IsRegular :=
      List.forall_mem_cons.mpr ⟨regular, regularItems⟩
    split at isStep
    · cases isStep
      exact ⟨trivial, List.forall_mem_cons.mpr ⟨regularAll, regularOuter⟩⟩
    · cases isStep
      refine ⟨isRegular_array_iff.mpr fun item member => ?_, regularOuter⟩
      exact regularAll item (List.mem_reverse.mp member)
    · cases isStep
  · rename_i members name outer
    obtain ⟨regularMembers, regularOuter⟩ := List.forall_mem_cons.mp regularFrames
    have regularAll : AreRegular ((name, value) :: members) :=
      areRegular_cons regular regularMembers
    split at isStep
    · cases isStep
      exact ⟨regularAll, regularOuter⟩
    · cases isStep
      refine ⟨isRegular_ofBindings fun name value member => ?_, regularOuter⟩
      exact regularAll name value (List.mem_reverse.mp member)
    · cases isStep

end Step

theorem isRegular_step {placed : PlacedToken} {reading next : Reading}
    (ofScalar : placed.token.HoldsReadScalar) (regular : reading.IsRegular)
    (isStep : reading.step placed = .ok next) : next.IsRegular := by
  cases reading with
  | complete value => cases isStep
  | «open» expectation frames =>
      obtain ⟨regularHere, regularFrames⟩ := regular
      cases expectation with
      | value => exact isRegular_beginValue ofScalar regularFrames isStep
      | firstItem =>
          have regularInside : ∀ frame ∈ Frame.array [] :: frames, frame.IsRegular :=
            List.forall_mem_cons.mpr ⟨fun _ member => absurd member List.not_mem_nil,
              regularFrames⟩
          simp only [Reading.step] at isStep
          split at isStep
          · cases isStep
            exact ⟨isRegular_array_iff.mpr fun _ member => absurd member List.not_mem_nil,
              regularFrames⟩
          · exact isRegular_beginValue ofScalar regularInside isStep
      | firstName =>
          simp only [Reading.step] at isStep
          split at isStep
          · cases isStep
            exact ⟨isRegular_object_iff.mpr ⟨List.nodup_nil, areRegular_nil⟩, regularFrames⟩
          · exact isRegular_beginMember regularFrames areRegular_nil isStep
      | name members => exact isRegular_beginMember regularFrames regularHere isStep
      | colon members name =>
          simp only [Reading.step] at isStep
          split at isStep
          · cases isStep
            exact ⟨trivial, List.forall_mem_cons.mpr ⟨regularHere, regularFrames⟩⟩
          · cases isStep
      | continuation value => exact isRegular_continueAfter regularFrames regularHere isStep

theorem isRegular_of_read {source : String} {value : Json} (isRead : read source = .ok value) :
    value.IsRegular :=
  holds_of_read Reading.IsRegular
    (fun _ ofScalar _ _ regular isStep => isRegular_step ofScalar regular isStep)
    ⟨trivial, fun _ member => absurd member List.not_mem_nil⟩ isRead

/-! ## Blank texts -/

theorem notBlank_of_mem_namedConstants : ∀ constant ∈ namedConstants,
    ∃ first rest, constant.1 = first :: rest ∧ Text.isBlank first = false := by
  simp only [namedConstants, List.forall_mem_cons]
  exact ⟨⟨_, _, rfl, by decide⟩, ⟨_, _, rfl, by decide⟩, ⟨_, _, rfl, by decide⟩,
    ⟨_, _, rfl, by decide⟩, ⟨_, _, rfl, by decide⟩, ⟨_, _, rfl, by decide⟩,
    fun _ member => by cases member⟩

theorem firstToken_of_isBlank {character : Char} (blank : Text.isBlank character = true)
    (offset : Nat) (rest : List Char) : firstToken offset (character :: rest) = (.stray, 0) := by
  have noMark : mark? character = none := by
    unfold mark?
    split
    · exact absurd rfl (Text.ne_of_isBlank blank (by decide))
    · exact absurd rfl (Text.ne_of_isBlank blank (by decide))
    · exact absurd rfl (Text.ne_of_isBlank blank (by decide))
    · exact absurd rfl (Text.ne_of_isBlank blank (by decide))
    · exact absurd rfl (Text.ne_of_isBlank blank (by decide))
    · exact absurd rfl (Text.ne_of_isBlank blank (by decide))
    · rfl
  have noConstant : (namedConstants.find? fun constant =>
      constant.1.isPrefixOf (character :: rest)) = none := by
    refine List.find?_eq_none.mpr fun constant listed begins => ?_
    obtain ⟨first, others, isConstant, notBlank⟩ := notBlank_of_mem_namedConstants constant listed
    rw [isConstant, List.isPrefixOf_iff_prefix, List.cons_prefix_cons] at begins
    exact Text.ne_of_isBlank blank notBlank begins.1.symm
  have noNumber : readNumber? (character :: rest) = none := by
    have noWhole : wholePart (character :: rest) = [] := by
      unfold wholePart
      split
      · rename_i isZero
        exact absurd (List.cons.inj isZero).1 (Text.ne_of_isBlank blank (by decide))
      · rw [List.takeWhile_cons_of_neg (by simp [Text.isDigit_of_isBlank blank])]
    unfold readNumber?
    split
    · rename_i isSign
      exact absurd (List.cons.inj isSign).1 (Text.ne_of_isBlank blank (by decide))
    · simp only [readUnsigned?, noWhole, List.isEmpty_nil, if_true]
  rw [firstToken_of_no_mark (Text.ne_of_isBlank blank (by decide)) noMark, noConstant]
  simp only [noNumber, Option.getD_none]

theorem exists_error_of_blank_tokens {source : List Char}
    (blank : ∀ character ∈ source, Text.isBlank character = true) (offset : Nat) :
    ∃ error, Reading.run (tokensFrom offset source) (.open .value []) = .error error := by
  induction source generalizing offset with
  | nil =>
      rw [tokensFrom]
      exact ⟨_, rfl⟩
  | cons character rest inductionHypothesis =>
      obtain ⟨blankFirst, blankRest⟩ := List.forall_mem_cons.mp blank
      rw [tokensFrom, firstToken_of_isBlank blankFirst]
      split
      · exact inductionHypothesis blankRest _
      · exact ⟨_, rfl⟩

theorem exists_error_of_strip_eq_empty {source : String} (blank : Text.strip source = "") :
    ∃ error, read source = .error error := by
  unfold read readCharacters
  split
  · exact ⟨_, rfl⟩
  · exact exists_error_of_blank_tokens (Text.strip_eq_empty_iff.mp blank) 0

end StaticSite.Json
