import Mathlib.Data.List.Chain
import StaticSite.Json.Token
import StaticSite.Json.Writer

/-!
Contract: quoted texts of JSON and what they spell.

Owns:
- the ways to spell a text between quotes: characters as they are, escapes with one letter,
  and escapes with a code unit or with a surrogate pair;
- reading a spelling as the text that it spells;
- the spelling that the writer chooses, for texts in which no two halves in a row would pair.

What a code unit spells depends on what stands in texts for halves that are not part of a pair.

Does not own: where quoted texts stand (see `StaticSite.Proofs.Json.Denotation`).
-/

namespace StaticSite.Json

/-- Whether some characters begin with the escape of the second half of a surrogate pair. -/
def BeginsWithSecondHalf (source : List Char) : Prop :=
  ∃ first second third fourth half rest,
    source = '\\' :: 'u' :: first :: second :: third :: fourth :: rest ∧
      hexQuad? first second third fourth = some half ∧ Text.isLowSurrogate half = true

/-- Whether some characters, between quotes, spell a text. -/
inductive Spells [Text.Halves] : List Char → List Char → Prop where
  | nothing : Spells [] []
  | plain {character : Char} {source text : List Char} (printed : 32 ≤ character.toNat)
      (noQuote : character ≠ '"') (noBackslash : character ≠ '\\') (rest : Spells source text) :
      Spells (character :: source) (character :: text)
  | letter {letter character : Char} {source text : List Char}
      (known : simpleEscape? letter = some character) (rest : Spells source text) :
      Spells ('\\' :: letter :: source) (character :: text)
  | unit {first second third fourth : Char} {unit : Nat} {source text : List Char}
      (digits : hexQuad? first second third fourth = some unit)
      (alone : Text.isHighSurrogate unit = true → ¬ BeginsWithSecondHalf source)
      (rest : Spells source text) :
      Spells ('\\' :: 'u' :: first :: second :: third :: fourth :: source)
        (Text.characterOfUnit unit :: text)
  | pair {first second third fourth fifth sixth seventh eighth : Char} {high low : Nat}
      {source text : List Char} (highDigits : hexQuad? first second third fourth = some high)
      (lowDigits : hexQuad? fifth sixth seventh eighth = some low)
      (isHigh : Text.isHighSurrogate high = true) (isLow : Text.isLowSurrogate low = true)
      (rest : Spells source text) :
      Spells ('\\' :: 'u' :: first :: second :: third :: fourth ::
          '\\' :: 'u' :: fifth :: sixth :: seventh :: eighth :: source)
        (Text.characterOfPair high low :: text)

/-- Whether two characters stand for the halves of a surrogate pair, which are read as the pair
where both are written as escapes. -/
def WouldPair [Text.Halves] (first second : Char) : Prop :=
  (Text.Halves.half? first).any Text.isHighSurrogate = true ∧
    (Text.Halves.half? second).any Text.isLowSurrogate = true

instance [Text.Halves] (first second : Char) : Decidable (WouldPair first second) :=
  inferInstanceAs (Decidable (_ ∧ _))

/-- Whether no two characters in a row would pair. -/
def KeepsHalvesApart [Text.Halves] (text : List Char) : Prop :=
  text.IsChain fun first second => ¬ WouldPair first second

instance [Text.Halves] (text : List Char) : Decidable (KeepsHalvesApart text) :=
  inferInstanceAs (Decidable (text.IsChain _))

variable {halves : Text.Halves}

/-! ## Reading a spelling -/

theorem readQuoted_plain {character : Char} (printed : 32 ≤ character.toNat)
    (noQuote : character ≠ '"') (noBackslash : character ≠ '\\') (opening offset : Nat)
    (decoded rest : List Char) :
    readQuoted opening offset decoded (character :: rest) =
      readQuoted opening (offset + 1) (character :: decoded) rest := by
  rw [readQuoted]
  · rw [if_neg (Nat.not_lt.mpr printed)]
  · exact fun isQuote => noQuote isQuote
  · exact fun isBackslash _ => noBackslash isBackslash
  · exact fun _ _ _ _ _ _ isBackslash _ => noBackslash isBackslash
  · exact fun _ isBackslash _ => noBackslash isBackslash
  · exact fun _ _ isBackslash _ => noBackslash isBackslash

theorem readQuoted_letter {letter character : Char}
    (known : simpleEscape? letter = some character) (opening offset : Nat)
    (decoded rest : List Char) :
    readQuoted opening offset decoded ('\\' :: letter :: rest) =
      readQuoted opening (offset + 2) (character :: decoded) rest := by
  have notUnit : letter ≠ 'u' := by
    intro isUnit
    have unknown : simpleEscape? 'u' = none := rfl
    rw [isUnit, unknown] at known
    cases known
  rw [readQuoted]
  · rw [known]
  · exact fun _ _ _ _ _ _ isUnit _ => notUnit isUnit
  · exact fun isUnit => notUnit isUnit

theorem followingHalf?_of_not_high {unit : Nat} (notHigh : Text.isHighSurrogate unit = false)
    (offset : Nat) (source : List Char) : followingHalf? unit offset source = .ok none := by
  unfold followingHalf?
  split
  · rw [notHigh]
    rfl
  · rfl

/-- No half is found where the escape of another unit follows. -/
theorem followingHalf?_of_not_low {first second third fourth : Char} {half : Nat}
    {rest : List Char} (digits : hexQuad? first second third fourth = some half)
    (notLow : Text.isLowSurrogate half = false) (goesOn : rest ≠ []) (unit offset : Nat) :
    followingHalf? unit offset
      ('\\' :: 'u' :: first :: second :: third :: fourth :: rest) = .ok none := by
  cases rest with
  | nil => exact absurd rfl goesOn
  | cons next others =>
      simp only [followingHalf?, digits, notLow, Bool.false_eq_true, if_false, ite_self]

theorem isLowSurrogate_of_isHighSurrogate {unit : Nat}
    (isHigh : Text.isHighSurrogate unit = true) : Text.isLowSurrogate unit = false := by
  simp only [Text.isHighSurrogate, Text.isLowSurrogate, Bool.and_eq_true, decide_eq_true_eq,
    Bool.and_eq_false_iff, decide_eq_false_iff_not] at isHigh ⊢
  omega

theorem append_quote_ne_nil (source rest : List Char) : source ++ '"' :: rest ≠ [] := by
  simp

/-- No half is found in a spelling that does not begin with the escape of one. -/
theorem followingHalf?_of_spells {source text : List Char} (spells : Spells source text)
    (notSecond : ¬ BeginsWithSecondHalf source) (unit offset : Nat) (rest : List Char) :
    followingHalf? unit offset (source ++ '"' :: rest) = .ok none := by
  cases spells with
  | nothing => rfl
  | plain _ _ noBackslash _ =>
      rw [List.cons_append, followingHalf?]
      exact fun _ _ _ _ _ _ isEscape => noBackslash (List.cons.inj isEscape).1
  | @letter letter _ _ _ known _ =>
      have notUnit : letter ≠ 'u' := by
        rintro rfl
        cases known
      rw [List.cons_append, List.cons_append, followingHalf?]
      exact fun _ _ _ _ _ _ isEscape =>
        notUnit (List.cons.inj (List.cons.inj isEscape).2).1
  | @unit _ _ _ _ unit source _ digits _ _ =>
      have notLow : Text.isLowSurrogate unit = false := by
        rw [← Bool.not_eq_true]
        exact fun isLow => notSecond ⟨_, _, _, _, unit, source, rfl, digits, isLow⟩
      exact followingHalf?_of_not_low digits notLow (append_quote_ne_nil source rest) _ _
  | pair highDigits _ isHigh _ _ =>
      have notLow := isLowSurrogate_of_isHighSurrogate isHigh
      exact followingHalf?_of_not_low highDigits notLow (List.cons_ne_nil _ _) _ _

/-- Four digits are an escape only where the text goes on after them. -/
theorem readQuoted_unit {first second third fourth : Char} {unit opening offset : Nat}
    {decoded rest : List Char} (digits : hexQuad? first second third fourth = some unit)
    (goesOn : rest ≠ []) (alone : followingHalf? unit (offset + 6) rest = .ok none) :
    readQuoted opening offset decoded
        ('\\' :: 'u' :: first :: second :: third :: fourth :: rest) =
      readQuoted opening (offset + 6) (Text.characterOfUnit unit :: decoded) rest := by
  cases rest with
  | nil => exact absurd rfl goesOn
  | cons next others =>
      rw [readQuoted, digits]
      simp only [alone]

theorem readQuoted_pair {first second third fourth fifth sixth seventh eighth : Char}
    {high low : Nat} {rest : List Char}
    (highDigits : hexQuad? first second third fourth = some high)
    (lowDigits : hexQuad? fifth sixth seventh eighth = some low)
    (isHigh : Text.isHighSurrogate high = true) (isLow : Text.isLowSurrogate low = true)
    (goesOn : rest ≠ []) (opening offset : Nat) (decoded : List Char) :
    readQuoted opening offset decoded
        ('\\' :: 'u' :: first :: second :: third :: fourth ::
          '\\' :: 'u' :: fifth :: sixth :: seventh :: eighth :: rest) =
      readQuoted opening (offset + 12) (Text.characterOfPair high low :: decoded) rest := by
  cases rest with
  | nil => exact absurd rfl goesOn
  | cons next others =>
      rw [readQuoted, highDigits]
      simp only [followingHalf?, isHigh, lowDigits, isLow, if_true, List.drop_succ_cons,
        List.drop_zero]

/-- What is read after one step over a character is read with the character before it. -/
theorem readQuoted_of_step (taken : Nat) {opening offset length : Nat} {character : Char}
    {decoded text source rest : List Char}
    (isStep : readQuoted opening offset decoded source =
      readQuoted opening (offset + taken) (character :: decoded) rest)
    (isRead : readQuoted opening (offset + taken) (character :: decoded) rest =
      .ok (String.ofList ((character :: decoded).reverse ++ text), offset + taken + length + 1)) :
    readQuoted opening offset decoded source =
      .ok (String.ofList (decoded.reverse ++ character :: text),
        offset + (length + taken) + 1) := by
  have sameOffset : offset + taken + length + 1 = offset + (length + taken) + 1 := by omega
  rw [isStep, isRead, sameOffset, List.reverse_cons, List.append_assoc, List.singleton_append]

/-- A spelling before a quote is read as the text that it spells. -/
theorem readQuoted_of_spells {source text : List Char} (spells : Spells source text)
    (opening offset : Nat) (decoded rest : List Char) :
    readQuoted opening offset decoded (source ++ '"' :: rest) =
      .ok (String.ofList (decoded.reverse ++ text), offset + source.length + 1) := by
  induction spells generalizing offset decoded with
  | nothing =>
      rw [List.nil_append, readQuoted, List.append_nil]
      rfl
  | plain printed noQuote noBackslash _ inductionHypothesis =>
      exact readQuoted_of_step 1 (readQuoted_plain printed noQuote noBackslash _ _ _ _)
        (inductionHypothesis _ _)
  | letter known _ inductionHypothesis =>
      exact readQuoted_of_step 2 (readQuoted_letter known _ _ _ _) (inductionHypothesis _ _)
  | @unit _ _ _ _ unit source _ digits alone spells inductionHypothesis =>
      have noHalf : followingHalf? unit (offset + 6) (source ++ '"' :: rest) = .ok none := by
        cases isHigh : Text.isHighSurrogate unit with
        | false => exact followingHalf?_of_not_high isHigh _ _
        | true => exact followingHalf?_of_spells spells (alone isHigh) _ _ _
      exact readQuoted_of_step 6 (readQuoted_unit digits (append_quote_ne_nil source rest) noHalf)
        (inductionHypothesis _ _)
  | @pair _ _ _ _ _ _ _ _ _ _ source _ highDigits lowDigits isHigh isLow _ inductionHypothesis =>
      exact readQuoted_of_step 12
        (readQuoted_pair highDigits lowDigits isHigh isLow (append_quote_ne_nil source rest) _ _ _)
        (inductionHypothesis _ _)

/-! ## The spelling of the writer -/

/-- The letters of the escapes that the writer uses, each with the character it stands for. -/
def letterEscapes : List (Char × Char) :=
  [('"', '"'), ('\\', '\\'), ('n', '\n'), ('r', '\r'), ('t', '\t'), ('f', '\x0c'), ('b', '\x08')]

/-- A character is escaped with a letter or by its code units, or it stays as it is. Only control
characters, and beyond ASCII where that is asked for, are escaped by their code units. -/
theorem quotedCharacter_forms (asciiOnly : Bool) (character : Char) :
    (∃ letter, (letter, character) ∈ letterEscapes ∧
        quotedCharacter asciiOnly character = ['\\', letter]) ∨
      ((character.toNat < 32 ∨ asciiOnly = true) ∧
        quotedCharacter asciiOnly character = characterEscape character) ∨
      (32 ≤ character.toNat ∧ character ≠ '"' ∧ character ≠ '\\' ∧
        quotedCharacter asciiOnly character = [character]) := by
  unfold quotedCharacter
  split
  · exact Or.inl ⟨_, by decide, rfl⟩
  · exact Or.inl ⟨_, by decide, rfl⟩
  · exact Or.inl ⟨_, by decide, rfl⟩
  · exact Or.inl ⟨_, by decide, rfl⟩
  · exact Or.inl ⟨_, by decide, rfl⟩
  · exact Or.inl ⟨_, by decide, rfl⟩
  · exact Or.inl ⟨_, by decide, rfl⟩
  · rename_i noQuote noBackslash _ _ _ _ _
    right
    simp only [Bool.or_eq_true, Bool.and_eq_true, decide_eq_true_eq]
    split
    · rename_i escaped
      exact Or.inl ⟨escaped.imp_right And.left, rfl⟩
    · rename_i printed
      exact Or.inr ⟨Nat.not_lt.mp fun control => printed (Or.inl control), noQuote, noBackslash,
        rfl⟩

theorem half?_eq_none_of_control {character : Char} (control : character.toNat < 32) :
    Text.Halves.half? character = none := by
  cases isHalf : Text.Halves.half? character with
  | none => rfl
  | some half =>
      have beyond := Text.Halves.beyondAscii character half isHalf
      omega

/-- Where characters beyond ASCII stay as they are, a character is escaped with a letter or, if it
is another control character, with its code unit; all others stay as they are. -/
theorem quotedCharacter_cases (character : Char) :
    (∃ letter, (letter, character) ∈ letterEscapes ∧
        quotedCharacter false character = ['\\', letter]) ∨
      (character.toNat < 32 ∧ quotedCharacter false character = unitEscape character.toNat) ∨
      (32 ≤ character.toNat ∧ character ≠ '"' ∧ character ≠ '\\' ∧
        quotedCharacter false character = [character]) := by
  refine (quotedCharacter_forms false character).imp_right (Or.imp_left ?_)
  rintro ⟨control | ascii, isWritten⟩
  · have small : character.toNat < 0x10000 := by omega
    refine ⟨control, ?_⟩
    rw [isWritten, characterEscape, half?_eq_none_of_control control]
    exact if_pos small
  · cases ascii

theorem simpleEscape?_of_mem_letterEscapes {letter character : Char}
    (isEscape : (letter, character) ∈ letterEscapes) : simpleEscape? letter = some character := by
  have known := List.all_eq_true.mp
    (by decide : letterEscapes.all (fun escape => simpleEscape? escape.1 == some escape.2) = true)
  exact eq_of_beq (known _ isEscape)

/-- Four digits of a code unit have its value. -/
theorem hexQuad?_hexDigits {code : Nat} (small : code < 0x10000) :
    hexQuad? (hexDigit (code / 4096 % 16)) (hexDigit (code / 256 % 16))
      (hexDigit (code / 16 % 16)) (hexDigit (code % 16)) = some code := by
  have digits : ∀ digit < 16, hexValue? (hexDigit digit) = some digit := by decide
  have known (part : Nat) : hexValue? (hexDigit (part % 16)) = some (part % 16) :=
    digits _ (Nat.mod_lt _ (by decide))
  rw [hexQuad?, known, known, known, known]
  exact congrArg some (by omega)

theorem lt_of_isHalf {unit : Nat} (isHalf : Text.isHalf unit = true) : unit < 0x10000 :=
  (Text.bounds_of_isHalf isHalf).2.trans (by decide)

theorem isHighSurrogate_of_code {code : Nat} (valid : code < 0x110000) :
    Text.isHighSurrogate (0xd800 + (code - 0x10000) / 0x400) = true := by
  simp only [Text.isHighSurrogate, Bool.and_eq_true, decide_eq_true_eq]
  omega

theorem isLowSurrogate_of_code (code : Nat) :
    Text.isLowSurrogate (0xdc00 + (code - 0x10000) % 0x400) = true := by
  simp only [Text.isLowSurrogate, Bool.and_eq_true, decide_eq_true_eq]
  omega

theorem isHalf_toNat (character : Char) : Text.isHalf character.toNat = false := by
  have valid : character.toNat < 0xd800 ∨ 0xdfff < character.toNat ∧ character.toNat < 0x110000 :=
    character.valid
  simp only [Text.isHalf, Text.isHighSurrogate, Text.isLowSurrogate, Bool.or_eq_false_iff,
    Bool.and_eq_false_iff, decide_eq_false_iff_not]
  omega

theorem characterOfUnit_toNat (character : Char) :
    Text.characterOfUnit character.toNat = character := by
  rw [Text.characterOfUnit, isHalf_toNat, if_neg Bool.false_ne_true, Char.ofNat_toNat]

theorem lt_toNat (character : Char) : character.toNat < 0x110000 := by
  have valid : character.toNat < 0xd800 ∨ 0xdfff < character.toNat ∧ character.toNat < 0x110000 :=
    character.valid
  omega

/-- The escape of a character by its code units spells it, whatever follows. -/
theorem spells_codeEscape (character : Char) {source text : List Char}
    (rest : Spells source text) :
    Spells (codeEscape character.toNat ++ source) (character :: text) := by
  by_cases small : character.toNat < 0x10000
  · have notHigh := (Bool.or_eq_false_iff.mp (isHalf_toNat character)).1
    have alone : Text.isHighSurrogate character.toNat = true → ¬ BeginsWithSecondHalf source := by
      rw [notHigh]
      exact nofun
    have spells := Spells.unit (hexQuad?_hexDigits small) alone rest
    rw [characterOfUnit_toNat] at spells
    rw [codeEscape, if_pos small]
    exact spells
  · have valid := lt_toNat character
    have together : Text.characterOfPair (0xd800 + (character.toNat - 0x10000) / 0x400)
        (0xdc00 + (character.toNat - 0x10000) % 0x400) = character := by
      have isCode : 0x10000 + 0x400 * (0xd800 + (character.toNat - 0x10000) / 0x400 - 0xd800) +
          (0xdc00 + (character.toNat - 0x10000) % 0x400 - 0xdc00) = character.toNat := by
        omega
      rw [Text.characterOfPair, isCode, Char.ofNat_toNat]
    have spells := Spells.pair (hexQuad?_hexDigits (by omega)) (hexQuad?_hexDigits (by omega))
      (isHighSurrogate_of_code valid) (isLowSurrogate_of_code character.toNat) rest
    rw [together] at spells
    rw [codeEscape, if_neg small]
    exact spells

/-- The quoted form of a character spells it ahead of every spelling that cannot turn it into one
half of a pair. -/
theorem spells_quotedCharacter (asciiOnly : Bool) {character : Char} {source text : List Char}
    (apart : asciiOnly = true →
      (Text.Halves.half? character).any Text.isHighSurrogate = true → ¬ BeginsWithSecondHalf source)
    (rest : Spells source text) :
    Spells (quotedCharacter asciiOnly character ++ source) (character :: text) := by
  rcases quotedCharacter_forms asciiOnly character with
    ⟨letter, isEscape, isWritten⟩ | ⟨reason, isWritten⟩ | ⟨printed, noQuote, noBackslash, isWritten⟩
  · rw [isWritten]
    exact .letter (simpleEscape?_of_mem_letterEscapes isEscape) rest
  · rw [isWritten, characterEscape]
    cases isStandIn : Text.Halves.half? character with
    | none => exact spells_codeEscape character rest
    | some half =>
        have ascii : asciiOnly = true := by
          refine reason.resolve_left fun control => ?_
          rw [half?_eq_none_of_control control] at isStandIn
          cases isStandIn
        have isHalf := Text.Halves.isHalf_of_half? character half isStandIn
        rw [isStandIn] at apart
        have spells := Spells.unit (hexQuad?_hexDigits (lt_of_isHalf isHalf)) (apart ascii) rest
        rw [Text.characterOfUnit, if_pos isHalf,
          Text.Halves.character_of_half? character half isStandIn] at spells
        exact spells
  · rw [isWritten]
    exact .plain printed noQuote noBackslash rest

theorem beginsWithSecondHalf_unitEscape {unit : Nat} (small : unit < 0x10000)
    {rest : List Char} (begins : BeginsWithSecondHalf (unitEscape unit ++ rest)) :
    Text.isLowSurrogate unit = true := by
  obtain ⟨first, second, third, fourth, half, others, isSource, digits, isLow⟩ := begins
  simp only [unitEscape, List.cons_append, List.cons.injEq, true_and] at isSource
  obtain ⟨rfl, rfl, rfl, rfl, -⟩ := isSource
  rw [hexQuad?_hexDigits small] at digits
  rw [Option.some.inj digits]
  exact isLow

/-- The escape of a character by its code units never begins with a second half. -/
theorem not_beginsWithSecondHalf_codeEscape (character : Char) (rest : List Char) :
    ¬ BeginsWithSecondHalf (codeEscape character.toNat ++ rest) := by
  intro begins
  unfold codeEscape at begins
  split at begins
  · rename_i small
    have notLow := (Bool.or_eq_false_iff.mp (isHalf_toNat character)).2
    rw [beginsWithSecondHalf_unitEscape small begins] at notLow
    cases notLow
  · have valid := lt_toNat character
    have notLow := isLowSurrogate_of_isHighSurrogate (isHighSurrogate_of_code valid)
    rw [List.append_assoc] at begins
    rw [beginsWithSecondHalf_unitEscape (by omega) begins] at notLow
    cases notLow

/-- Only the quoted form of a character that stands for a second half begins with its escape. -/
theorem exists_of_beginsWithSecondHalf {asciiOnly : Bool} {text : List Char}
    (begins : BeginsWithSecondHalf (text.flatMap (quotedCharacter asciiOnly))) :
    ∃ character, text.head? = some character ∧
      (Text.Halves.half? character).any Text.isLowSurrogate = true := by
  cases text with
  | nil =>
      obtain ⟨_, _, _, _, _, _, isSource, _⟩ := begins
      cases isSource
  | cons character others =>
      rw [List.flatMap_cons] at begins
      rcases quotedCharacter_forms asciiOnly character with
        ⟨letter, isEscape, isWritten⟩ | ⟨_, isWritten⟩ | ⟨_, _, noBackslash, isWritten⟩
      · have notUnit : ∀ escape ∈ letterEscapes, escape.1 ≠ 'u' := by decide
        obtain ⟨_, _, _, _, _, _, isSource, _⟩ := begins
        rw [isWritten] at isSource
        exact absurd (List.cons.inj (List.cons.inj isSource).2).1 (notUnit _ isEscape)
      · rw [isWritten, characterEscape] at begins
        cases isStandIn : Text.Halves.half? character with
        | none =>
            rw [isStandIn] at begins
            exact absurd begins (not_beginsWithSecondHalf_codeEscape character _)
        | some half =>
            rw [isStandIn] at begins
            have isHalf := Text.Halves.isHalf_of_half? character half isStandIn
            refine ⟨character, rfl, ?_⟩
            rw [isStandIn]
            exact beginsWithSecondHalf_unitEscape (lt_of_isHalf isHalf) begins
      · obtain ⟨_, _, _, _, _, _, isSource, _⟩ := begins
        rw [isWritten] at isSource
        exact absurd (List.cons.inj isSource).1 noBackslash

/-- A quoted text spells the text, if no two halves in it would be read as a pair where they are
written as escapes. -/
theorem spells_quote (asciiOnly : Bool) {text : List Char}
    (apart : asciiOnly = true → KeepsHalvesApart text) :
    Spells (text.flatMap (quotedCharacter asciiOnly)) text := by
  induction text with
  | nil => exact .nothing
  | cons character others inductionHypothesis =>
      rw [List.flatMap_cons]
      refine spells_quotedCharacter asciiOnly (fun ascii isHigh begins => ?_)
        (inductionHypothesis fun ascii => (List.isChain_cons.mp (apart ascii)).2)
      obtain ⟨next, isNext, isLow⟩ := exists_of_beginsWithSecondHalf begins
      exact (List.isChain_cons.mp (apart ascii)).1 next isNext ⟨isHigh, isLow⟩

theorem toList_quote (asciiOnly : Bool) (text : String) :
    (quote asciiOnly text).toList =
      '"' :: (text.toList.flatMap (quotedCharacter asciiOnly) ++ ['"']) := by
  have mark : "\"".toList = ['"'] := by decide
  simp only [quote, String.toList_append, mark, List.cons_append, List.nil_append]
  rw [String.toList_ofList]

end StaticSite.Json
