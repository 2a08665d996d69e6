import StaticSite.Proofs.Text.Blank
import StaticSite.Proofs.Text.Letter
import StaticSite.Url

/-!
Contract: the scheme that a browser sees in an address.

Owns:
- the form of an address that a browser reads, the scheme of an address, and addresses whose scheme
  is allowed or that have none;
- the law that what the filter for links lets through is such an address;
- addresses that are known by what they begin with.

Does not own: where addresses stand in a page (see `StaticSite.Proofs.Markup.Link`).
-/

namespace StaticSite.Url

/-! ## Addresses as a browser reads them -/

/-- Whether a character is a control character or the space. -/
def isControlOrSpace (character : Char) : Bool :=
  character.toNat ≤ 32

/-- Whether a character is a tab, a line feed or a carriage return. -/
def isTabOrLineBreak (character : Char) : Bool :=
  character == '\t' || character == '\n' || character == '\r'

/-- An address as a browser reads it: without control characters and spaces at its ends, and
without tabs and line breaks. -/
def browserForm (address : List Char) : List Char :=
  (Text.dropEndsWhile isControlOrSpace address).filter fun character => !isTabOrLineBreak character

/-- Whether a character may stand in a scheme that a browser reads. -/
def isBrowserSchemeCharacter (character : Char) : Bool :=
  character.isAlphanum || character == '+' || character == '.' || character == '-'

/-- Whether an address has a scheme: a letter and characters of schemes before a colon. -/
structure HasScheme (address scheme : List Char) : Prop where
  beginsWithLetter : ∃ first ∈ scheme.head?, first.isAlpha = true
  isScheme : ∀ character ∈ scheme, isBrowserSchemeCharacter character = true
  beforeColon : ∃ rest, address = scheme ++ ':' :: rest

/-- Whether an address, as a browser reads it, has no scheme or one that may stand in a page, in
letters of any case. -/
def IsSafe (address : String) : Prop :=
  ∀ scheme, HasScheme (browserForm address.toList) scheme →
    String.ofList (scheme.map Char.toLower) ∈ allowedSchemes

/-! ## Compact addresses -/

theorem isIgnorable_of_isControlOrSpace {character : Char}
    (discarded : isControlOrSpace character = true) : isIgnorable character = true := by
  have bound : character.toNat ≤ 32 := of_decide_eq_true discarded
  unfold isIgnorable Text.isBlank
  simp only [Bool.or_eq_true, Bool.and_eq_true, decide_eq_true_eq, beq_iff_eq]
  omega

theorem isIgnorable_of_isTabOrLineBreak {character : Char}
    (discarded : isTabOrLineBreak character = true) : isIgnorable character = true := by
  simp only [isTabOrLineBreak, Bool.or_eq_true, beq_iff_eq] at discarded
  rcases discarded with (rfl | rfl) | rfl <;> decide

theorem compact_append (first second : List Char) :
    compact (first ++ second) = compact first ++ compact second := by
  rw [compact, List.filter_append, List.map_append]
  rfl

theorem compact_eq_nil {characters : List Char}
    (ignorable : ∀ character ∈ characters, isIgnorable character = true) :
    compact characters = [] := by
  rw [compact, List.map_eq_nil_iff, List.filter_eq_nil_iff]
  intro character member
  simp [ignorable character member]

/-- What is trimmed off an address does not count for its compact form. -/
theorem compact_dropEndsWhile {discard : Char → Bool}
    (ignorable : ∀ character, discard character = true → isIgnorable character = true)
    (address : List Char) : compact (Text.dropEndsWhile discard address) = compact address := by
  obtain ⟨before, after, isAddress, allBefore, allAfter⟩ :=
    Text.exists_append_dropEndsWhile discard address
  have nothing : ∀ characters : List Char, characters.all discard = true →
      compact characters = [] := fun characters all =>
    compact_eq_nil fun character member =>
      ignorable character (List.all_eq_true.mp all character member)
  have sameWhole := congrArg compact isAddress
  rw [compact_append, compact_append, nothing before allBefore, nothing after allAfter,
    List.nil_append, List.append_nil] at sameWhole
  exact sameWhole.symm

/-- What a browser leaves out of an address does not count for its compact form. -/
theorem compact_browserForm (address : List Char) :
    compact (browserForm address) = compact address := by
  have sameInside : compact (browserForm address) =
      compact (Text.dropEndsWhile isControlOrSpace address) := by
    rw [compact, browserForm, List.filter_filter]
    congr 1
    apply List.filter_congr
    intro character _
    cases discarded : isTabOrLineBreak character with
    | false => simp
    | true => simp [isIgnorable_of_isTabOrLineBreak discarded]
  rw [sameInside, compact_dropEndsWhile fun _ => isIgnorable_of_isControlOrSpace]

/-! ## Schemes of compact addresses -/

theorem toNat_lt_of_isBrowserSchemeCharacter {character : Char}
    (isScheme : isBrowserSchemeCharacter character = true) : character.toNat < 128 := by
  simp only [isBrowserSchemeCharacter, Bool.or_eq_true, beq_iff_eq] at isScheme
  rcases isScheme with ((alphanumeric | rfl) | rfl) | rfl
  · have codes := Text.toNat_of_isAlphanum alphanumeric
    omega
  all_goals decide

/-- The characters of schemes count in compact addresses, as small letters. -/
theorem compact_of_isBrowserSchemeCharacter {character : Char}
    (isScheme : isBrowserSchemeCharacter character = true) :
    isIgnorable character = false ∧ isSchemeCharacter character.toLower = true ∧
      lowerLetter character = character.toLower := by
  have tested : ∀ code < 128, isBrowserSchemeCharacter (Char.ofNat code) = true →
      isIgnorable (Char.ofNat code) = false ∧ isSchemeCharacter (Char.ofNat code).toLower = true ∧
        lowerLetter (Char.ofNat code) = (Char.ofNat code).toLower := by
    decide +kernel
  exact Text.of_toNat_lt (fun character => isBrowserSchemeCharacter character = true →
    isIgnorable character = false ∧ isSchemeCharacter character.toLower = true ∧
      lowerLetter character = character.toLower)
    tested (toNat_lt_of_isBrowserSchemeCharacter isScheme) isScheme

theorem isSmallLetter_toLower {character : Char} (isLetter : character.isAlpha = true) :
    isSmallLetter character.toLower = true := by
  have tested : ∀ code < 128, (Char.ofNat code).isAlpha = true →
      isSmallLetter (Char.ofNat code).toLower = true := by
    decide +kernel
  have alphanumeric : character.isAlphanum = true := by
    rw [Char.isAlphanum, isLetter, Bool.true_or]
  have codes := Text.toNat_of_isAlphanum alphanumeric
  exact Text.of_toNat_lt (fun character => character.isAlpha = true →
    isSmallLetter character.toLower = true) tested (by omega) isLetter

theorem compact_scheme {scheme : List Char}
    (isScheme : ∀ character ∈ scheme, isBrowserSchemeCharacter character = true) :
    compact scheme = scheme.map Char.toLower := by
  have allCount : scheme.filter (fun character => !isIgnorable character) = scheme :=
    List.filter_eq_self.mpr fun character member => by
      rw [(compact_of_isBrowserSchemeCharacter (isScheme character member)).1]
      rfl
  rw [compact, allCount]
  exact List.map_congr_left fun character member =>
    (compact_of_isBrowserSchemeCharacter (isScheme character member)).2.2

theorem compact_cons {character : Char} (counts : isIgnorable character = false)
    (rest : List Char) : compact (character :: rest) = lowerLetter character :: compact rest := by
  rw [compact, List.filter_cons, counts]
  rfl

theorem compact_cons_ignorable {character : Char} (ignorable : isIgnorable character = true)
    (rest : List Char) : compact (character :: rest) = compact rest := by
  rw [compact, List.filter_cons, ignorable]
  rfl

/-- What stands before the first colon is the scheme, if it is a letter and characters of
schemes. -/
theorem schemeOf?_append {scheme : List Char}
    (begins : ∃ first ∈ scheme.head?, isSmallLetter first = true)
    (isScheme : ∀ character ∈ scheme, isSchemeCharacter character = true) (rest : List Char) :
    schemeOf? (scheme ++ ':' :: rest) = some scheme := by
  obtain ⟨first, isFirst, isLetter⟩ := begins
  have colon : ¬ isSchemeCharacter ':' = true := by decide
  cases scheme with
  | nil => cases isFirst
  | cons head others =>
      rw [List.cons_append, schemeOf?, ← List.cons_append, List.dropWhile_append_of_pos isScheme,
        List.takeWhile_append_of_pos isScheme, List.dropWhile_cons_of_neg colon,
        List.takeWhile_cons_of_neg colon, Option.some.inj isFirst, isLetter, List.append_nil]
      rfl

section HasScheme

variable {address scheme : List Char} (has : HasScheme address scheme)
include has

theorem HasScheme.exists_compact :
    ∃ rest, compact address = scheme.map Char.toLower ++ ':' :: compact rest := by
  obtain ⟨rest, rfl⟩ := has.beforeColon
  refine ⟨rest, ?_⟩
  rw [compact_append, compact_scheme has.isScheme, compact_cons (by decide)]
  rfl

theorem HasScheme.isSchemeCharacter_of_mem :
    ∀ character ∈ scheme.map Char.toLower, isSchemeCharacter character = true := by
  intro character member
  obtain ⟨original, isOriginal, rfl⟩ := List.mem_map.mp member
  exact (compact_of_isBrowserSchemeCharacter (has.isScheme original isOriginal)).2.1

theorem HasScheme.isSmallLetter_head :
    ∃ first ∈ (scheme.map Char.toLower).head?, isSmallLetter first = true := by
  obtain ⟨first, isFirst, isLetter⟩ := has.beginsWithLetter
  refine ⟨first.toLower, ?_, isSmallLetter_toLower isLetter⟩
  rw [List.head?_map, Option.mem_def.mp isFirst]
  rfl

end HasScheme

/-! ## Known beginnings -/

theorem isControlOrSpace_of_isTabOrLineBreak {character : Char}
    (isBreak : isTabOrLineBreak character = true) : isControlOrSpace character = true := by
  simp only [isTabOrLineBreak, Bool.or_eq_true, beq_iff_eq] at isBreak
  rcases isBreak with (rfl | rfl) | rfl <;> decide

theorem filter_kept {beginning : List Char}
    (kept : ∀ character ∈ beginning, isControlOrSpace character = false) :
    beginning.filter (fun character => !isTabOrLineBreak character) = beginning := by
  refine List.filter_eq_self.mpr fun character member => ?_
  cases isBreak : isTabOrLineBreak character with
  | false => rfl
  | true =>
      have isDiscarded := isControlOrSpace_of_isTabOrLineBreak isBreak
      rw [kept character member] at isDiscarded
      cases isDiscarded

/-- Characters that are no blanks stay at the beginning of an address. -/
theorem exists_browserForm_append {beginning : List Char}
    (kept : ∀ character ∈ beginning, isControlOrSpace character = false) (rest : List Char) :
    ∃ others, browserForm (beginning ++ rest) = beginning ++ others := by
  cases beginning with
  | nil => exact ⟨_, rfl⟩
  | cons first beginning =>
      have keptFirst : ¬ isControlOrSpace first = true := by
        rw [kept first List.mem_cons_self]
        exact Bool.false_ne_true
      obtain ⟨others, isTrimmed⟩ := Text.exists_dropTailWhile_append kept rest
      refine ⟨others.filter fun character => !isTabOrLineBreak character, ?_⟩
      rw [browserForm, Text.dropEndsWhile, List.cons_append, List.dropWhile_cons_of_neg keptFirst,
        ← List.cons_append, isTrimmed, List.filter_append, filter_kept kept]

/-- Whether a text begins with what is no scheme, or with a scheme that may stand in a page. -/
def beginsSafely (text : List Char) : Bool :=
  (text.head?.any fun first => !isControlOrSpace first && !first.isAlpha) ||
    allowedSchemes.any fun scheme => (scheme.toList ++ [':']).isPrefixOf text

/-- Only what stands before the first colon is a scheme. -/
theorem HasScheme.eq_of_append {scheme other rest : List Char}
    (has : HasScheme (other ++ ':' :: rest) scheme)
    (isScheme : ∀ character ∈ other, isBrowserSchemeCharacter character = true) :
    scheme = other := by
  have colon : ¬ isBrowserSchemeCharacter ':' = true := by decide
  obtain ⟨further, sameAddress⟩ := has.beforeColon
  have sameHead := congrArg (List.takeWhile isBrowserSchemeCharacter) sameAddress
  rw [List.takeWhile_append_of_pos isScheme, List.takeWhile_append_of_pos has.isScheme,
    List.takeWhile_cons_of_neg colon, List.takeWhile_cons_of_neg colon, List.append_nil,
    List.append_nil] at sameHead
  exact sameHead.symm

theorem isSafe_of_beginsSafely {address : String} (beginning : List Char) {rest : List Char}
    (begins : beginsSafely beginning = true) (isAddress : address.toList = beginning ++ rest) :
    IsSafe address := by
  intro scheme has
  rw [isAddress] at has
  rw [beginsSafely, Bool.or_eq_true] at begins
  rcases begins with noScheme | known
  · obtain ⟨first, isFirst, kept⟩ := (Option.any_eq_true _ _).mp noScheme
    rw [Bool.and_eq_true, Bool.not_eq_true', Bool.not_eq_true'] at kept
    obtain ⟨others, rfl⟩ := List.head?_eq_some_iff.mp isFirst
    obtain ⟨seen, isSeen⟩ := exists_browserForm_append
      (List.forall_mem_singleton.mpr kept.1) (others ++ rest)
    obtain ⟨letter, isHead, isLetter⟩ := has.beginsWithLetter
    obtain ⟨more, sameAddress⟩ := has.beforeColon
    obtain ⟨further, rfl⟩ := List.head?_eq_some_iff.mp isHead
    rw [List.singleton_append, List.singleton_append] at isSeen
    rw [List.cons_append, isSeen, List.cons_append] at sameAddress
    rw [← (List.cons.inj sameAddress).1, kept.2] at isLetter
    cases isLetter
  · obtain ⟨allowed, isAllowed, isPrefix⟩ := List.any_eq_true.mp known
    obtain ⟨others, rfl⟩ := List.isPrefixOf_iff_prefix.mp isPrefix
    have characters : allowedSchemes.all (fun scheme =>
        scheme.toList.all isBrowserSchemeCharacter &&
          (scheme.toList ++ [':']).all (fun character => !isControlOrSpace character) &&
          scheme.toList.map Char.toLower == scheme.toList) = true := by
      decide +kernel
    have ofAllowed := List.all_eq_true.mp characters allowed isAllowed
    simp only [Bool.and_eq_true, List.all_eq_true, Bool.not_eq_true', beq_iff_eq] at ofAllowed
    obtain ⟨⟨isScheme, kept⟩, isLower⟩ := ofAllowed
    obtain ⟨seen, isSeen⟩ := exists_browserForm_append kept (others ++ rest)
    rw [List.append_assoc, isSeen, List.append_assoc, List.singleton_append] at has
    rw [has.eq_of_append isScheme, isLower, String.ofList_toList]
    exact isAllowed

/-! ## What the filter lets through -/

/-- Characters that are encoded stand in no scheme, nor does what they are encoded as. -/
theorem encodeCharacter_cases (character : Char) :
    encodeCharacter character = [character] ∨
      ∃ digits, encodeCharacter character = '%' :: digits := by
  unfold encodeCharacter
  split
  · exact Or.inr ⟨_, rfl⟩
  · exact Or.inr ⟨_, rfl⟩
  · exact Or.inr ⟨_, rfl⟩
  · exact Or.inl rfl

/-- What stands before the colon of an encoded address stands there before it is encoded. -/
theorem exists_compact_of_encoded {scheme : List Char}
    (isScheme : ∀ character ∈ scheme, isSchemeCharacter character = true) (address : List Char)
    {rest : List Char}
    (encoded : compact (address.flatMap encodeCharacter) = scheme ++ ':' :: rest) :
    ∃ others, compact address = scheme ++ ':' :: others := by
  induction address generalizing scheme with
  | nil => exact absurd encoded (by simp [compact])
  | cons character address inductionHypothesis =>
      rw [List.flatMap_cons] at encoded
      rcases encodeCharacter_cases character with kept | ⟨digits, isEncoded⟩
      · rw [kept, List.singleton_append] at encoded
        cases ignorable : isIgnorable character with
        | true =>
            rw [compact_cons_ignorable ignorable] at encoded ⊢
            exact inductionHypothesis isScheme encoded
        | false =>
            rw [compact_cons ignorable] at encoded ⊢
            cases scheme with
            | nil =>
                rw [(List.cons.inj encoded).1]
                exact ⟨_, rfl⟩
            | cons first scheme =>
                obtain ⟨isFirst, later⟩ := List.cons.inj encoded
                obtain ⟨others, isCompact⟩ :=
                  inductionHypothesis (List.forall_mem_cons.mp isScheme).2 later
                rw [isFirst, isCompact]
                exact ⟨others, rfl⟩
      · rw [isEncoded, List.cons_append, compact_cons (by decide)] at encoded
        cases scheme with
        | nil => exact absurd (List.cons.inj encoded).1 (by decide)
        | cons first scheme =>
            have notScheme := (List.forall_mem_cons.mp isScheme).1
            rw [← (List.cons.inj encoded).1] at notScheme
            exact absurd notScheme (by decide)

/-- The filter gives the harmless link, or the characters of an address that it finds no fault
with, encoded. -/
theorem safe_cases (link : String) :
    safe link = harmless ∨ ∃ address, hasForbiddenScheme address = false ∧
      safe link = String.ofList (address.flatMap encodeCharacter) := by
  by_cases forbidden : hasForbiddenScheme (Text.dropEndsWhile Text.isBlank link.toList) = true
  · exact Or.inl (if_pos forbidden)
  · exact Or.inr ⟨_, Bool.not_eq_true _ ▸ forbidden, if_neg forbidden⟩

theorem isSafe_safe (link : String) : IsSafe (safe link) := by
  rcases safe_cases link with isHarmless | ⟨address, allowed, isEncoded⟩
  · rw [isHarmless]
    exact isSafe_of_beginsSafely harmless.toList (by decide) (List.append_nil _).symm
  · intro scheme has
    rw [isEncoded, String.toList_ofList] at has
    obtain ⟨rest, isCompact⟩ := has.exists_compact
    rw [compact_browserForm] at isCompact
    obtain ⟨others, isLink⟩ := exists_compact_of_encoded has.isSchemeCharacter_of_mem _ isCompact
    rw [hasForbiddenScheme, isLink, schemeOf?_append has.isSmallLetter_head
      has.isSchemeCharacter_of_mem] at allowed
    simpa using allowed

/-- What the filter gives for a link holds no single quote. -/
theorem quote_not_mem_safe (link : String) : '\'' ∉ (safe link).toList := by
  rcases safe_cases link with isHarmless | ⟨address, _, isEncoded⟩
  · rw [isHarmless]
    decide
  · rw [isEncoded, String.toList_ofList]
    intro member
    obtain ⟨character, _, isQuote⟩ := List.mem_flatMap.mp member
    unfold encodeCharacter at isQuote
    split at isQuote
    · exact absurd isQuote (by decide)
    · exact absurd isQuote (by decide)
    · exact absurd isQuote (by decide)
    · rename_i notQuote _ _
      exact notQuote (List.mem_singleton.mp isQuote).symm

/-- An address that is safe and may also stand between single quotes. -/
structure IsEmbeddable (address : String) : Prop where
  isSafe : IsSafe address
  noQuote : '\'' ∉ address.toList

theorem isEmbeddable_safe (link : String) : IsEmbeddable (safe link) :=
  ⟨isSafe_safe link, quote_not_mem_safe link⟩

/-- Whether a literal link is empty or begins safely, without single quotes. -/
def isPlainLink (link : String) : Bool :=
  (link == "" || beginsSafely link.toList) && !link.toList.contains '\''

theorem isEmbeddable_of_isPlainLink {link : String} (plain : isPlainLink link = true) :
    IsEmbeddable link := by
  rw [isPlainLink, Bool.and_eq_true, Bool.or_eq_true, beq_iff_eq, Bool.not_eq_true'] at plain
  refine ⟨?_, fun member => ?_⟩
  · rcases plain.1 with rfl | begins
    · intro scheme has
      obtain ⟨rest, isNothing⟩ := has.beforeColon
      exact absurd isNothing.symm (by simp [browserForm, Text.dropEndsWhile, Text.dropTailWhile])
    · exact isSafe_of_beginsSafely _ begins (List.append_nil _).symm
  · rw [List.contains_iff_mem.mpr member] at plain
    cases plain.2

end StaticSite.Url
