import StaticSite.Proofs.Url.Scheme

/-!
Contract: what the filter for links does to every link.

Owns:
- what encoding leaves alone and what it never gives;
- links that the filter keeps as they are;
- the law of the filter: it is idempotent, its results are trimmed and hold no quote, it rejects
  every link in which a browser sees another scheme, and it keeps plain links.

Does not own: the scheme that a browser sees (see `StaticSite.Proofs.Url.Scheme`), or escaping for
markup.
-/

namespace StaticSite.Url

/-! ## Encoding -/

/-- Whether a character ends a quoted text early: a quote or the backslash. -/
def isQuoteOrBackslash (character : Char) : Bool :=
  character == '\'' || character == '"' || character == '\\'

theorem encodeCharacter_of_not_quote {character : Char}
    (plain : isQuoteOrBackslash character = false) : encodeCharacter character = [character] := by
  unfold encodeCharacter
  split
  · cases plain
  · cases plain
  · cases plain
  · rfl

theorem encodeCharacter_ne_nil (character : Char) : encodeCharacter character ≠ [] := by
  rcases encodeCharacter_cases character with isKept | ⟨digits, isEncoded⟩
  · rw [isKept]
    exact List.cons_ne_nil character []
  · rw [isEncoded]
    exact List.cons_ne_nil '%' digits

/-- What a character is encoded as needs no encoding, and is blank where the character is. -/
theorem of_mem_encodeCharacter (character : Char) :
    ∀ encoded ∈ encodeCharacter character, isQuoteOrBackslash encoded = false ∧
      Text.isBlank encoded = Text.isBlank character := by
  unfold encodeCharacter
  split
  · exact Text.forall_mem_of_all (by decide)
  · exact Text.forall_mem_of_all (by decide)
  · exact Text.forall_mem_of_all (by decide)
  · rename_i notQuote notDoubleQuote notBackslash
    refine List.forall_mem_singleton.mpr ⟨?_, rfl⟩
    rw [isQuoteOrBackslash, beq_false_of_ne notQuote, beq_false_of_ne notDoubleQuote,
      beq_false_of_ne notBackslash]
    rfl

theorem not_quote_of_mem_encoded {address : List Char} :
    ∀ character ∈ address.flatMap encodeCharacter, isQuoteOrBackslash character = false := by
  intro character member
  obtain ⟨original, _, encoded⟩ := List.mem_flatMap.mp member
  exact (of_mem_encodeCharacter original character encoded).1

theorem flatMap_encodeCharacter_of_not_quote {address : List Char}
    (plain : ∀ character ∈ address, isQuoteOrBackslash character = false) :
    address.flatMap encodeCharacter = address := by
  induction address with
  | nil => rfl
  | cons character address inductionHypothesis =>
      obtain ⟨plainFirst, plainOthers⟩ := List.forall_mem_cons.mp plain
      rw [List.flatMap_cons, encodeCharacter_of_not_quote plainFirst,
        inductionHypothesis plainOthers, List.singleton_append]

theorem dropEndsWhile_encoded (address : List Char) :
    Text.dropEndsWhile Text.isBlank (address.flatMap encodeCharacter) =
      (Text.dropEndsWhile Text.isBlank address).flatMap encodeCharacter :=
  Text.dropEndsWhile_flatMap encodeCharacter_ne_nil
    (fun character encoded member => (of_mem_encodeCharacter character encoded member).2) address

/-! ## Forbidden schemes -/

theorem schemeOf?_eq_some {link scheme : List Char} (isScheme : schemeOf? link = some scheme) :
    (∃ first ∈ scheme.head?, isSmallLetter first = true) ∧
      (∀ character ∈ scheme, isSchemeCharacter character = true) ∧
      ∃ rest, link = scheme ++ ':' :: rest := by
  cases link with
  | nil => cases isScheme
  | cons first others =>
      unfold schemeOf? at isScheme
      dsimp only at isScheme
      split at isScheme
      · rename_i found
        obtain ⟨isLetter, atColon⟩ := Bool.and_eq_true_iff.mp found
        obtain ⟨rest, isRest⟩ := List.head?_eq_some_iff.mp (beq_iff_eq.mp atColon)
        have isWhole := List.takeWhile_append_dropWhile (p := isSchemeCharacter)
          (l := first :: others)
        have firstCounts : isSchemeCharacter first = true := by
          rw [isSchemeCharacter, isLetter]
          rfl
        rw [Option.some.inj isScheme, isRest] at isWhole
        refine ⟨⟨first, ?_, isLetter⟩, ?_, rest, isWhole.symm⟩
        · rw [← Option.some.inj isScheme, List.takeWhile_cons_of_pos firstCounts]
          rfl
        · rw [← Option.some.inj isScheme]
          exact List.all_eq_true.mp List.all_takeWhile
      · cases isScheme

/-- A link has a forbidden scheme if it has a scheme, and this is not among the allowed ones. -/
theorem hasForbiddenScheme_iff (link : List Char) :
    hasForbiddenScheme link = true ↔
      ∃ scheme, schemeOf? (compact link) = some scheme ∧ String.ofList scheme ∉ allowedSchemes := by
  unfold hasForbiddenScheme
  cases schemeOf? (compact link) with
  | none => simp
  | some scheme => simp

theorem hasForbiddenScheme_dropEndsWhile (link : List Char) :
    hasForbiddenScheme (Text.dropEndsWhile Text.isBlank link) = hasForbiddenScheme link := by
  have ignorable : ∀ character, Text.isBlank character = true → isIgnorable character = true := by
    intro character blank
    rw [isIgnorable, blank, Bool.true_or]
  rw [hasForbiddenScheme, hasForbiddenScheme, compact_dropEndsWhile ignorable]

theorem hasForbiddenScheme_of_encoded {address : List Char}
    (forbidden : hasForbiddenScheme (address.flatMap encodeCharacter) = true) :
    hasForbiddenScheme address = true := by
  obtain ⟨scheme, isScheme, notAllowed⟩ := (hasForbiddenScheme_iff _).mp forbidden
  obtain ⟨begins, characters, rest, isCompact⟩ := schemeOf?_eq_some isScheme
  obtain ⟨others, beforeEncoding⟩ := exists_compact_of_encoded characters address isCompact
  refine (hasForbiddenScheme_iff address).mpr ⟨scheme, ?_, notAllowed⟩
  rw [beforeEncoding, schemeOf?_append begins characters]

/-- The filter forbids the scheme that a browser sees, unless it may stand in a page. -/
theorem HasScheme.hasForbiddenScheme {link scheme : List Char}
    (has : HasScheme (browserForm link) scheme)
    (notAllowed : String.ofList (scheme.map Char.toLower) ∉ allowedSchemes) :
    hasForbiddenScheme link = true := by
  obtain ⟨rest, isCompact⟩ := has.exists_compact
  rw [compact_browserForm] at isCompact
  refine (hasForbiddenScheme_iff link).mpr ⟨scheme.map Char.toLower, ?_, notAllowed⟩
  rw [isCompact, schemeOf?_append has.isSmallLetter_head has.isSchemeCharacter_of_mem]

/-! ## Links that are kept -/

/-- The filter keeps a trimmed link without quotes whose scheme is not forbidden. -/
theorem safe_of_plain {link : String}
    (trimmed : Text.dropEndsWhile Text.isBlank link.toList = link.toList)
    (plain : ∀ character ∈ link.toList, isQuoteOrBackslash character = false)
    (allowed : hasForbiddenScheme link.toList = false) : safe link = link := by
  unfold safe
  dsimp only
  rw [trimmed, if_neg (by simp [allowed]), flatMap_encodeCharacter_of_not_quote plain,
    String.ofList_toList]

/-- What the filter gives is trimmed, holds no quotes and has no forbidden scheme. -/
theorem plain_safe (link : String) :
    Text.dropEndsWhile Text.isBlank (safe link).toList = (safe link).toList ∧
      (∀ character ∈ (safe link).toList, isQuoteOrBackslash character = false) ∧
      hasForbiddenScheme (safe link).toList = false := by
  by_cases forbidden : hasForbiddenScheme (Text.dropEndsWhile Text.isBlank link.toList) = true
  · have isHarmless : safe link = harmless := if_pos forbidden
    rw [isHarmless]
    exact ⟨by decide, Text.forall_mem_of_all (by decide), by decide⟩
  · have isEncoded : (safe link).toList =
        (Text.dropEndsWhile Text.isBlank link.toList).flatMap encodeCharacter := by
      rw [safe, if_neg forbidden, String.toList_ofList]
    rw [isEncoded, dropEndsWhile_encoded, Text.dropEndsWhile_dropEndsWhile]
    refine ⟨rfl, not_quote_of_mem_encoded, ?_⟩
    exact Bool.not_eq_true _ ▸ mt hasForbiddenScheme_of_encoded forbidden

theorem hasForbiddenScheme_rooted (rest : List Char) : hasForbiddenScheme ('/' :: rest) = false := by
  rw [hasForbiddenScheme, compact_cons (by decide)]
  rfl

/-- The filter does not reject an address below a root. -/
theorem safe_ne_harmless_of_rooted {link : String} (rooted : link.toList.head? = some '/') :
    safe link ≠ harmless := by
  obtain ⟨rest, isRooted⟩ := List.head?_eq_some_iff.mp rooted
  have notBlank : ∀ character ∈ ['/'], Text.isBlank character = false := by simp [Text.isBlank]
  obtain ⟨others, isTrimmed⟩ := Text.exists_dropTailWhile_append notBlank rest
  have trimmed : Text.dropEndsWhile Text.isBlank link.toList = '/' :: others := by
    rw [isRooted, Text.dropEndsWhile, List.dropWhile_cons_of_neg (by decide)]
    exact isTrimmed
  have isEncoded : (safe link).toList = '/' :: others.flatMap encodeCharacter := by
    rw [safe, trimmed, if_neg (by simp [hasForbiddenScheme_rooted]), String.toList_ofList]
    rfl
  intro isHarmless
  rw [isHarmless] at isEncoded
  exact absurd (List.cons.inj isEncoded).1 (by decide)

theorem safe_ne_empty {link : String} (notBlank : Text.strip link ≠ "") : safe link ≠ "" := by
  intro isEmpty
  unfold safe at isEmpty
  dsimp only at isEmpty
  split at isEmpty
  · exact absurd isEmpty (by decide)
  · have nothing := String.toList_eq_nil_iff.mpr isEmpty
    rw [String.toList_ofList, List.flatMap_eq_nil_iff] at nothing
    have noCharacter := List.eq_nil_iff_forall_not_mem.mpr fun character member =>
      encodeCharacter_ne_nil character (nothing character member)
    exact notBlank (String.toList_eq_nil_iff.mp ((Text.toList_strip link).trans noCharacter))

theorem safe_safe (link : String) : safe (safe link) = safe link := by
  obtain ⟨trimmed, plain, allowed⟩ := plain_safe link
  exact safe_of_plain trimmed plain allowed

/-! ## Printable links -/

/-- Whether a character is a printable one of the first 128, other than the space. -/
def isPrintable (character : Char) : Bool :=
  33 ≤ character.toNat && character.toNat ≤ 126

/-- What the filter finds in a character is what a browser finds in it: both count it, and it is a
colon, a letter or a character of schemes for one where it is for the other. -/
abbrev IsReadAlike (character : Char) : Prop :=
  isIgnorable character = false ∧ isControlOrSpace character = false ∧
    lowerLetter character = character.toLower ∧
    (isSchemeCharacter character.toLower = true → isBrowserSchemeCharacter character = true) ∧
    (isSmallLetter character.toLower = true → character.isAlpha = true) ∧
    (character.toLower = ':' → character = ':')

theorem isReadAlike_of_isPrintable {character : Char} (printable : isPrintable character = true) :
    IsReadAlike character := by
  have tested : ∀ code < 127, isPrintable (Char.ofNat code) = true →
      IsReadAlike (Char.ofNat code) := by
    decide +kernel
  have inRange : character.toNat < 127 := by
    have bounds := printable
    rw [isPrintable, Bool.and_eq_true, decide_eq_true_eq, decide_eq_true_eq] at bounds
    omega
  exact Text.of_toNat_lt (fun character => isPrintable character = true → IsReadAlike character)
    tested inRange printable

section Printable

variable {link : List Char} (printable : ∀ character ∈ link, isPrintable character = true)
include printable

theorem browserForm_of_printable : browserForm link = link := by
  have kept : ∀ character ∈ link, isControlOrSpace character = false :=
    fun character member => (isReadAlike_of_isPrintable (printable character member)).2.1
  rw [browserForm, Text.dropEndsWhile_of_kept kept, filter_kept kept]

theorem compact_of_printable : compact link = link.map Char.toLower := by
  have allCount : link.filter (fun character => !isIgnorable character) = link :=
    List.filter_eq_self.mpr fun character member => by
      rw [(isReadAlike_of_isPrintable (printable character member)).1]
      rfl
  rw [compact, allCount]
  exact List.map_congr_left fun character member =>
    (isReadAlike_of_isPrintable (printable character member)).2.2.1

/-- The scheme that the filter finds in a printable link is the one that a browser sees. -/
theorem exists_hasScheme_of_printable {found : List Char}
    (isScheme : schemeOf? (compact link) = some found) :
    ∃ scheme, HasScheme (browserForm link) scheme ∧ scheme.map Char.toLower = found := by
  obtain ⟨⟨letter, isHead, isLetter⟩, characters, rest, isCompact⟩ := schemeOf?_eq_some isScheme
  rw [compact_of_printable printable] at isCompact
  obtain ⟨scheme, others, rfl, rfl, isOthers⟩ := List.map_eq_append_iff.mp isCompact
  obtain ⟨colon, further, rfl, isColon, _⟩ := List.map_eq_cons_iff.mp isOthers
  have ofScheme : ∀ character ∈ scheme, isPrintable character = true :=
    fun character member => printable character (List.mem_append_left _ member)
  have colonPrintable := printable colon (List.mem_append_right scheme List.mem_cons_self)
  obtain ⟨_, _, _, _, _, onlyColon⟩ := isReadAlike_of_isPrintable colonPrintable
  refine ⟨scheme, ⟨?_, fun character member => ?_, further, ?_⟩, rfl⟩
  · rw [List.head?_map, Option.mem_def, Option.map_eq_some_iff] at isHead
    obtain ⟨first, isFirst, rfl⟩ := isHead
    obtain ⟨_, _, _, _, isAlpha, _⟩ :=
      isReadAlike_of_isPrintable (ofScheme first (List.mem_of_mem_head? isFirst))
    exact ⟨first, isFirst, isAlpha isLetter⟩
  · obtain ⟨_, _, _, isScheme, _⟩ := isReadAlike_of_isPrintable (ofScheme character member)
    exact isScheme (characters _ (List.mem_map_of_mem member))
  · rw [browserForm_of_printable printable, onlyColon isColon]

end Printable

/-- A printable link without quotes is kept if it is safe. -/
theorem safe_of_printable {link : String}
    (printable : ∀ character ∈ link.toList, isPrintable character = true)
    (plain : ∀ character ∈ link.toList, isQuoteOrBackslash character = false)
    (isSafe : IsSafe link) : safe link = link := by
  have trimmed : Text.dropEndsWhile Text.isBlank link.toList = link.toList := by
    refine Text.dropEndsWhile_of_kept fun character member => ?_
    have counts := (isReadAlike_of_isPrintable (printable character member)).1
    rw [isIgnorable, Bool.or_eq_false_iff] at counts
    exact counts.1
  have allowed : ¬ hasForbiddenScheme link.toList = true := by
    intro forbidden
    obtain ⟨found, isScheme, notAllowed⟩ := (hasForbiddenScheme_iff _).mp forbidden
    obtain ⟨scheme, has, rfl⟩ := exists_hasScheme_of_printable printable isScheme
    exact notAllowed (isSafe scheme has)
  exact safe_of_plain trimmed plain (Bool.not_eq_true _ ▸ allowed)

/-! ## The law of the filter -/

/-- The filter for links is sound and idempotent: filtering a result again does not change it,
results have no blanks at their ends and hold no quotes and no backslash, a link in which a browser
sees a scheme that may not stand in a page gives the harmless link, and a link of printable
characters without quotes that has no scheme, or one that may stand in a page, is kept. -/
theorem filter_sound (link : String) :
    safe (safe link) = safe link ∧
      Text.strip (safe link) = safe link ∧
      (∀ character ∈ (safe link).toList, isQuoteOrBackslash character = false) ∧
      (∀ scheme, HasScheme (browserForm link.toList) scheme →
        String.ofList (scheme.map Char.toLower) ∉ allowedSchemes → safe link = harmless) ∧
      ((∀ character ∈ link.toList,
          isPrintable character = true ∧ isQuoteOrBackslash character = false) →
        IsSafe link → safe link = link) := by
  obtain ⟨trimmed, plain, _⟩ := plain_safe link
  refine ⟨safe_safe link, ?_, plain, fun scheme has notAllowed => ?_, fun characters isSafe => ?_⟩
  · rw [Text.strip, trimmed, String.ofList_toList]
  · have forbidden := has.hasForbiddenScheme notAllowed
    rw [← hasForbiddenScheme_dropEndsWhile] at forbidden
    exact if_pos forbidden
  · exact safe_of_printable (fun character member => (characters character member).1)
      (fun character member => (characters character member).2) isSafe

/-- A script behind blanks and with a tab in its scheme becomes the harmless link; a secure
address in capitals is kept. -/
theorem filter_sound_examples :
    (HasScheme (browserForm " Java\tScript:alert(1)".toList) "JavaScript".toList ∧
      String.ofList ("JavaScript".toList.map Char.toLower) ∉ allowedSchemes ∧
      safe " Java\tScript:alert(1)" = harmless) ∧
    IsSafe "HTTPS://a.b/c?d=e#f" ∧ safe "HTTPS://a.b/c?d=e#f" = "HTTPS://a.b/c?d=e#f" := by
  have hasScript : HasScheme (browserForm " Java\tScript:alert(1)".toList) "JavaScript".toList :=
    ⟨⟨'J', rfl, by decide⟩, Text.forall_mem_of_all (by decide), "alert(1)".toList, by decide⟩
  have notAllowed : String.ofList ("JavaScript".toList.map Char.toLower) ∉ allowedSchemes := by
    decide
  have isSafe : IsSafe "HTTPS://a.b/c?d=e#f" := by
    intro scheme has
    have isAddress : browserForm "HTTPS://a.b/c?d=e#f".toList =
        "HTTPS".toList ++ ':' :: "//a.b/c?d=e#f".toList := by
      decide
    rw [isAddress] at has
    rw [has.eq_of_append (Text.forall_mem_of_all (by decide))]
    decide
  exact ⟨⟨hasScript, notAllowed, (filter_sound _).2.2.2.1 _ hasScript notAllowed⟩, isSafe,
    (filter_sound _).2.2.2.2 (Text.forall_mem_of_all (by decide)) isSafe⟩

end StaticSite.Url
