import StaticSite.Component.Catalogue
import StaticSite.Proofs.Number.Notation
import StaticSite.Proofs.Schema.Coerced
import StaticSite.Proofs.Schema.Order
import StaticSite.Proofs.Schema.Totality
import StaticSite.Proofs.Url.Filter

/-!
Contract: what the values of fields are, whatever is stored for them.

Owns:
- the stored values that a kind reads, and the values that a field may have for them, at any depth of
  records;
- the law that coerced values are such values;
- the law that a stored value that a kind does not read gives the fallback, unless a choice lists the
  empty text.

Does not own: when coercion fails (see `StaticSite.Proofs.Schema.Totality`).
-/

namespace StaticSite.Schema

/-! ## Values of fields -/

/-- Whether a value is written out as a text: a truth value, a number or a text. -/
def hasText : Json → Bool
  | .bool _ | .int _ | .real _ | .text _ => true
  | _ => false

/-- Whether a stored value is of a type that a kind reads. -/
def Kind.reads : Kind → Json → Bool
  | .text, stored | .link, stored | .choice _, stored | .flag, stored => hasText stored
  | .number, .bool _ => false
  | .number, stored => hasText stored
  | .records _, .array _ | .texts, .array _ => true
  | .linksByPlatform, .object _ => true
  | _, _ => false

/-- Whether a choice takes a stored value that it does not read for the empty text. -/
def Kind.TakesForEmpty : Kind → Json → Json → Prop
  | .choice options, stored, value => stored ≠ .null ∧ "" ∈ options ∧ value = .text ""
  | _, _, _ => False

/-- Whether a text is trimmed and not empty. -/
def IsFilledIn (text : String) : Prop :=
  text ≠ "" ∧ Text.strip text = text

/-- Whether a link is not empty and is left as it is by the filter for links. -/
def IsFiltered (link : String) : Prop :=
  link ≠ "" ∧ Url.safe link = link

/-- Whether an item is the link of the platform of a member, whose value is a text that is not
blank. -/
def IsPlatformLink (entry : String × Json) (item : Json) : Prop :=
  ∃ address link, entry.2 = .text address ∧ Text.strip address ≠ "" ∧ link = Url.safe address ∧
    IsFiltered link ∧ item = .object [("platform", .text entry.1), ("url", .text link)]

/-- Whether a value is a text that is not blank. -/
def isWritten : Json → Bool
  | .text text => Text.strip text != ""
  | _ => false

section Keeps

variable (strict : Bool)

mutual

/-- Whether a field of a kind may have a value for a stored one that the kind reads.  If the contract
is strict, no choice in the records of the value takes what it does not read for the empty text. -/
def Kind.Keeps (fallback stored value : Json) : Kind → Prop
  | .text => value = fallback ∨ ∃ text, value = .text text ∧ IsFilledIn text
  | .link => value = fallback ∨ ∃ link, value = .text link ∧ IsFiltered link
  | .choice options => value = fallback ∨ ∃ option ∈ options, value = .text option
  | .number => value = fallback ∨ (∃ number, value = .int number) ∨
      ∃ number : Binary64, value = .real number ∧ number.isFinite = true
  | .flag => value = fallback ∨ ∃ answer, value = .bool answer
  | .records fields => ∀ items, stored = .array items → ∃ records,
      value = .array (records.map .object) ∧
        List.Forall₂ (fun members record => FieldsKeep members record fields) (recordsIn items)
          records
  | .texts => ∀ items, stored = .array items → ∃ texts,
      value = .array (texts.map .text) ∧
        texts = ((items.filter hasText).map textOf).filter (· != "") ∧
        ∀ text ∈ texts, IsFilledIn text
  | .linksByPlatform => ∀ members, stored = .object members → ∃ links, value = .array links ∧
      List.Forall₂ IsPlatformLink (members.filter fun entry => isWritten entry.2) links
  | .fixed => value = fallback

/-- Whether a field may have a value in stored props: one that its kind may have, and the fallback if
nothing is stored that the kind reads. -/
def Field.Keeps (stored : Json.Members) (value : Json) : Field → Prop
  | ⟨_, key, kind, fallback⟩ =>
      kind.Keeps fallback ((stored.lookup key).getD .null) value ∧
        (kind.reads ((stored.lookup key).getD .null) = false → value = fallback ∨
          strict = false ∧ kind.TakesForEmpty ((stored.lookup key).getD .null) value)

/-- Whether some fields may have some values in stored props, one by one and under their names. -/
def FieldsKeep (stored values : Json.Members) : List Field → Prop
  | [] => values = []
  | field :: others => ∃ value rest, values = (field.name, value) :: rest ∧
      field.Keeps stored value ∧ FieldsKeep stored rest others

end

end Keeps

/-! ## Texts and links -/

theorem isBlank_of_isNumeralCharacter {character : Char}
    (numeral : Number.isNumeralCharacter character = true) : Text.isBlank character = false := by
  by_contra blank
  have isBlank := Bool.not_eq_false _ ▸ blank
  simp only [Number.isNumeralCharacter, Bool.or_eq_true, beq_iff_eq, Text.isDigit_of_isBlank isBlank,
    Bool.false_eq_true, false_or] at numeral
  obtain ((rfl | rfl) | rfl) | rfl := numeral <;> cases isBlank

/-- The text that a stored value amounts to is trimmed. -/
theorem strip_textOf (stored : Json) : Text.strip (textOf stored) = textOf stored := by
  have ofInt (whole : Int) : Text.strip (toString whole) = toString whole :=
    Text.strip_of_notBlank fun _ member =>
      isBlank_of_isNumeralCharacter (Number.isNumeralCharacter_of_mem_int member)
  have notBlank (name : String)
      (tested : name.toList.all (fun letter => decide (Text.isBlank letter = false)) = true) :
      ∀ letter ∈ name.toList, Text.isBlank letter = false :=
    Text.forall_mem_of_all tested
  unfold textOf
  split
  · split <;> decide
  · exact ofInt _
  · split
    · exact ofInt _
    · refine Text.strip_of_notBlank fun character member => ?_
      rcases Binary64.mem_textIn member with numeral | inName | inName
      · exact isBlank_of_isNumeralCharacter numeral
      · exact notBlank "inf" (by decide) character inName
      · exact notBlank "nan" (by decide) character inName
  · exact Text.strip_strip _
  · decide

theorem isFilledIn_textOf {stored : Json} (some : textOf stored ≠ "") : IsFilledIn (textOf stored) :=
  ⟨some, strip_textOf stored⟩

theorem isFiltered_safe {link : String} (some : Text.strip link ≠ "") : IsFiltered (Url.safe link) :=
  ⟨Url.safe_ne_empty some, Url.safe_safe link⟩

theorem isFiltered_safe_textOf {stored : Json} (some : textOf stored ≠ "") :
    IsFiltered (Url.safe (textOf stored)) :=
  isFiltered_safe ((strip_textOf stored).symm ▸ some)

/-- What is not written out amounts to no text. -/
theorem textOf_of_not_hasText {stored : Json} (unread : hasText stored = false) :
    textOf stored = "" := by
  cases stored with
  | bool | int | real | text => cases unread
  | null | array | object => rfl

/-! ## Stored values that are not read -/

theorem coerce_choice {options : List String} {stored : Json} (notNull : stored ≠ .null)
    (fallback : Json) :
    (Kind.choice options).coerce fallback stored =
      .ok (if options.contains (textOf stored) then .text (textOf stored) else fallback) := by
  cases stored with
  | null => exact absurd rfl notNull
  | _ => rfl

/-- A stored value that a kind does not read gives the fallback, or is taken for the empty text. -/
theorem Kind.coerce_of_not_reads {kind : Kind} {fallback stored value : Json}
    (unread : kind.reads stored = false) (coerced : kind.coerce fallback stored = .ok value) :
    value = fallback ∨ kind.TakesForEmpty stored value := by
  cases kind with
  | text | link =>
      rw [Kind.coerce, textOf_of_not_hasText unread] at coerced
      exact Or.inl (Except.ok.inj coerced).symm
  | choice options =>
      by_cases isNull : stored = .null
      · rw [isNull] at coerced
        exact Or.inl (Except.ok.inj coerced).symm
      · rw [coerce_choice isNull, textOf_of_not_hasText unread, Except.ok.injEq] at coerced
        split at coerced
        · rename_i listed
          exact Or.inr ⟨isNull, List.contains_iff_mem.mp listed, coerced.symm⟩
        · exact Or.inl coerced.symm
  | number =>
      cases stored with
      | int | real | text => cases unread
      | null | bool | array | object => exact Or.inl (Except.ok.inj coerced).symm
  | flag =>
      cases stored with
      | bool | int | real | text => cases unread
      | null | array | object => exact Or.inl (Except.ok.inj coerced).symm
  | records | texts =>
      cases stored with
      | array => cases unread
      | null | bool | int | real | text | object => exact Or.inl (Except.ok.inj coerced).symm
  | linksByPlatform =>
      cases stored with
      | object => cases unread
      | null | bool | int | real | text | array => exact Or.inl (Except.ok.inj coerced).symm
  | fixed => exact Or.inl (Except.ok.inj coerced).symm

/-! ## Choices that list the empty text -/

def isEmptyText : Json → Bool
  | .text text => text == ""
  | _ => false

mutual

/-- Whether a choice falls back on the empty text if it lists it, and likewise the choices in
records. -/
def Kind.isFaithful (fallback : Json) : Kind → Bool
  | .choice options => !options.contains "" || isEmptyText fallback
  | .records fields => allAreFaithful fields
  | _ => true

def Field.isFaithful : Field → Bool
  | ⟨_, _, kind, fallback⟩ => kind.isFaithful fallback

def allAreFaithful : List Field → Bool
  | [] => true
  | field :: others => field.isFaithful && allAreFaithful others

end

theorem eq_of_isEmptyText {value : Json} (empty : isEmptyText value = true) : value = .text "" := by
  cases value with
  | text text => rw [beq_iff_eq.mp empty]
  | _ => cases empty

theorem Kind.TakesForEmpty.eq_fallback {kind : Kind} {fallback stored value : Json}
    (takes : kind.TakesForEmpty stored value) (faithful : kind.isFaithful fallback = true) :
    value = fallback := by
  cases kind with
  | choice options =>
      obtain ⟨_, listed, rfl⟩ := takes
      rw [Kind.isFaithful, List.contains_iff_mem.mpr listed] at faithful
      exact (eq_of_isEmptyText faithful).symm
  | _ => exact takes.elim

/-! ## Coerced values -/

theorem isPlatformLink {entry : String × Json} (written : isWritten entry.2 = true) :
    ∃ item, platformLink? entry = some item ∧ IsPlatformLink entry item := by
  obtain ⟨platform, stored⟩ := entry
  cases stored with
  | text address =>
      have notBlank : Text.strip address ≠ "" := bne_iff_ne.mp written
      exact ⟨_, if_neg (mt beq_iff_eq.mp notBlank), address, _, rfl, notBlank, rfl,
        isFiltered_safe notBlank, rfl⟩
  | _ => cases written

theorem platformLink?_of_not_isWritten {entry : String × Json} (blank : isWritten entry.2 = false) :
    platformLink? entry = none := by
  obtain ⟨platform, stored⟩ := entry
  cases stored with
  | text address => exact if_pos (bne_eq_false_iff_eq.mp blank ▸ beq_self_eq_true _)
  | _ => rfl

/-- Links by platform are those of the members with a text that is not blank, in their order. -/
theorem forall₂_platformLinks (members : Json.Members) :
    List.Forall₂ IsPlatformLink (members.filter fun entry => isWritten entry.2)
      (members.filterMap platformLink?) := by
  induction members with
  | nil => exact .nil
  | cons entry others inductionHypothesis =>
      cases written : isWritten entry.2 with
      | true =>
          obtain ⟨item, isItem, isLink⟩ := isPlatformLink written
          rw [List.filter_cons, if_pos written, List.filterMap_cons_some isItem]
          exact .cons isLink inductionHypothesis
      | false =>
          rw [List.filter_cons, if_neg (by simp [written]),
            List.filterMap_cons_none (platformLink?_of_not_isWritten written)]
          exact inductionHypothesis

/-- The texts among stored values are those of the values that are written out. -/
theorem textsOf_eq_map (items : List Json) :
    textsOf items = (((items.filter hasText).map textOf).filter (· != "")).map .text := by
  have sameTexts : (items.map textOf).filter (· != "") =
      ((items.filter hasText).map textOf).filter (· != "") := by
    induction items with
    | nil => rfl
    | cons item others inductionHypothesis =>
        cases written : hasText item with
        | true =>
            rw [List.filter_cons_of_pos written, List.map_cons, List.map_cons, List.filter_cons,
              List.filter_cons, inductionHypothesis]
        | false =>
            rw [List.filter_cons_of_neg (by simp [written]), List.map_cons,
              textOf_of_not_hasText written, ← inductionHypothesis]
            rfl
  rw [textsOf, sameTexts]

theorem isFilledIn_of_mem {items : List Json} {text : String}
    (member : text ∈ ((items.filter hasText).map textOf).filter (· != "")) : IsFilledIn text := by
  obtain ⟨isText, some⟩ := List.mem_filter.mp member
  obtain ⟨item, _, rfl⟩ := List.mem_map.mp isText
  exact isFilledIn_textOf (bne_iff_ne.mp some)

section Coerced

variable {strict : Bool}

mutual

theorem Kind.keeps_of_coerce {fallback stored value : Json} :
    ∀ kind : Kind, (strict = true → kind.isFaithful fallback = true) →
      kind.coerce fallback stored = .ok value → kind.Keeps strict fallback stored value
  | .text, _, coerced => by
      rw [Kind.coerce, Except.ok.injEq] at coerced
      split at coerced
      · exact Or.inl coerced.symm
      · rename_i some
        exact Or.inr ⟨_, coerced.symm, isFilledIn_textOf (mt beq_iff_eq.mpr some)⟩
  | .link, _, coerced => by
      rw [Kind.coerce, Except.ok.injEq] at coerced
      split at coerced
      · exact Or.inl coerced.symm
      · rename_i some
        exact Or.inr ⟨_, coerced.symm, isFiltered_safe_textOf (mt beq_iff_eq.mpr some)⟩
  | .choice options, _, coerced => by
      by_cases isNull : stored = .null
      · rw [isNull] at coerced
        exact Or.inl (Except.ok.inj coerced).symm
      · rw [coerce_choice isNull, Except.ok.injEq] at coerced
        split at coerced
        · rename_i listed
          exact Or.inr ⟨_, List.contains_iff_mem.mp listed, coerced.symm⟩
        · exact Or.inl coerced.symm
  | .number, _, coerced => by
      obtain ⟨found, isNumber, rfl⟩ := (map_eq_ok_iff _ _ _).mp coerced
      cases found with
      | none => exact Or.inl rfl
      | some number => exact Or.inr (numberOf?_cases isNumber)
  | .flag, _, coerced => by
      rw [Kind.coerce, Except.ok.injEq] at coerced
      split at coerced
      · exact Or.inr ⟨_, coerced.symm⟩
      · exact Or.inl coerced.symm
  | .records fields, faithful, coerced => by
      rintro items rfl
      obtain ⟨records, isValue, areRecords⟩ := coerce_records_array coerced
      exact ⟨records, isValue, areRecords.imp fun _ _ coercedRecord =>
        fieldsKeep_of_coerceFields fields faithful coercedRecord⟩
  | .texts, _, coerced => by
      rintro items rfl
      rw [Kind.coerce, textsOf_eq_map, Except.ok.injEq] at coerced
      exact ⟨_, coerced.symm, rfl, fun text member => isFilledIn_of_mem member⟩
  | .linksByPlatform, _, coerced => by
      rintro members rfl
      exact ⟨_, (Except.ok.inj coerced).symm, forall₂_platformLinks members⟩
  | .fixed, _, coerced => (Except.ok.inj coerced).symm

theorem Field.keeps_of_coerce {stored : Json.Members} {value : Json} :
    ∀ field : Field, (strict = true → field.isFaithful = true) →
      field.coerce stored = .ok (field.name, value) → field.Keeps strict stored value
  | ⟨name, key, kind, fallback⟩, faithful, coerced => by
      obtain ⟨result, isResult, isValue⟩ := (map_eq_ok_iff _ _ _).mp coerced
      obtain rfl : result = value := congrArg Prod.snd isValue
      refine ⟨Kind.keeps_of_coerce kind faithful isResult, fun unread => ?_⟩
      rcases Kind.coerce_of_not_reads unread isResult with isFallback | takes
      · exact Or.inl isFallback
      · cases strict with
        | false => exact Or.inr ⟨rfl, takes⟩
        | true => exact Or.inl (takes.eq_fallback (faithful rfl))

theorem fieldsKeep_of_coerceFields {stored values : Json.Members} :
    ∀ fields : List Field, (strict = true → allAreFaithful fields = true) →
      coerceFields stored fields = .ok values → FieldsKeep strict stored values fields
  | [], _, coerced => (Except.ok.inj coerced).symm
  | field :: others, faithful, coerced => by
      obtain ⟨value, rest, isFirst, isRest, isValues⟩ := coerceFields_cons_ok coerced
      have both (isStrict : strict = true) := Bool.and_eq_true_iff.mp (faithful isStrict)
      exact ⟨value, rest, isValues,
        Field.keeps_of_coerce field (fun isStrict => (both isStrict).1) isFirst,
        fieldsKeep_of_coerceFields others (fun isStrict => (both isStrict).2) isRest⟩

end

end Coerced

/-! ## Choices that break the contract -/

/-- Whether no integer is part of a value. -/
def HoldsNoInteger (stored : Json) : Prop :=
  ∀ number, ¬ Json.Occurs (.int number) stored

theorem HoldsNoInteger.array {items : List Json} (inside : ∀ item ∈ items, HoldsNoInteger item) :
    HoldsNoInteger (.array items) := by
  intro number occurs
  cases occurs with
  | inItem member occurs => exact inside _ member number occurs

theorem HoldsNoInteger.object {members : Json.Members}
    (inside : ∀ name value, (name, value) ∈ members → HoldsNoInteger value) :
    HoldsNoInteger (.object members) := by
  intro number occurs
  cases occurs with
  | inMember member occurs => exact inside _ _ member number occurs

theorem mem_of_mem_recordsIn {items : List Json} {members : Json.Members}
    (isRecord : members ∈ recordsIn items) : .object members ∈ items := by
  obtain ⟨item, isItem, isMembers⟩ := List.mem_filterMap.mp isRecord
  cases item with
  | object found => exact Option.some.inj isMembers ▸ isItem
  | _ => cases isMembers

/-- What is part of the value stored for a field is part of the props. -/
theorem occurs_of_stored {number : Int} {members : Json.Members} {field : Field}
    (occurs : Json.Occurs (.int number) (field.stored members)) :
    Json.Occurs (.int number) (.object members) := by
  unfold Field.stored at occurs
  cases found : members.lookup field.key with
  | none =>
      rw [found] at occurs
      cases occurs
  | some value =>
      rw [found] at occurs
      exact .inMember (Association.mem_of_lookup_eq_some found) occurs

/-- A value that a kind rejects holds an integer. -/
theorem Rejects.exists_occurs {kind : Kind} {stored : Json} (rejects : Rejects kind stored) :
    ∃ number, Json.Occurs (.int number) stored := by
  induction rejects with
  | number overflows => exact ⟨_, .itself⟩
  | records isRecord isField rejected inductionHypothesis =>
      obtain ⟨number, occurs⟩ := inductionHypothesis
      exact ⟨number, .inItem (mem_of_mem_recordsIn isRecord) (occurs_of_stored occurs)⟩

theorem exists_coerceFields {members : Json.Members} (noInteger : HoldsNoInteger (.object members))
    (fields : List Field) : ∃ values, coerceFields members fields = .ok values := by
  refine exists_ok_of_ne_error fun fails => ?_
  obtain ⟨field, isField, rejects⟩ := (coerceFields_eq_error_iff members fields).mp fails
  obtain ⟨number, occurs⟩ := rejects.exists_occurs
  exact noInteger number (occurs_of_stored occurs)

mutual

/-- A kind with a choice that lists the empty text without falling back on it breaks the contract:
nothing that is stored in a list is taken for the empty text. -/
theorem Kind.exists_broken {fallback : Json} :
    ∀ kind : Kind, kind.isFaithful fallback = false → ∃ stored, HoldsNoInteger stored ∧
      ∀ value, kind.coerce fallback stored = .ok value → kind.Keeps true fallback stored value →
        kind.reads stored = false ∧ value ≠ fallback
  | .choice options, unfaithful => by
      rw [Kind.isFaithful, Bool.or_eq_false_iff, Bool.not_eq_false'] at unfaithful
      obtain ⟨listed, notFallback⟩ := unfaithful
      refine ⟨.array [], .array nofun, fun value coerced _ => ⟨rfl, ?_⟩⟩
      have isEmpty : value = .text "" := by
        have notNull : Json.array [] ≠ .null := nofun
        rw [coerce_choice notNull, textOf_of_not_hasText rfl, if_pos listed] at coerced
        exact (Except.ok.inj coerced).symm
      rintro rfl
      rw [isEmpty] at notFallback
      cases notFallback
  | .records fields, unfaithful => by
      obtain ⟨members, noInteger, broken⟩ := exists_broken_fields fields unfaithful
      refine ⟨.array [.object members], .array fun item member => ?_, fun value coerced keeps => ?_⟩
      · rw [List.mem_singleton.mp member]
        exact noInteger
      · obtain ⟨records, isValue, areRecords⟩ := coerce_records_array coerced
        obtain ⟨kept, isKept, areKept⟩ := keeps _ rfl
        -- Both say something of the one record of the list, and agree on its values.
        change List.Forall₂ _ [members] records at areRecords
        change List.Forall₂ _ [members] kept at areKept
        obtain _ | ⟨isRecord, _ | _⟩ := areRecords
        obtain _ | ⟨keepsRecord, _ | _⟩ := areKept
        rw [isValue] at isKept
        cases isKept
        exact absurd keepsRecord (broken _ isRecord)
  | .text, unfaithful => by cases unfaithful
  | .link, unfaithful => by cases unfaithful
  | .number, unfaithful => by cases unfaithful
  | .flag, unfaithful => by cases unfaithful
  | .texts, unfaithful => by cases unfaithful
  | .linksByPlatform, unfaithful => by cases unfaithful
  | .fixed, unfaithful => by cases unfaithful

theorem exists_broken_fields :
    ∀ fields : List Field, allAreFaithful fields = false → ∃ members : Json.Members,
      HoldsNoInteger (.object members) ∧ ∀ values, coerceFields members fields = .ok values →
        ¬ FieldsKeep true members values fields
  | [], unfaithful => by cases unfaithful
  | ⟨name, key, kind, fallback⟩ :: others, unfaithful => by
      rw [allAreFaithful, Bool.and_eq_false_iff] at unfaithful
      rcases unfaithful with first | later
      · obtain ⟨stored, noInteger, broken⟩ := Kind.exists_broken kind first
        -- The fields behind this one may read the same key: without integers none of them fails.
        refine ⟨[(key, stored)], .object ?_, fun values coerced keep => ?_⟩
        · intro _ value member
          obtain ⟨rfl, rfl⟩ := Prod.mk.inj (List.mem_singleton.mp member)
          exact noInteger
        · obtain ⟨value, rest, isFirst, _, isValues⟩ := coerceFields_cons_ok coerced
          obtain ⟨kept, keptRest, areKept, ⟨keepsKind, keepsFallback⟩, _⟩ := keep
          rw [isValues, List.cons.injEq, Prod.mk.injEq] at areKept
          obtain ⟨⟨_, rfl⟩, _⟩ := areKept
          obtain ⟨result, isResult, isValue⟩ := (map_eq_ok_iff _ _ _).mp isFirst
          obtain rfl : result = value := congrArg Prod.snd isValue
          have isStored : (List.lookup key [(key, stored)]).getD .null = stored := by simp
          rw [isStored] at keepsKind keepsFallback isResult
          obtain ⟨unread, notFallback⟩ := broken result isResult keepsKind
          rcases keepsFallback unread with isFallback | ⟨notStrict, _⟩
          · exact notFallback isFallback
          · cases notStrict
      · obtain ⟨members, noInteger, broken⟩ := exists_broken_fields others later
        refine ⟨members, noInteger, fun values coerced keep => ?_⟩
        obtain ⟨value, rest, _, isRest, isValues⟩ := coerceFields_cons_ok coerced
        obtain ⟨kept, keptRest, areKept, _, keepRest⟩ := keep
        rw [isValues, List.cons.injEq] at areKept
        exact broken rest isRest (areKept.2 ▸ keepRest)

end

/-! ## What coercion looks at -/

/-- Props with the same values under the keys of some fields have the same values for them. -/
theorem coerceFields_eq_of_lookup_eq {members others : Json.Members} {fields : List Field}
    (same : ∀ field ∈ fields, members.lookup field.key = others.lookup field.key) :
    coerceFields members fields = coerceFields others fields := by
  refine coerceFields_congr fun field isField => ?_
  obtain ⟨name, key, kind, fallback⟩ := field
  rw [Field.coerce, Field.coerce, same _ isField]

theorem membersOf_of_not_object {stored : Json} (noObject : ∀ members, stored ≠ .object members) :
    membersOf stored = [] := by
  cases stored with
  | object members => exact absurd rfl (noObject members)
  | _ => rfl

/-! ## The contract of coercion -/

theorem allAreFaithful_of_mem_catalogue :
    ∀ definition ∈ Component.catalogue, allAreFaithful definition.fields = true := by
  decide +kernel

/-- Coerced values are those that their fields may have, for every kind and at any depth of records;
in particular what a kind does not read gives the fallback.  A choice that lists the empty text
without falling back on it takes such a value for the empty text: the contract is strict exactly for
the fields without such choices, among them those of all types.  Coercion looks at nothing but the
values under the keys of the fields. -/
theorem coercion_keeps_contract (fields : List Field) :
    (∀ stored values, coerce fields stored = .ok values →
      FieldsKeep false (membersOf stored) values fields) ∧
    ((∀ stored values, coerce fields stored = .ok values →
        FieldsKeep true (membersOf stored) values fields) ↔ allAreFaithful fields = true) ∧
    (fields ∈ Component.catalogue.map (·.fields) → allAreFaithful fields = true) ∧
    (∀ members others : Json.Members,
      (∀ field ∈ fields, members.lookup field.key = others.lookup field.key) →
        coerce fields (.object members) = coerce fields (.object others)) ∧
    ∀ stored, (∀ members, stored ≠ .object members) →
      coerce fields stored = coerce fields (.object []) := by
  refine ⟨fun stored values coerced => ?_, ⟨fun strict => ?_, fun faithful stored values => ?_⟩,
    fun ofType => ?_, fun members others same => coerceFields_eq_of_lookup_eq same,
    fun stored noObject => ?_⟩
  · exact fieldsKeep_of_coerceFields fields nofun coerced
  · by_contra unfaithful
    obtain ⟨members, noInteger, broken⟩ :=
      exists_broken_fields fields (Bool.not_eq_true _ ▸ unfaithful)
    obtain ⟨values, coerced⟩ := exists_coerceFields noInteger fields
    exact broken values coerced (strict (.object members) values coerced)
  · exact fieldsKeep_of_coerceFields fields fun _ => faithful
  · obtain ⟨definition, member, rfl⟩ := List.mem_map.mp ofType
    exact allAreFaithful_of_mem_catalogue definition member
  · rw [coerce, membersOf_of_not_object noObject]
    rfl

/-- The values of a button whose style is stored as a list and whose text has blanks around it. -/
theorem coercion_keeps_contract_button :
    ∃ values, coerce Component.Button.definition.fields
        (.object [("text", .text " Buy "), ("style", .array [])]) = .ok values ∧
      values.lookup "text" = some (.text "Buy") ∧ values.lookup "style" = some (.text "primary") ∧
      FieldsKeep true [("text", .text " Buy "), ("style", .array [])] values
        Component.Button.definition.fields := by
  obtain ⟨_, strict, faithful, _⟩ := coercion_keeps_contract Component.Button.definition.fields
  have isType : Component.Button.definition ∈ Component.catalogue := by simp [Component.catalogue]
  exact ⟨_, rfl, rfl, rfl, strict.mpr (faithful (List.mem_map_of_mem isType))
    (.object [("text", .text " Buy "), ("style", .array [])]) _ rfl⟩

/-- A list that is stored for a choice with the empty text is taken for it. -/
theorem not_coercion_keeps_contract :
    ¬ ∀ (fields : List Field) (stored : Json) (values : Json.Members),
      coerce fields stored = .ok values → FieldsKeep true (membersOf stored) values fields := by
  intro keep
  obtain ⟨value, rest, areValues, ⟨_, keepsFallback⟩, _⟩ :=
    keep [choiceField "x" "x" ["", "a"] "a"] (.object [("x", .array [])]) [("x", .text "")] rfl
  cases areValues
  rcases keepsFallback rfl with isFallback | ⟨notStrict, _⟩
  · exact absurd (Json.text.inj isFallback) (by decide)
  · cases notStrict

end StaticSite.Schema
