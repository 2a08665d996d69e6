import StaticSite.Proofs.Json.Data
import StaticSite.Proofs.Related
import StaticSite.Schema.Coercion

/-!
Contract: the values that coercion gives when it succeeds.

Owns:
- the values of fields one by one, with the names of the fields, and fields that hold texts;
- fields with plain fallbacks, and what values and lists they give.

Does not own: when coercion fails (see `StaticSite.Proofs.Schema.Totality`).
-/

namespace StaticSite.Schema

/-! ## Sequences of coercions -/

theorem map_eq_ok_iff {Value Result : Type} (change : Value → Result)
    (outcome : Except CoercionError Value) (result : Result) :
    outcome.map change = .ok result ↔ ∃ value, outcome = .ok value ∧ change value = result := by
  cases outcome with
  | error error => simp [Except.map]
  | ok value => simp [Except.map]

/-- Each result of a sequence of coercions is that of one of the values, in their order. -/
theorem forall₂_of_mapM_ok {Value Result : Type} {coerceOne : Value → Except CoercionError Result}
    {values : List Value} {results : List Result} (coerced : values.mapM coerceOne = .ok results) :
    List.Forall₂ (fun value result => coerceOne value = .ok result) values results := by
  induction values generalizing results with
  | nil =>
      rw [List.mapM_nil] at coerced
      rw [← Except.ok.inj coerced]
      exact .nil
  | cons value others inductionHypothesis =>
      rw [List.mapM_cons] at coerced
      cases isFirst : coerceOne value with
      | error error =>
          rw [isFirst] at coerced
          cases coerced
      | ok first =>
          cases isRest : others.mapM coerceOne with
          | error error =>
              rw [isFirst, isRest] at coerced
              cases coerced
          | ok rest =>
              rw [isFirst, isRest] at coerced
              rw [← Except.ok.inj coerced]
              exact .cons isFirst (inductionHypothesis isRest)

/-! ## Fields -/

/-- The values of some fields are that of the first and those of the others. -/
theorem coerceFields_cons_ok {stored values : Json.Members} {field : Field} {others : List Field}
    (coerced : coerceFields stored (field :: others) = .ok values) :
    ∃ value rest, field.coerce stored = .ok (field.name, value) ∧
      coerceFields stored others = .ok rest ∧ values = (field.name, value) :: rest := by
  obtain ⟨name, key, kind, fallback⟩ := field
  rw [coerceFields] at coerced
  cases isFirst : kind.coerce fallback ((stored.lookup key).getD .null) with
  | error error => simp [Field.coerce, isFirst, Except.map, Except.bind] at coerced
  | ok value =>
      cases isRest : coerceFields stored others with
      | error error => simp [Field.coerce, isFirst, isRest, Except.map, Except.bind] at coerced
      | ok rest =>
          simp only [Field.coerce, isFirst, isRest, Except.map, Except.bind,
            Except.ok.injEq] at coerced
          refine ⟨value, rest, ?_, rfl, coerced.symm⟩
          simp only [Field.coerce, isFirst, Except.map]

theorem coerceFields_cons {stored rest : Json.Members} {field : Field} {others : List Field}
    {value : String × Json} (isFirst : field.coerce stored = .ok value)
    (isRest : coerceFields stored others = .ok rest) :
    coerceFields stored (field :: others) = .ok (value :: rest) := by
  rw [coerceFields, isFirst, isRest]
  rfl

theorem names_coerceFields {stored values : Json.Members} {fields : List Field}
    (coerced : coerceFields stored fields = .ok values) :
    values.map Prod.fst = fields.map Field.name := by
  induction fields generalizing values with
  | nil =>
      rw [coerceFields] at coerced
      rw [← Except.ok.inj coerced]
      rfl
  | cons field others inductionHypothesis =>
      obtain ⟨value, rest, _, isRest, isValues⟩ := coerceFields_cons_ok coerced
      rw [isValues, List.map_cons, List.map_cons, inductionHypothesis isRest]

/-- The value under the name of a field is that of the field, if no two fields share a name. -/
theorem lookup_coerceFields {stored values : Json.Members} {fields : List Field}
    (coerced : coerceFields stored fields = .ok values)
    (distinct : (fields.map Field.name).Nodup) {field : Field} (member : field ∈ fields) :
    ∃ value, field.coerce stored = .ok (field.name, value) ∧
      values.lookup field.name = some value := by
  induction fields generalizing values with
  | nil => exact absurd member List.not_mem_nil
  | cons first others inductionHypothesis =>
      obtain ⟨value, rest, isFirst, isRest, rfl⟩ := coerceFields_cons_ok coerced
      obtain ⟨unused, distinctLater⟩ := List.nodup_cons.mp distinct
      rcases List.mem_cons.mp member with rfl | later
      · exact ⟨value, isFirst, List.lookup_cons_self⟩
      · obtain ⟨found, isFound, isValue⟩ := inductionHypothesis isRest distinctLater later
        have differs : (field.name == first.name) = false :=
          beq_eq_false_iff_ne.mpr fun same => unused (same ▸ List.mem_map_of_mem later)
        exact ⟨found, isFound, by rw [List.lookup_cons, differs, isValue]⟩

/-- A text field has its fallback where no text is stored. -/
theorem coerce_textField (stored : Json.Members) (name key fallback : String) :
    (textField name key fallback).coerce stored =
      .ok (name, .text (if textOf ((stored.lookup key).getD .null) == "" then fallback
        else textOf ((stored.lookup key).getD .null))) := by
  simp only [textField, Field.coerce, Kind.coerce, Except.map]
  split
  · rfl
  · rfl

/-- A link field has its fallback where no text is stored, and else what the filter gives. -/
theorem coerce_linkField (stored : Json.Members) (name key fallback : String) :
    (linkField name key fallback).coerce stored =
      .ok (name, .text (if textOf ((stored.lookup key).getD .null) == "" then fallback
        else Url.safe (textOf ((stored.lookup key).getD .null)))) := by
  simp only [linkField, Field.coerce, Kind.coerce, Except.map]
  split
  · rfl
  · rfl

/-- Whether a field holds a text, whatever is stored. -/
def Field.isText : Field → Bool
  | ⟨_, _, .text, .text _⟩ => true
  | ⟨_, _, .link, .text _⟩ => true
  | _ => false

theorem Field.exists_text_of_isText {field : Field} (isText : field.isText = true)
    (stored : Json.Members) :
    ∃ text, field.coerce stored = .ok (field.name, .text text) := by
  unfold Field.isText at isText
  split at isText
  · exact ⟨_, coerce_textField stored _ _ _⟩
  · exact ⟨_, coerce_linkField stored _ _ _⟩
  · cases isText

/-- Fields that hold texts can be read from whatever is stored. -/
theorem exists_texts_of_isText {fields : List Field} (areTexts : fields.all Field.isText = true)
    (stored : Json.Members) :
    ∃ values, coerceFields stored fields = .ok values ∧
      ∀ entry ∈ values, ∃ text, entry.2 = .text text := by
  induction fields with
  | nil => exact ⟨[], rfl, nofun⟩
  | cons field others inductionHypothesis =>
      obtain ⟨isText, areLater⟩ := Bool.and_eq_true_iff.mp areTexts
      obtain ⟨text, isFirst⟩ := Field.exists_text_of_isText isText stored
      obtain ⟨rest, isRest, later⟩ := inductionHypothesis areLater
      exact ⟨_, coerceFields_cons isFirst isRest, List.forall_mem_cons.mpr ⟨⟨text, rfl⟩, later⟩⟩

/-! ## Fields with plain fallbacks -/

def isEmptyList : Json → Bool
  | .array items => items.isEmpty
  | _ => false

/-- Whether the values of a kind are neither lists nor records. -/
def Kind.isScalar : Kind → Bool
  | .records _ => false
  | .texts => false
  | .linksByPlatform => false
  | _ => true

mutual

/-- Whether the fields of the records of a kind, if it has any, are regular. -/
def Kind.isRegular : Kind → Bool
  | .records fields => allAreRegular fields
  | _ => true

/-- Whether a field falls back on the empty list or, if it holds no list, on a value that is none,
and likewise the fields inside. -/
def Field.isRegular : Field → Bool
  | ⟨_, _, kind, fallback⟩ =>
      kind.isRegular && if kind.isScalar then fallback.isScalar else isEmptyList fallback

def allAreRegular : List Field → Bool
  | [] => true
  | field :: others => field.isRegular && allAreRegular others

end

/-- The number that a stored value amounts to is an integer, or a finite number of double
precision. -/
theorem numberOf?_cases {stored number : Json} (isNumber : numberOf? stored = .ok (some number)) :
    (∃ whole, number = .int whole) ∨
      ∃ value : Binary64, number = .real value ∧ value.isFinite = true := by
  unfold numberOf? at isNumber
  split at isNumber
  · split at isNumber
    · cases isNumber
    · exact Or.inl ⟨_, (Option.some.inj (Except.ok.inj isNumber)).symm⟩
  · split at isNumber
    · rename_i finite
      exact Or.inr ⟨_, (Option.some.inj (Except.ok.inj isNumber)).symm, finite⟩
    · cases isNumber
  · rename_i typed
    have isTyped := Except.ok.inj isNumber
    unfold numberOfText? at isTyped
    split at isTyped
    · cases isTyped
    · split at isTyped
      · rename_i finite
        split at isTyped
        · exact Or.inl ⟨_, (Option.some.inj isTyped).symm⟩
        · exact Or.inr ⟨_, (Option.some.inj isTyped).symm, finite⟩
      · cases isTyped
  · cases isNumber

theorem isScalar_of_numberOf? {stored number : Json}
    (isNumber : numberOf? stored = .ok (some number)) : number.isScalar = true := by
  rcases numberOf?_cases isNumber with ⟨whole, rfl⟩ | ⟨value, rfl, _⟩
  · rfl
  · rfl

/-- A value that is no list is neither a list nor a record if its fallback is none. -/
theorem isScalar_coerce {kind : Kind} {fallback stored value : Json} (noList : kind.isScalar = true)
    (plain : fallback.isScalar = true) (coerced : kind.coerce fallback stored = .ok value) :
    value.isScalar = true := by
  cases kind with
  | records fields => cases noList
  | texts => cases noList
  | linksByPlatform => cases noList
  | number =>
      obtain ⟨number, isNumber, rfl⟩ := (map_eq_ok_iff _ _ _).mp coerced
      cases number with
      | none => exact plain
      | some number => exact isScalar_of_numberOf? isNumber
  | fixed => exact Except.ok.inj coerced ▸ plain
  | choice options =>
      rw [← Except.ok.inj coerced]
      split
      · exact plain
      · split
        · rfl
        · exact plain
  | _ =>
      rw [← Except.ok.inj coerced]
      split <;> first | exact plain | rfl

/-! ## Lists -/

theorem eq_of_isEmptyList {value : Json} (empty : isEmptyList value = true) :
    value = .array [] := by
  cases value with
  | array items => rw [List.isEmpty_iff.mp empty]
  | _ => cases empty

/-- A list of records is coerced to records with the values of their fields, in its order. -/
theorem coerce_records_array {fields : List Field} {fallback value : Json} {stored : List Json}
    (coerced : (Kind.records fields).coerce fallback (.array stored) = .ok value) :
    ∃ records, value = .array (records.map .object) ∧
      List.Forall₂ (fun source record => coerceFields source fields = .ok record) (recordsIn stored)
        records := by
  rw [Kind.coerce, map_eq_ok_iff] at coerced
  obtain ⟨items, isItems, rfl⟩ := coerced
  have areItems := forall₂_of_mapM_ok isItems
  clear isItems
  generalize recordsIn stored = sources at areItems ⊢
  induction areItems with
  | nil => exact ⟨[], rfl, .nil⟩
  | cons isItem _ inductionHypothesis =>
      obtain ⟨record, isRecord, rfl⟩ := (map_eq_ok_iff _ _ _).mp isItem
      obtain ⟨records, areRecords, coercedRecords⟩ := inductionHypothesis
      rw [Json.array.injEq] at areRecords
      exact ⟨record :: records, by rw [areRecords, List.map_cons], .cons isRecord coercedRecords⟩

/-- Each item of a list of records has the values of the fields of a record. -/
theorem coerce_records_ok {fields : List Field} {fallback stored value : Json}
    (empty : isEmptyList fallback = true)
    (coerced : (Kind.records fields).coerce fallback stored = .ok value) :
    ∃ items, value = .array items ∧ ∀ item ∈ items, ∃ source record,
      coerceFields source fields = .ok record ∧ item = .object record := by
  have nothing : value = fallback → ∃ items, value = .array items ∧ ∀ item ∈ items, ∃ source record,
      coerceFields source fields = .ok record ∧ item = .object record := fun same =>
    ⟨[], same.trans (eq_of_isEmptyList empty), nofun⟩
  cases stored with
  | array stored =>
      obtain ⟨records, isValue, areRecords⟩ := coerce_records_array coerced
      refine ⟨_, isValue, fun item member => ?_⟩
      obtain ⟨record, isRecord, rfl⟩ := List.mem_map.mp member
      obtain ⟨source, _, coercedRecord⟩ := Related.exists_of_mem areRecords isRecord
      exact ⟨source, record, coercedRecord, rfl⟩
  | _ => exact nothing (Except.ok.inj coerced).symm

theorem coerce_texts_ok {fallback stored value : Json} (empty : isEmptyList fallback = true)
    (coerced : Kind.texts.coerce fallback stored = .ok value) :
    ∃ items, value = .array items ∧ ∀ item ∈ items, ∃ text, item = .text text ∧ text ≠ "" := by
  have nothing : value = fallback → ∃ items, value = .array items ∧
      ∀ item ∈ items, ∃ text, item = .text text ∧ text ≠ "" := fun same =>
    ⟨[], same.trans (eq_of_isEmptyList empty), nofun⟩
  cases stored with
  | array stored =>
      refine ⟨textsOf stored, (Except.ok.inj coerced).symm, fun item member => ?_⟩
      obtain ⟨text, isText, rfl⟩ := List.mem_map.mp member
      exact ⟨text, rfl, bne_iff_ne.mp (List.mem_filter.mp isText).2⟩
  | _ => exact nothing (Except.ok.inj coerced).symm

/-- Each item of links by platform has a platform and a link from the filter. -/
theorem coerce_linksByPlatform_ok {fallback stored value : Json}
    (empty : isEmptyList fallback = true)
    (coerced : Kind.linksByPlatform.coerce fallback stored = .ok value) :
    ∃ items, value = .array items ∧ ∀ item ∈ items, ∃ platform address,
      item = .object [("platform", .text platform), ("url", .text (Url.safe address))] := by
  have nothing : value = fallback → ∃ items, value = .array items ∧ ∀ item ∈ items,
      ∃ platform address,
        item = .object [("platform", .text platform), ("url", .text (Url.safe address))] :=
    fun same => ⟨[], same.trans (eq_of_isEmptyList empty), nofun⟩
  cases stored with
  | object members =>
      refine ⟨members.filterMap platformLink?, (Except.ok.inj coerced).symm, fun item member => ?_⟩
      obtain ⟨⟨platform, stored⟩, _, isLink⟩ := List.mem_filterMap.mp member
      unfold platformLink? at isLink
      split at isLink
      · rename_i address _
        split at isLink
        · cases isLink
        · exact ⟨platform, address, (Option.some.inj isLink).symm⟩
      · cases isLink
  | _ => exact nothing (Except.ok.inj coerced).symm

end StaticSite.Schema
