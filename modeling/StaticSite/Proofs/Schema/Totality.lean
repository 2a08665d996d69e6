import StaticSite.Proofs.Number.Overflow
import StaticSite.Schema.Coercion

/-!
Contract: which stored values cannot be coerced to a declared kind.

Owns:
- the stored values that a kind rejects, at any depth of records;
- the law that coercion fails on exactly these;
- the kinds that reject any value at all.

Does not own: which kinds the fields of a component have (see
`StaticSite.Proofs.Emission.Totality`).
-/

namespace StaticSite.Schema

def Field.stored (members : Json.Members) (field : Field) : Json :=
  (members.lookup field.key).getD .null

/-- A stored value that a kind rejects: an integer beyond the range of double precision in
the place of a number, or a list with a record that has a rejected field. -/
inductive Rejects : Kind → Json → Prop where
  | number {value : Int} (overflows : Binary64.overflowBound ≤ value.natAbs) :
      Rejects .number (.int value)
  | records {fields : List Field} {items : List Json} {members : Json.Members} {field : Field}
      (isRecord : members ∈ recordsIn items) (isField : field ∈ fields)
      (rejected : Rejects field.kind (field.stored members)) :
      Rejects (.records fields) (.array items)

/-! ## Failure of a sequence of coercions -/

theorem map_eq_error_iff {Value Result : Type} (change : Value → Result)
    (outcome : Except CoercionError Value) :
    outcome.map change = .error .integerTooLarge ↔ outcome = .error .integerTooLarge := by
  cases outcome with
  | error error => simp [Except.map]
  | ok value => simp [Except.map]

theorem bind_eq_error_iff {Value Result : Type} (first : Except CoercionError Value)
    (next : Value → Except CoercionError Result) :
    first.bind next = .error .integerTooLarge ↔
      first = .error .integerTooLarge ∨ ∃ value, first = .ok value ∧
        next value = .error .integerTooLarge := by
  cases first with
  | error error => simp [Except.bind]
  | ok value => simp [Except.bind]

theorem exists_ok_of_ne_error {Value : Type} {outcome : Except CoercionError Value}
    (succeeds : outcome ≠ .error .integerTooLarge) : ∃ value, outcome = .ok value := by
  cases outcome with
  | error error => cases error with | integerTooLarge => exact absurd rfl succeeds
  | ok value => exact ⟨value, rfl⟩

/-- Coercing each of some values fails exactly if one of them cannot be coerced. -/
theorem mapM_eq_error_iff {Value Result : Type} (coerceOne : Value → Except CoercionError Result)
    (values : List Value) :
    values.mapM coerceOne = .error .integerTooLarge ↔
      ∃ value ∈ values, coerceOne value = .error .integerTooLarge := by
  induction values with
  | nil => simp [List.mapM_nil, pure, Except.pure]
  | cons value others inductionHypothesis =>
      rw [List.mapM_cons]
      change (coerceOne value).bind (fun first =>
        (others.mapM coerceOne).bind fun rest => .ok (first :: rest)) = _ ↔ _
      simp only [List.mem_cons, exists_eq_or_imp]
      rw [bind_eq_error_iff, ← inductionHypothesis]
      by_cases fails : coerceOne value = .error .integerTooLarge
      · simp [fails]
      · obtain ⟨result, isResult⟩ := exists_ok_of_ne_error fails
        simp [isResult, bind_eq_error_iff]

/-! ## Failure of a coercion -/

theorem numberOf?_eq_error_iff (stored : Json) :
    numberOf? stored = .error .integerTooLarge ↔ Rejects .number stored := by
  cases stored with
  | int value =>
      simp only [numberOf?]
      constructor
      · intro fails
        split at fails
        · rename_i overflows
          exact .number ((Binary64.overflows_iff value).mp overflows)
        · cases fails
      · rintro ⟨overflows⟩
        rw [if_pos ((Binary64.overflows_iff value).mpr overflows)]
  | _ =>
      constructor
      · intro fails
        cases fails
      · intro rejected
        cases rejected

mutual

/-- Coercion to a kind fails exactly on the values that the kind rejects. -/
theorem Kind.coerce_eq_error_iff (fallback stored : Json) :
    ∀ kind : Kind, kind.coerce fallback stored = .error .integerTooLarge ↔ Rejects kind stored
  | .number => by
      rw [Kind.coerce, map_eq_error_iff, numberOf?_eq_error_iff]
  | .records fields => by
      cases stored with
      | array items =>
          rw [Kind.coerce, map_eq_error_iff, mapM_eq_error_iff]
          constructor
          · rintro ⟨members, isRecord, fails⟩
            rw [map_eq_error_iff, coerceFields_eq_error_iff members fields] at fails
            obtain ⟨field, isField, rejected⟩ := fails
            exact .records isRecord isField rejected
          · intro rejects
            cases rejects with
            | records isRecord isField rejected =>
                refine ⟨_, isRecord, ?_⟩
                rw [map_eq_error_iff, coerceFields_eq_error_iff _ fields]
                exact ⟨_, isField, rejected⟩
      | _ => exact ⟨nofun, nofun⟩
  | .text => ⟨nofun, nofun⟩
  | .link => ⟨nofun, nofun⟩
  | .choice options => ⟨nofun, nofun⟩
  | .flag => ⟨nofun, nofun⟩
  | .texts => ⟨nofun, nofun⟩
  | .linksByPlatform => ⟨nofun, nofun⟩
  | .fixed => ⟨nofun, nofun⟩

theorem Field.coerce_eq_error_iff (members : Json.Members) :
    ∀ field : Field, field.coerce members = .error .integerTooLarge ↔
      Rejects field.kind (field.stored members)
  | ⟨name, key, kind, fallback⟩ => by
      rw [Field.coerce, map_eq_error_iff]
      exact Kind.coerce_eq_error_iff fallback _ kind

/-- Coercion of stored props fails exactly if one of the fields rejects its value. -/
theorem coerceFields_eq_error_iff (members : Json.Members) :
    ∀ fields : List Field, coerceFields members fields = .error .integerTooLarge ↔
      ∃ field ∈ fields, Rejects field.kind (field.stored members)
  | [] => by
      constructor
      · intro fails
        cases fails
      · rintro ⟨field, member, _⟩
        cases member
  | field :: others => by
      simp only [List.mem_cons, exists_eq_or_imp]
      rw [coerceFields, bind_eq_error_iff, Field.coerce_eq_error_iff members field,
        ← coerceFields_eq_error_iff members others]
      by_cases fails : field.coerce members = .error .integerTooLarge
      · exact iff_of_true (Or.inl ((Field.coerce_eq_error_iff members field).mp fails))
          (Or.inl ((Field.coerce_eq_error_iff members field).mp fails))
      · obtain ⟨member, isMember⟩ := exists_ok_of_ne_error fails
        simp [isMember, map_eq_error_iff]

end

/-! ## Kinds that reject some value -/

mutual

/-- Whether a kind is that of numbers, or of records with numbers at any depth. -/
def Kind.holdsNumber : Kind → Bool
  | .number => true
  | .records fields => anyHoldsNumber fields
  | _ => false

/-- Whether the kind of a field holds numbers. -/
def Field.holdsNumber : Field → Bool
  | ⟨_, _, kind, _⟩ => kind.holdsNumber

/-- Whether the kind of one of some fields holds numbers. -/
def anyHoldsNumber : List Field → Bool
  | [] => false
  | field :: others => field.holdsNumber || anyHoldsNumber others

end

def Kind.isNumber : Kind → Bool
  | .number => true
  | _ => false

theorem isNumber_iff (kind : Kind) : kind.isNumber = true ↔ kind = .number := by
  cases kind <;> simp [Kind.isNumber]

theorem holdsNumber_kind (field : Field) : field.holdsNumber = field.kind.holdsNumber := by
  cases field
  rfl

theorem anyHoldsNumber_of_mem {fields : List Field} {field : Field} (member : field ∈ fields)
    (holds : field.kind.holdsNumber = true) : anyHoldsNumber fields = true := by
  induction fields with
  | nil => cases member
  | cons first others inductionHypothesis =>
      rw [anyHoldsNumber, Bool.or_eq_true]
      rcases List.mem_cons.mp member with rfl | later
      · exact Or.inl ((holdsNumber_kind field).trans holds)
      · exact Or.inr (inductionHypothesis later)

theorem holdsNumber_of_rejects {kind : Kind} {stored : Json} (rejects : Rejects kind stored) :
    kind.holdsNumber = true := by
  induction rejects with
  | number overflows => rfl
  | records isRecord isField rejected inductionHypothesis =>
      exact anyHoldsNumber_of_mem isField inductionHypothesis

theorem rejects_number_iff (stored : Json) :
    Rejects .number stored ↔
      ∃ value, stored = .int value ∧ Binary64.overflowBound ≤ value.natAbs := by
  constructor
  · rintro ⟨overflows⟩
    exact ⟨_, rfl, overflows⟩
  · rintro ⟨value, rfl, overflows⟩
    exact .number overflows

end StaticSite.Schema
