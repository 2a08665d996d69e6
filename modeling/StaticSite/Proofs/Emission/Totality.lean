import Mathlib.Algebra.Group.Int.Defs
import StaticSite.Proofs.Emission.Renderer
import StaticSite.Proofs.Json.Reading
import StaticSite.Proofs.Schema.Totality

/-!
Contract: which components the built-in renderers fail on.

Owns:
- the keys under which the built-in types store numbers;
- the law that a built-in renderer fails exactly on an integer beyond the range of double
  precision under one of these keys.

Does not own: coercion of stored values (see `StaticSite.Proofs.Schema.Totality`).
-/

namespace StaticSite.Emission

open StaticSite.Component StaticSite.Schema

/-! ## Failure of a renderer -/

/-- A built-in renderer fails exactly if the props of its component cannot be coerced. -/
theorem rendererOf_eq_error_iff (definition : Definition) (node : Node) (cause : String) :
    rendererOf definition node = .error cause ↔
      cause = CoercionError.integerTooLarge.message ∧
        ∃ field ∈ definition.fields, Rejects field.kind (field.stored node.props) := by
  rw [← coerceFields_eq_error_iff node.props definition.fields, rendererOf,
    Definition.fragment]
  by_cases fails : coerceFields node.props definition.fields = .error .integerTooLarge
  · simp [fails, Except.map, Except.mapError, eq_comm]
  · obtain ⟨values, isValues⟩ := exists_ok_of_ne_error fails
    simp [isValues, Except.map, Except.mapError]

/-! ## Where numbers are stored -/

/-- The keys under which a type stores numbers. -/
def numberKeys (type : String) : List String :=
  if type = "map" then ["latitude", "longitude", "zoom"]
  else if type = "carousel" then ["interval"]
  else []

theorem isNumber_of_holdsNumber :
    ∀ definition ∈ catalogue, ∀ field ∈ definition.fields, field.kind.holdsNumber = true →
      field.kind.isNumber = true ∧ field.key ∈ numberKeys definition.type := by
  decide +kernel

theorem exists_isNumber_of_mem_numberKeys :
    ∀ definition ∈ catalogue, ∀ key ∈ numberKeys definition.type,
      ∃ field ∈ definition.fields, field.kind.isNumber = true ∧ field.key = key := by
  decide +kernel

theorem exists_definition_of_mem_numberKeys {type key : String}
    (member : key ∈ numberKeys type) : ∃ definition ∈ catalogue, definition.type = type := by
  unfold numberKeys at member
  split at member
  · rename_i isMap
    exact ⟨LocationMap.definition, by simp [catalogue], isMap.symm⟩
  · split at member
    · rename_i isCarousel
      exact ⟨Carousel.definition, by simp [catalogue], isCarousel.symm⟩
    · cases member

/-! ## The law of the built-in renderers -/

/-- Whether some props hold an integer beyond the range of double precision under a key. -/
def HoldsOverflow (props : Json.Members) (key : String) : Prop :=
  ∃ value, props.lookup key = some (.int value) ∧ Binary64.overflowBound ≤ value.natAbs

theorem rejects_stored_iff {field : Field} (isNumber : field.kind = .number)
    (props : Json.Members) :
    Rejects field.kind (field.stored props) ↔ HoldsOverflow props field.key := by
  rw [isNumber, rejects_number_iff, Field.stored, HoldsOverflow]
  cases props.lookup field.key with
  | none => simp
  | some stored => simp

/-- A definition has a rejected field exactly if one of the keys of its type holds an
integer that is too large. -/
theorem exists_rejects_iff {definition : Definition} (member : definition ∈ catalogue)
    (props : Json.Members) :
    (∃ field ∈ definition.fields, Rejects field.kind (field.stored props)) ↔
      ∃ key ∈ numberKeys definition.type, HoldsOverflow props key := by
  constructor
  · rintro ⟨field, isField, rejects⟩
    have found := isNumber_of_holdsNumber definition member field isField
      (holdsNumber_of_rejects rejects)
    exact ⟨field.key, found.2,
      (rejects_stored_iff ((isNumber_iff field.kind).mp found.1) props).mp rejects⟩
  · rintro ⟨key, isKey, overflows⟩
    obtain ⟨field, isField, isNumber, rfl⟩ :=
      exists_isNumber_of_mem_numberKeys definition member key isKey
    exact ⟨field, isField,
      (rejects_stored_iff ((isNumber_iff field.kind).mp isNumber) props).mpr overflows⟩

/-- The built-in renderers fail on a component exactly if its type stores numbers and one
of them is an integer that is too large. -/
theorem emit_builtIn_eq_error_iff (node : Node) (failure : RenderFailure) :
    Emitter.builtIn.emit node = .error failure ↔
      failure = ⟨node.type, node.id, CoercionError.integerTooLarge.message⟩ ∧
        ∃ key ∈ numberKeys node.type, HoldsOverflow node.props key := by
  unfold Emitter.emit
  cases found : Emitter.builtIn.renderers.lookup node.type with
  | none =>
      constructor
      · intro fails
        cases fails
      · rintro ⟨_, key, isKey, _⟩
        obtain ⟨definition, member, isType⟩ := exists_definition_of_mem_numberKeys isKey
        exact absurd isType ((lookup_builtIn_eq_none_iff node.type).mp found definition member)
  | some renderer =>
      obtain ⟨definition, member, isType, rfl⟩ := (lookup_builtIn_iff node.type renderer).mp found
      rw [← isType, ← exists_rejects_iff member node.props]
      have fails := rendererOf_eq_error_iff definition node
      cases outcome : rendererOf definition node with
      | ok inner =>
          simp only [outcome]
          constructor
          · intro failed
            cases failed
          · rintro ⟨_, rejected⟩
            have failed := (fails _).mpr ⟨rfl, rejected⟩
            rw [outcome] at failed
            cases failed
      | error cause =>
          obtain ⟨isCause, rejected⟩ := (fails cause).mp outcome
          simp only [outcome, isCause]
          constructor
          · intro failed
            exact ⟨(Except.error.inj failed).symm, rejected⟩
          · rintro ⟨isFailure, _⟩
            rw [isFailure]

theorem exists_emit_eq_ok_iff (node : Node) :
    (∃ fragment, Emitter.builtIn.emit node = .ok fragment) ↔
      ∀ key ∈ numberKeys node.type, ¬ HoldsOverflow node.props key := by
  constructor
  · rintro ⟨fragment, emitted⟩ key isKey overflows
    have fails := (emit_builtIn_eq_error_iff node _).mpr ⟨rfl, key, isKey, overflows⟩
    rw [emitted] at fails
    cases fails
  · intro fit
    cases emitted : Emitter.builtIn.emit node with
    | ok fragment => exact ⟨fragment, rfl⟩
    | error failure =>
        obtain ⟨-, key, isKey, overflows⟩ := (emit_builtIn_eq_error_iff node failure).mp emitted
        exact absurd overflows (fit key isKey)

/-- The built-in renderers are total but for one case, on props whose integers are within the limit
on digits, as all are that come from a JSON text (`Json.isRegular_of_read`); a longer one has no
decimal text. A component fails to render exactly if it is a map or a carousel and one of its numbers is an
integer beyond the range of double precision, and the failure tells so. Props of any declared shape
are read exactly if no field, at any depth of records, holds such an integer in the place of a
number. -/
theorem emission_total_iff (node : Node) (fields : List Field) (stored : Json) :
    ((Json.object node.props).HasShortIntegers →
      ∀ failure : RenderFailure, Emitter.builtIn.emit node = .error failure ↔
        failure = ⟨node.type, node.id, "int too large to convert to float"⟩ ∧
          ∃ key ∈ numberKeys node.type, HoldsOverflow node.props key) ∧
      (stored.HasShortIntegers →
        ((∃ values, coerce fields stored = .ok values) ↔
          ¬ ∃ field ∈ fields, Rejects field.kind (field.stored (membersOf stored)))) := by
  constructor
  · exact fun _ => emit_builtIn_eq_error_iff node
  · intro _
    rw [← coerceFields_eq_error_iff, coerce]
    constructor
    · rintro ⟨values, isValues⟩ fails
      rw [isValues] at fails
      cases fails
    · exact exists_ok_of_ne_error

/-- A map at a latitude that double precision cannot hold. -/
def distantMap : Node :=
  ⟨"m", "map", [("latitude", .int (10 ^ 400))]⟩

theorem hasShortIntegers_distantMap : (Json.object distantMap.props).HasShortIntegers := by
  have fits : (Nat.toDigits 10 (10 ^ 400 : Int).natAbs).length ≤ Json.integerDigitLimit := by
    rw [Nat.length_toDigits_le_iff (by decide) (by decide)]
    decide +kernel
  have regular : (Json.object distantMap.props).IsRegular :=
    Json.isRegular_object_iff.mpr ⟨List.nodup_singleton "latitude",
      Json.areRegular_cons (Json.isRegular_of_isReadScalar (.int _ fits)) Json.areRegular_nil⟩
  exact regular.hasShortIntegers

theorem holdsOverflow_distantMap : HoldsOverflow distantMap.props "latitude" :=
  ⟨10 ^ 400, rfl, by decide +kernel⟩

/-- The latitude is within the limit on digits, yet neither is the map rendered nor are its props
read. -/
theorem emission_total_distantMap :
    (Json.object distantMap.props).HasShortIntegers ∧
      Emitter.builtIn.emit distantMap =
        .error ⟨"map", "m", "int too large to convert to float"⟩ ∧
      ¬ ∃ values, coerce LocationMap.definition.fields (.object distantMap.props) = .ok values := by
  obtain ⟨fails, isRead⟩ :=
    emission_total_iff distantMap LocationMap.definition.fields (.object distantMap.props)
  have rejected : ∃ field ∈ LocationMap.definition.fields,
      Rejects field.kind (field.stored distantMap.props) :=
    (exists_rejects_iff (by simp [catalogue]) distantMap.props).mpr
      ⟨"latitude", by decide, holdsOverflow_distantMap⟩
  refine ⟨hasShortIntegers_distantMap, ?_, ?_⟩
  · exact (fails hasShortIntegers_distantMap _).mpr
      ⟨rfl, "latitude", by decide, holdsOverflow_distantMap⟩
  · exact fun reads => (isRead hasShortIntegers_distantMap).mp reads rejected

/-- The built-in renderers fail on a map whose latitude is too large. -/
theorem not_emission_total :
    ¬ ∀ node : Node, ∃ fragment, Emitter.builtIn.emit node = .ok fragment := by
  intro total
  have fit := (exists_emit_eq_ok_iff distantMap).mp (total distantMap)
  exact fit "latitude" (by decide) holdsOverflow_distantMap

end StaticSite.Emission
