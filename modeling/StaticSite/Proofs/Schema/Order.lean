import StaticSite.Proofs.Json.Order
import StaticSite.Schema.Coercion

/-!
Contract: props whose objects list their members in another order.

Owns:
- the kinds of fields whose value does not depend on the order of members;
- the law that such fields are coerced to the same values;
- links by platform, which are coerced to the same values if the platforms stand in the same order.

Does not own: the fields of the types of components (see `StaticSite.Proofs.Emission.Order`).
-/

namespace StaticSite.Schema

open StaticSite.Json

/-! ## Kinds that ignore the order of members -/

mutual

/-- Whether what a kind makes of a value does not depend on the order of members in it.  Links by
platform are listed in the order of the platforms. -/
def Kind.ignoresOrder : Kind → Bool
  | .records fields => allIgnoreOrder fields
  | .linksByPlatform => false
  | _ => true

/-- Whether the kinds of some fields ignore the order of members. -/
def allIgnoreOrder : List Field → Bool
  | [] => true
  | ⟨_, _, kind, _⟩ :: others => kind.ignoresOrder && allIgnoreOrder others

end

/-! ## Values of one kind -/

section Values

variable {stored other : Json} (reorders : Reorders stored other)

include reorders

theorem textOf_eq : textOf stored = textOf other := by
  cases reorders with
  | scalar | array | object => rfl

theorem numberOf?_eq : numberOf? stored = numberOf? other := by
  cases reorders with
  | scalar | array | object => rfl

theorem flagOf?_eq : flagOf? stored = flagOf? other := by
  cases reorders with
  | scalar | array | object => rfl

end Values

theorem recordsIn_reorders {items others : List Json} (inside : List.Forall₂ Reorders items others) :
    List.Forall₂ (fun members others => Reorders (.object members) (.object others))
      (recordsIn items) (recordsIn others) := by
  refine List.rel_filterMap (fun item other reorders => ?_) inside
  cases reorders with
  | scalar scalar =>
      cases item with
      | null | bool _ | int _ | real _ | text _ => exact .none
      | array | object => cases scalar
  | array => exact .none
  | object distinct otherDistinct inside => exact .some (.object distinct otherDistinct inside)

theorem textsOf_eq {items others : List Json} (inside : List.Forall₂ Reorders items others) :
    textsOf items = textsOf others := by
  rw [textsOf, textsOf,
    Related.map_eq_map_iff.mpr (inside.imp fun _ _ reorders => textOf_eq reorders)]

mutual

/-- Kinds that ignore the order of members coerce values that differ in it alike. -/
theorem Kind.coerce_eq {stored other : Json} (reorders : Reorders stored other) (fallback : Json) :
    ∀ kind : Kind, kind.ignoresOrder = true →
      kind.coerce fallback stored = kind.coerce fallback other
  | .records fields, ignores => by
      cases reorders with
      | scalar | object => rfl
      | array inside =>
          have records := (recordsIn_reorders inside).imp fun _ _ reordersRecord =>
            congrArg (Except.map Json.object) (coerceFields_eq reordersRecord fields ignores)
          rw [Kind.coerce, Kind.coerce]
          exact congrArg (Except.map Json.array) (Related.mapM_eq_mapM records)
  | .linksByPlatform, ignores => by cases ignores
  | .texts, _ => by
      cases reorders with
      | scalar | object => rfl
      | array inside =>
          rw [Kind.coerce, Kind.coerce]
          exact congrArg (fun texts => Except.ok (Json.array texts)) (textsOf_eq inside)
  | .choice options, _ => by
      cases reorders with
      | scalar | array | object => rfl
  | .text, _ => by rw [Kind.coerce, Kind.coerce, textOf_eq reorders]
  | .link, _ => by rw [Kind.coerce, Kind.coerce, textOf_eq reorders]
  | .number, _ => by rw [Kind.coerce, Kind.coerce, numberOf?_eq reorders]
  | .flag, _ => by rw [Kind.coerce, Kind.coerce, flagOf?_eq reorders]
  | .fixed, _ => rfl

/-- Fields that ignore the order of members have the same values in props that differ in it. -/
theorem coerceFields_eq {stored others : Json.Members}
    (reorders : Reorders (.object stored) (.object others)) :
    ∀ fields : List Field, allIgnoreOrder fields = true →
      coerceFields stored fields = coerceFields others fields
  | [], _ => rfl
  | ⟨name, key, kind, fallback⟩ :: rest, ignores => by
      rw [allIgnoreOrder, Bool.and_eq_true] at ignores
      rw [coerceFields, coerceFields, Field.coerce, Field.coerce,
        Kind.coerce_eq (reorders.member key) fallback kind ignores.1,
        coerceFields_eq reorders rest ignores.2]

end

theorem Field.coerce_eq {stored others : Json.Members}
    (reorders : Reorders (.object stored) (.object others)) {field : Field}
    (ignores : field.kind.ignoresOrder = true) : field.coerce stored = field.coerce others := by
  obtain ⟨name, key, kind, fallback⟩ := field
  rw [Field.coerce, Field.coerce, Kind.coerce_eq (reorders.member key) fallback kind ignores]

/-! ## Links by platform -/

/-- The names of the members of a stored value, in their order. -/
def namesOf (stored : Json) : List String :=
  (membersOf stored).map Prod.fst

theorem platformLink?_eq {entry other : String × Json} (sameName : entry.1 = other.1)
    (reorders : Reorders entry.2 other.2) : platformLink? entry = platformLink? other := by
  obtain ⟨name, value⟩ := entry
  obtain ⟨otherName, otherValue⟩ := other
  obtain rfl : name = otherName := sameName
  cases reorders with
  | scalar | array | object => rfl

/-- Links by platform are the same if the platforms are listed in the same order. -/
theorem coerce_linksByPlatform_eq {stored other : Json} (reorders : Reorders stored other)
    (sameOrder : namesOf stored = namesOf other) (fallback : Json) :
    Kind.linksByPlatform.coerce fallback stored = Kind.linksByPlatform.coerce fallback other := by
  cases reorders with
  | scalar | array => rfl
  | @object members others distinct otherDistinct inside =>
      have pairs := forall₂_of_names_eq distinct sameOrder inside
      have sameLinks : members.filterMap platformLink? = others.filterMap platformLink? :=
        Related.filterMap_eq_filterMap (pairs.imp fun _ _ pair =>
          platformLink?_eq pair.1 pair.2)
      rw [Kind.coerce, Kind.coerce]
      exact congrArg (fun links => Except.ok (Json.array links)) sameLinks

/-- Props in which each of some fields is coerced alike have the same values for all of them. -/
theorem coerceFields_congr {stored others : Json.Members} {fields : List Field}
    (same : ∀ field ∈ fields, field.coerce stored = field.coerce others) :
    coerceFields stored fields = coerceFields others fields := by
  induction fields with
  | nil => rfl
  | cons field rest inductionHypothesis =>
      obtain ⟨sameFirst, sameRest⟩ := List.forall_mem_cons.mp same
      rw [coerceFields, coerceFields, sameFirst, inductionHypothesis sameRest]

end StaticSite.Schema
