import StaticSite.Proofs.Markup.Alike
import StaticSite.Proofs.Related
import StaticSite.Proofs.Schema.Coerced

/-!
Contract: coerced values that agree in what is present.

Owns:
- the agreement of two values of a kind, and of the values of some fields;
- the law that coerced values that agree look alike to sections.

Does not own: values that are derived from coerced ones (see `StaticSite.Proofs.Emission.Mark`).
-/

namespace StaticSite.Schema

open StaticSite.Markup

/-! ## Agreement -/

mutual

/-- Whether two values of a kind agree: lists are equally long, records in them agree one by one, and
of other values both are empty, zero or false, or both are not. -/
def Kind.Agree : Kind → Json → Json → Prop
  | .records fields, left, right => ∃ items others, left = .array items ∧ right = .array others ∧
      List.Forall₂ (fun item other => FieldsAgree fields (membersOf item) (membersOf other)) items
        others
  | .texts, left, right => ∃ items others, left = .array items ∧ right = .array others ∧
      items.length = others.length
  | .linksByPlatform, left, right => ∃ items others, left = .array items ∧ right = .array others ∧
      items.length = others.length
  | _, left, right => left.isTruthy = right.isTruthy

/-- Whether the values of some fields agree one by one. -/
def FieldsAgree : List Field → Json.Members → Json.Members → Prop
  | [], left, right => left = [] ∧ right = []
  | ⟨_, _, kind, _⟩ :: others, left, right => ∃ first rest second more,
      left = first :: rest ∧ right = second :: more ∧ kind.Agree first.2 second.2 ∧
        FieldsAgree others rest more

end

/-! ## Members -/

section Members

variable {names : List String}

/-- Members that have the same names one by one, and alike values under some of them. -/
abbrev AlikeMembers (names : List String) : Json.Members → Json.Members → Prop :=
  List.Forall₂ fun member other =>
    member.1 = other.1 ∧ (member.1 ∈ names → Alike names member.2 other.2)

/-- A name is bound to alike values in members that are alike, or in neither of them. -/
theorem AlikeMembers.lookup {left right : Json.Members} (alike : AlikeMembers names left right)
    {name : String} (isName : name ∈ names) :
    (left.lookup name = none ∧ right.lookup name = none) ∨
      ∃ value other, left.lookup name = some value ∧ right.lookup name = some other ∧
        Alike names value other := by
  induction alike with
  | nil => exact Or.inl ⟨rfl, rfl⟩
  | @cons member other left right first _ inductionHypothesis =>
      obtain ⟨sameName, alikeValue⟩ := first
      rw [List.lookup_cons, List.lookup_cons, ← sameName]
      by_cases found : name = member.1
      · rw [beq_iff_eq.mpr found]
        exact Or.inr ⟨_, _, rfl, rfl, alikeValue (found ▸ isName)⟩
      · rw [beq_eq_false_iff_ne.mpr found]
        exact inductionHypothesis

theorem alike_object {left right : Json.Members} (alike : AlikeMembers names left right) :
    Alike names (.object left) (.object right) := by
  refine .object ?_ ?_ ?_
  · cases alike with
    | nil => rfl
    | cons _ _ => rfl
  · intro name isName
    rcases AlikeMembers.lookup alike isName with
      ⟨nothing, nothingElse⟩ | ⟨value, other, found, foundOther, _⟩
    · rw [nothing, nothingElse]
    · rw [found, foundOther]
      exact ⟨nofun, nofun⟩
  · intro name isName value other found foundOther
    rcases AlikeMembers.lookup alike isName with ⟨nothing, _⟩ | ⟨_, _, isValue, isOther, alikeValue⟩
    · rw [found] at nothing
      cases nothing
    · rw [found] at isValue
      rw [foundOther] at isOther
      rw [Option.some.inj isValue, Option.some.inj isOther]
      exact alikeValue

end Members

/-! ## Coerced values -/

section Coercion

variable {names : List String}

theorem alike_texts {text other : String} (some : text ≠ "") (someOther : other ≠ "") :
    Alike names (.text text) (.text other) := by
  refine .scalar rfl rfl ?_
  rw [Json.isTruthy, Json.isTruthy, bne_iff_ne.mpr some, bne_iff_ne.mpr someOther]

/-- Links by platform are alike if no section depends on what they hold. -/
theorem alike_platformLinks (apart : "platform" ∉ names ∧ "url" ∉ names)
    (platform address otherPlatform otherAddress : String) :
    Alike names
      (.object [("platform", .text platform), ("url", .text address)])
      (.object [("platform", .text otherPlatform), ("url", .text otherAddress)]) :=
  alike_object (.cons ⟨rfl, fun isName => absurd isName apart.1⟩
    (.cons ⟨rfl, fun isName => absurd isName apart.2⟩ .nil))

/-- Arrays of one length are alike if any two of their items are. -/
theorem alike_array_of_length {left right : List Json}
    (agree : ∃ items others, Json.array left = .array items ∧ Json.array right = .array others ∧
      items.length = others.length)
    (alike : ∀ item ∈ left, ∀ other ∈ right, Alike names item other) :
    Alike names (.array left) (.array right) := by
  obtain ⟨_, _, same, otherSame, sameLength⟩ := agree
  obtain rfl := Json.array.inj same
  obtain rfl := Json.array.inj otherSame
  exact .array (Related.of_forall_mem sameLength alike)

mutual

/-- Coerced values of a kind that agree are alike. -/
theorem Kind.alike_coerce {fallback stored otherStored left right : Json}
    (apart : "platform" ∉ names ∧ "url" ∉ names) :
    ∀ kind : Kind, (⟨"", "", kind, fallback⟩ : Field).isRegular = true →
      kind.coerce fallback stored = .ok left → kind.coerce fallback otherStored = .ok right →
        kind.Agree left right → Alike names left right
  | .records fields, regular, coerced, otherCoerced, agree => by
      rw [Field.isRegular, Bool.and_eq_true] at regular
      obtain ⟨items, rfl, records⟩ := coerce_records_ok regular.2 coerced
      obtain ⟨others, rfl, otherRecords⟩ := coerce_records_ok regular.2 otherCoerced
      obtain ⟨_, _, same, otherSame, pairs⟩ := agree
      obtain rfl := Json.array.inj same
      obtain rfl := Json.array.inj otherSame
      refine .array (Related.imp_of_mem pairs fun item member other otherMember fieldsAgree => ?_)
      obtain ⟨_, record, isRecord, rfl⟩ := records item member
      obtain ⟨_, otherRecord, isOther, rfl⟩ := otherRecords other otherMember
      exact alike_object (alikeMembers_coerceFields apart fields regular.1 isRecord isOther fieldsAgree)
  | .texts, regular, coerced, otherCoerced, agree => by
      obtain ⟨items, rfl, texts⟩ := coerce_texts_ok regular coerced
      obtain ⟨others, rfl, otherTexts⟩ := coerce_texts_ok regular otherCoerced
      refine alike_array_of_length agree fun item member other otherMember => ?_
      obtain ⟨text, rfl, some⟩ := texts item member
      obtain ⟨otherText, rfl, someOther⟩ := otherTexts other otherMember
      exact alike_texts some someOther
  | .linksByPlatform, regular, coerced, otherCoerced, agree => by
      obtain ⟨items, rfl, links⟩ := coerce_linksByPlatform_ok regular coerced
      obtain ⟨others, rfl, otherLinks⟩ := coerce_linksByPlatform_ok regular otherCoerced
      refine alike_array_of_length agree fun item member other otherMember => ?_
      obtain ⟨platform, address, rfl⟩ := links item member
      obtain ⟨otherPlatform, otherAddress, rfl⟩ := otherLinks other otherMember
      exact alike_platformLinks apart _ _ _ _
  | .text, regular, coerced, otherCoerced, agree =>
      .scalar (isScalar_coerce rfl regular coerced) (isScalar_coerce rfl regular otherCoerced) agree
  | .link, regular, coerced, otherCoerced, agree =>
      .scalar (isScalar_coerce rfl regular coerced) (isScalar_coerce rfl regular otherCoerced) agree
  | .choice _, regular, coerced, otherCoerced, agree =>
      .scalar (isScalar_coerce rfl regular coerced) (isScalar_coerce rfl regular otherCoerced) agree
  | .number, regular, coerced, otherCoerced, agree =>
      .scalar (isScalar_coerce rfl regular coerced) (isScalar_coerce rfl regular otherCoerced) agree
  | .flag, regular, coerced, otherCoerced, agree =>
      .scalar (isScalar_coerce rfl regular coerced) (isScalar_coerce rfl regular otherCoerced) agree
  | .fixed, regular, coerced, otherCoerced, agree =>
      .scalar (isScalar_coerce rfl regular coerced) (isScalar_coerce rfl regular otherCoerced) agree

/-- Coerced values of fields that agree are alike under the same names. -/
theorem alikeMembers_coerceFields {stored otherStored left right : Json.Members}
    (apart : "platform" ∉ names ∧ "url" ∉ names) :
    ∀ fields : List Field, allAreRegular fields = true → coerceFields stored fields = .ok left →
      coerceFields otherStored fields = .ok right → FieldsAgree fields left right →
        AlikeMembers names left right
  | [], _, coerced, otherCoerced, _ => by
      rw [← Except.ok.inj coerced, ← Except.ok.inj otherCoerced]
      exact .nil
  | ⟨name, key, kind, fallback⟩ :: others, regular, coerced, otherCoerced, agree => by
      obtain ⟨value, rest, isValue, isRest, rfl⟩ := coerceFields_cons_ok coerced
      obtain ⟨otherValue, otherRest, isOther, isOtherRest, rfl⟩ := coerceFields_cons_ok otherCoerced
      rw [allAreRegular, Bool.and_eq_true] at regular
      obtain ⟨_, _, _, _, same, otherSame, agreeFirst, agreeLater⟩ := agree
      obtain ⟨rfl, rfl⟩ := List.cons.inj same
      obtain ⟨rfl, rfl⟩ := List.cons.inj otherSame
      rw [Field.coerce, map_eq_ok_iff] at isValue isOther
      obtain ⟨coercedValue, isCoerced, sameMember⟩ := isValue
      obtain ⟨otherCoercedValue, isOtherCoerced, otherSameMember⟩ := isOther
      obtain rfl := (Prod.mk.inj sameMember).2
      obtain rfl := (Prod.mk.inj otherSameMember).2
      exact .cons
        ⟨rfl, fun _ => Kind.alike_coerce apart kind regular.1 isCoerced isOtherCoerced agreeFirst⟩
        (alikeMembers_coerceFields apart others regular.2 isRest isOtherRest agreeLater)

end

end Coercion

end StaticSite.Schema
