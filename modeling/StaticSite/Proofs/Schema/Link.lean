import StaticSite.Proofs.Json.Data
import StaticSite.Proofs.Markup.Origin
import StaticSite.Proofs.Schema.Coerced
import StaticSite.Proofs.Url.Scheme

/-!
Contract: values that hold safe links under some names.

Owns:
- values in which every member with such a name, at any depth, fills in an address that may stand in
  a page;
- the law that look-up and entering of such values in scopes give such addresses and values;
- fields whose coerced values are such values, whatever is stored.

Does not own: where the addresses stand in markup (see `StaticSite.Proofs.Markup.Link`).
-/

namespace StaticSite.Schema

open StaticSite.Json StaticSite.Markup StaticSite.Url

/-! ## Values with safe links -/

/-- Whether every member with one of some names, at any depth of a value, fills in an address that
may stand in a page. -/
def HoldsLinks (names : List String) (value : Json) : Prop :=
  ∀ members : Members, Occurs (.object members) value →
    ∀ name content, (name, content) ∈ members → name ∈ names → IsEmbeddable (filledText content)

section HoldsLinks

variable {names : List String}

theorem HoldsLinks.of_occurs {part whole : Json} (holds : HoldsLinks names whole)
    (occurs : Occurs part whole) : HoldsLinks names part :=
  fun members inside => holds members (inside.trans occurs)

theorem holdsLinks_array {items : List Json} (inside : ∀ item ∈ items, HoldsLinks names item) :
    HoldsLinks names (.array items) := by
  intro members occurs
  cases occurs with
  | inItem member occurs => exact inside _ member members occurs

theorem holdsLinks_object {members : Members}
    (links : ∀ name content, (name, content) ∈ members → name ∈ names →
      IsEmbeddable (filledText content))
    (inside : ∀ name content, (name, content) ∈ members → HoldsLinks names content) :
    HoldsLinks names (.object members) := by
  intro found occurs
  cases occurs with
  | itself => exact links
  | inMember member occurs => exact inside _ _ member found occurs

theorem holdsLinks_of_isScalar {value : Json} (scalar : value.isScalar = true) :
    HoldsLinks names value := by
  intro members occurs
  cases occurs with
  | itself => cases scalar
  | inItem _ _ => cases scalar
  | inMember _ _ => cases scalar

end HoldsLinks

/-! ## Scopes with safe links -/

section Scopes

variable {names : List String}

/-- What a name has in some scopes is nothing or the member of one of them. -/
theorem lookup_cases (scopes : Scopes) (name : String) :
    scopes.lookup name = .null ∨ ∃ members, .object members ∈ scopes ∧
      (name, scopes.lookup name) ∈ members := by
  rw [Scopes.lookup]
  cases found : scopes.findSome? (Json.member? name) with
  | none => exact Or.inl rfl
  | some value =>
      obtain ⟨scope, isScope, isMember⟩ := List.exists_of_findSome?_eq_some found
      cases scope with
      | object members =>
          exact Or.inr ⟨members, isScope, Association.mem_of_lookup_eq_some isMember⟩
      | _ => cases isMember

theorem isEmbeddable_lookup {scopes : Scopes} (holds : ∀ scope ∈ scopes, HoldsLinks names scope)
    {name : String} (isLink : name ∈ names) : IsEmbeddable (filledText (scopes.lookup name)) := by
  rcases lookup_cases scopes name with nothing | ⟨members, isScope, isMember⟩
  · rw [nothing]
    exact isEmbeddable_of_isPlainLink (by decide)
  · exact holds _ isScope members .itself name _ isMember isLink

theorem holdsLinks_of_mem_enter {scopes : Scopes} (holds : ∀ scope ∈ scopes, HoldsLinks names scope)
    {name : String} {inner : Scopes} (isEntered : inner ∈ scopes.enter (scopes.lookup name)) :
    ∀ scope ∈ inner, HoldsLinks names scope := by
  have value : HoldsLinks names (scopes.lookup name) := by
    rcases lookup_cases scopes name with nothing | ⟨members, isScope, isMember⟩
    · rw [nothing]
      exact holdsLinks_of_isScalar rfl
    · exact (holds _ isScope).of_occurs (.inMember isMember .itself)
  unfold Scopes.enter at isEntered
  split at isEntered
  · rename_i items isArray
    rw [isArray] at value
    obtain ⟨item, isItem, rfl⟩ := List.mem_map.mp isEntered
    exact List.forall_mem_cons.mpr ⟨value.of_occurs (.inItem isItem .itself), holds⟩
  · split at isEntered
    · rw [List.mem_singleton.mp isEntered]
      exact List.forall_mem_cons.mpr ⟨value, holds⟩
    · cases isEntered

/-- All scopes that are reached hold safe links if the first ones do. -/
theorem holdsLinks_of_reaches {outer inner : Scopes}
    (holds : ∀ scope ∈ outer, HoldsLinks names scope) (reaches : Reaches outer inner) :
    ∀ scope ∈ inner, HoldsLinks names scope := by
  induction reaches with
  | here => exact holds
  | entered _ name isEntered inductionHypothesis =>
      exact holdsLinks_of_mem_enter inductionHypothesis isEntered

end Scopes

/-! ## Fields with safe links -/

mutual

/-- The names under which the values of a kind hold links. -/
def Kind.linkNames : Kind → List String
  | .records fields => linkNamesOf fields
  | .linksByPlatform => ["url"]
  | _ => []

/-- The names under which the value of a field is a link or holds links. -/
def Field.linkNames : Field → List String
  | ⟨name, _, .link, _⟩ => [name]
  | ⟨_, _, kind, _⟩ => kind.linkNames

/-- The names under which the values of some fields are links or hold links. -/
def linkNamesOf : List Field → List String
  | [] => []
  | field :: others => field.linkNames ++ linkNamesOf others

end

/-- Whether a field may have one of some names of links: it is a link that falls back on a plain
one. -/
def Field.isPlainLink : Field → Bool
  | ⟨_, _, .link, .text fallback⟩ => Url.isPlainLink fallback
  | _ => false

mutual

/-- Whether the values of a kind hold nothing but links under some names. -/
def Kind.keepsLinks (names : List String) : Kind → Bool
  | .records fields => allKeepLinks names fields
  | .linksByPlatform => !names.contains "platform"
  | _ => true

/-- Whether a field with one of some names is a link, and its value holds nothing but links under
these names. -/
def Field.keepsLinks (names : List String) : Field → Bool
  | ⟨name, key, kind, fallback⟩ =>
      kind.keepsLinks names && (!names.contains name || Field.isPlainLink ⟨name, key, kind, fallback⟩)

/-- Whether all of some fields keep to links under some names. -/
def allKeepLinks (names : List String) : List Field → Bool
  | [] => true
  | field :: others => field.keepsLinks names && allKeepLinks names others

end

section Coercion

variable {names : List String}

theorem holdsLinks_platformLink (notName : "platform" ∉ names) (platform address : String) :
    HoldsLinks names
      (.object [("platform", .text platform), ("url", .text (Url.safe address))]) := by
  refine holdsLinks_object ?_ ?_
  · intro name content member isName
    rcases List.mem_cons.mp member with isPlatform | later
    · rw [(Prod.mk.inj isPlatform).1] at isName
      exact absurd isName notName
    · rw [(Prod.mk.inj (List.mem_singleton.mp later)).2]
      exact isEmbeddable_safe address
  · intro name content member
    rcases List.mem_cons.mp member with isPlatform | later
    · rw [(Prod.mk.inj isPlatform).2]
      exact holdsLinks_of_isScalar rfl
    · rw [(Prod.mk.inj (List.mem_singleton.mp later)).2]
      exact holdsLinks_of_isScalar rfl

theorem isEmbeddable_of_isPlainLink_coerce {stored : Json.Members} {field : Field}
    (plain : field.isPlainLink = true) {value : Json}
    (coerced : field.coerce stored = .ok (field.name, value)) : IsEmbeddable (filledText value) := by
  unfold Field.isPlainLink at plain
  split at plain
  · rename_i name key fallback
    rw [Field.coerce, Kind.coerce] at coerced
    have isValue := (Prod.mk.inj (Except.ok.inj coerced)).2
    rw [← isValue]
    split
    · exact isEmbeddable_of_isPlainLink plain
    · exact isEmbeddable_safe _
  · cases plain

mutual

theorem Kind.holdsLinks_coerce {fallback stored value : Json} :
    ∀ kind : Kind, kind.keepsLinks names = true → (⟨"", "", kind, fallback⟩ : Field).isRegular = true →
      kind.coerce fallback stored = .ok value → HoldsLinks names value
  | .records fields, keeps, regular, coerced => by
      rw [Field.isRegular, Bool.and_eq_true] at regular
      obtain ⟨items, rfl, records⟩ := coerce_records_ok regular.2 coerced
      refine holdsLinks_array fun item member => ?_
      obtain ⟨source, record, isRecord, rfl⟩ := records item member
      exact holdsLinks_coerceFields fields keeps regular.1 isRecord
  | .linksByPlatform, keeps, regular, coerced => by
      obtain ⟨items, rfl, links⟩ := coerce_linksByPlatform_ok regular coerced
      have notName : "platform" ∉ names := by simpa [Kind.keepsLinks] using keeps
      refine holdsLinks_array fun link member => ?_
      obtain ⟨platform, address, rfl⟩ := links link member
      exact holdsLinks_platformLink notName platform address
  | .texts, _, regular, coerced => by
      obtain ⟨items, rfl, texts⟩ := coerce_texts_ok regular coerced
      refine holdsLinks_array fun item member => ?_
      obtain ⟨text, rfl, _⟩ := texts item member
      exact holdsLinks_of_isScalar rfl
  | .number, _, regular, coerced => holdsLinks_of_isScalar (isScalar_coerce rfl regular coerced)
  | .text, _, regular, coerced => holdsLinks_of_isScalar (isScalar_coerce rfl regular coerced)
  | .link, _, regular, coerced => holdsLinks_of_isScalar (isScalar_coerce rfl regular coerced)
  | .choice _, _, regular, coerced => holdsLinks_of_isScalar (isScalar_coerce rfl regular coerced)
  | .flag, _, regular, coerced => holdsLinks_of_isScalar (isScalar_coerce rfl regular coerced)
  | .fixed, _, regular, coerced => holdsLinks_of_isScalar (isScalar_coerce rfl regular coerced)

theorem holdsLinks_coerceFields {stored values : Json.Members} :
    ∀ fields : List Field, allKeepLinks names fields = true → allAreRegular fields = true →
      coerceFields stored fields = .ok values → HoldsLinks names (.object values)
  | [], _, _, coerced => by
      rw [← Except.ok.inj coerced]
      exact holdsLinks_object nofun nofun
  | ⟨name, key, kind, fallback⟩ :: others, keeps, regular, coerced => by
      obtain ⟨value, rest, isValue, isRest, rfl⟩ := coerceFields_cons_ok coerced
      rw [allKeepLinks, Field.keepsLinks, Bool.and_eq_true, Bool.and_eq_true, Bool.or_eq_true] at keeps
      rw [allAreRegular, Bool.and_eq_true] at regular
      obtain ⟨⟨keepsKind, plain⟩, keepsOthers⟩ := keeps
      have later := holdsLinks_coerceFields others keepsOthers regular.2 isRest
      refine holdsLinks_object ?_ ?_
      · intro found content member isLink
        rcases List.mem_cons.mp member with isFirst | isLater
        · obtain ⟨rfl, rfl⟩ := Prod.mk.inj isFirst
          rcases plain with notLink | plain
          · rw [List.contains_iff_mem.mpr isLink] at notLink
            cases notLink
          · exact isEmbeddable_of_isPlainLink_coerce plain isValue
        · exact later rest .itself found content isLater isLink
      · intro found content member
        rcases List.mem_cons.mp member with isFirst | isLater
        · rw [(Prod.mk.inj isFirst).2]
          rw [Field.coerce, map_eq_ok_iff] at isValue
          obtain ⟨coercedValue, isCoerced, same⟩ := isValue
          rw [← (Prod.mk.inj same).2]
          exact Kind.holdsLinks_coerce kind keepsKind regular.1 isCoerced
        · exact later.of_occurs (.inMember isLater .itself)

end

end Coercion

end StaticSite.Schema
