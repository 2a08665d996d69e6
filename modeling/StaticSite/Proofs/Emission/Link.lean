import StaticSite.Proofs.Emission.Derivation
import StaticSite.Proofs.Emission.StartTag
import StaticSite.Proofs.Markup.Link
import StaticSite.Proofs.Schema.Link

/-!
Contract: the links of a component.

Owns:
- the law that derived values hold safe links if the declared ones do;
- what the templates of the types put into the places of links;
- the law that the start tags that a component gives link safely, whatever its props.

Does not own: the links of a document around its components (see `StaticSite.Proofs.Page.Links`).
-/

namespace StaticSite.Emission

open StaticSite.Component StaticSite.Markup StaticSite.Schema

/-! ## Derived values -/

section Derived

variable {names : List String}

theorem holdsLinks_member {members : Json.Members} (holds : HoldsLinks names (.object members))
    {name : String} {content : Json} (member : (name, content) ∈ members) :
    HoldsLinks names content :=
  holds.of_occurs (.inMember member .itself)

/-- What a name is bound to, or nothing, holds safe links if the values around it do. -/
theorem holdsLinks_lookup {members : Json.Members} (holds : HoldsLinks names (.object members))
    (name : String) : HoldsLinks names ((members.lookup name).getD .null) := by
  cases found : members.lookup name with
  | none => exact holdsLinks_of_isScalar rfl
  | some content => exact holdsLinks_member holds (Association.mem_of_lookup_eq_some found)

/-- Binding a name that is none of links keeps links safe. -/
theorem holdsLinks_bind {name : String} {content : Json} {members : Json.Members}
    (notLink : name ∉ names) (inside : HoldsLinks names content)
    (holds : HoldsLinks names (.object members)) :
    HoldsLinks names (.object (Association.bind name content members)) := by
  refine holdsLinks_object ?_ ?_
  · intro found value member isLink
    rcases Association.mem_of_mem_bind member with isNew | before
    · rw [(Prod.mk.inj isNew).1] at isLink
      exact absurd isLink notLink
    · exact holds members .itself found value before isLink
  · intro found value member
    rcases Association.mem_of_mem_bind member with isNew | before
    · rw [(Prod.mk.inj isNew).2]
      exact inside
    · exact holdsLinks_member holds before

/-- Changing the records of a list keeps links safe if changing each of them does. -/
theorem holdsLinks_changeList {list : String} {change : Nat → Json.Members → Json.Members}
    (notLink : list ∉ names)
    (keeps : ∀ index record, HoldsLinks names (.object record) →
      HoldsLinks names (.object (change index record)))
    {values : Json.Members} (holds : HoldsLinks names (.object values)) :
    HoldsLinks names (.object (changeList list (changeRecords change) values)) := by
  rcases changeList_cases list (changeRecords change) values with same | ⟨items, isList, isBound⟩
  · rwa [same]
  · have inside := holdsLinks_lookup holds list
    rw [isList] at inside
    rw [isBound]
    refine holdsLinks_bind notLink (holdsLinks_array fun item member => ?_) holds
    obtain ⟨⟨original, index⟩, isEntry, rfl⟩ := List.mem_map.mp member
    have isItem : original ∈ items := (List.mem_zipIdx' isEntry).2 ▸ List.getElem_mem _
    have holdsItem := inside.of_occurs (.inItem isItem .itself)
    cases original with
    | object record => exact keeps index record holdsItem
    | _ => exact holdsItem

section

variable (derivedApart : ∀ name ∈ derivedNames, name ∉ names)
include derivedApart

theorem holdsLinks_addPosition (index : Nat) {record : Json.Members}
    (holds : HoldsLinks names (.object record)) :
    HoldsLinks names (.object (addPosition index record)) := by
  have withIndex := holdsLinks_bind (derivedApart "index" (by decide))
    (holdsLinks_of_isScalar rfl : HoldsLinks names (.int index)) holds
  have withFirst := holdsLinks_bind (derivedApart "first" (by decide))
    (holdsLinks_of_isScalar rfl : HoldsLinks names (.bool (index == 0))) withIndex
  exact holdsLinks_bind (derivedApart "side" (by decide)) (holdsLinks_of_isScalar rfl) withFirst

theorem holdsLinks_withLabel {record : Json.Members} (holds : HoldsLinks names (.object record)) :
    HoldsLinks names (.object (SocialLinks.withLabel record)) := by
  refine holdsLinks_bind (derivedApart "label" (by decide)) ?_ holds
  split
  · exact holdsLinks_lookup holds "text"
  · exact holdsLinks_lookup holds "platform"

theorem holdsLinks_withImageDescription {record : Json.Members}
    (holds : HoldsLinks names (.object record)) :
    HoldsLinks names (.object (BlogList.withImageDescription record)) :=
  holdsLinks_bind (derivedApart "image_alt" (by decide)) (holdsLinks_lookup holds "title") holds

/-- Derived values hold safe links if the declared ones do. -/
theorem holdsLinks_derive {derive : Json.Members → Json.Members} (derives : Derives derive)
    {values : Json.Members} (holds : HoldsLinks names (.object values)) :
    HoldsLinks names (.object (derive values)) := by
  cases derives with
  | nothing => exact holds
  | positions isList =>
      rw [positionsIn_eq]
      exact holdsLinks_changeList (derivedApart _ (List.mem_append_left _ isList))
        (fun index _ => holdsLinks_addPosition derivedApart index) holds
  | labels =>
      rw [mapRecordsIn_eq]
      exact holdsLinks_changeList (derivedApart "links" (by decide))
        (fun _ _ => holdsLinks_withLabel derivedApart) holds
  | descriptions =>
      rw [mapRecordsIn_eq]
      exact holdsLinks_changeList (derivedApart "posts" (by decide))
        (fun _ _ => holdsLinks_withImageDescription derivedApart) holds

end

end Derived

/-! ## The types -/

theorem allKeepLinks_of_mem_catalogue :
    ∀ definition ∈ catalogue,
      allKeepLinks (linkNamesOf definition.fields) definition.fields = true := by
  decide +kernel

theorem derivedNames_apart_of_mem_catalogue :
    ∀ definition ∈ catalogue, ∀ name ∈ derivedNames, name ∉ linkNamesOf definition.fields := by
  decide +kernel

/-- The template of every type puts nothing but links, or what is behind a known beginning, into the
places of links. -/
theorem assignsSafely_of_mem_catalogue :
    ∀ definition ∈ catalogue, ∀ template ∈ definition.markup.tags,
      template.assignsSafely (linkNamesOf definition.fields) = true := by
  decide +kernel

theorem holdsLinks_scope {definition : Definition} (member : definition ∈ catalogue) {node : Node}
    {values : Json.Members} (coerced : coerceFields node.props definition.fields = .ok values) :
    HoldsLinks (linkNamesOf definition.fields) (definition.scope node values) := by
  have derivedApart := derivedNames_apart_of_mem_catalogue definition member
  have declared := holdsLinks_coerceFields definition.fields
    (allKeepLinks_of_mem_catalogue definition member)
    (allAreRegular_of_mem_catalogue definition member) coerced
  have derived := holdsLinks_derive derivedApart (derives_of_mem_catalogue definition member) declared
  refine holdsLinks_object ?_ ?_
  · intro name content found isLink
    rcases List.mem_append.mp found with isDerived | isId
    · exact derived _ .itself name content isDerived isLink
    · rw [(Prod.mk.inj (List.mem_singleton.mp isId)).1] at isLink
      exact absurd isLink (derivedApart "component_id" (by decide))
  · intro name content found
    rcases List.mem_append.mp found with isDerived | isId
    · exact holdsLinks_member derived isDerived
    · rw [(Prod.mk.inj (List.mem_singleton.mp isId)).2]
      exact holdsLinks_of_isScalar rfl

theorem linksSafely_frame {attributes : List Attribute}
    (known : ∀ written ∈ attributes, ∃ name ∈ frameAttributes, ∃ pieces,
      written = .valued name pieces) : (Opening.read ⟨"div", attributes⟩).LinksSafely := by
  have noLinks : ∀ name ∈ frameAttributes,
      foldedName name.toList ∉ "style" :: addressAttributes := by
    decide
  refine linksSafely_of_not_meta (by decide) fun written member => ?_
  obtain ⟨name, isFrame, pieces, rfl⟩ := known written member
  exact Attribute.linksSafely_of_name (noLinks name isFrame) pieces

/-- The start tags that a component gives link safely. -/
theorem linksSafely_of_givenBy {node : Node} {opening : Opening} (given : GivenBy node opening) :
    opening.read.LinksSafely := by
  cases given with
  | frame known => exact linksSafely_frame known
  | filled member coerced comes =>
      have holds := List.forall_mem_singleton.mpr (holdsLinks_scope member coerced)
      exact linksSafely_of_comesFrom (assignsSafely_of_mem_catalogue _ member)
        (fun inner reaches name isLink =>
          isEmbeddable_lookup (holdsLinks_of_reaches holds reaches) isLink) comes

end StaticSite.Emission
