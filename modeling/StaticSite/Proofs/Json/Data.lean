import StaticSite.Json.Basic
import StaticSite.Proofs.Association

/-!
Contract: JSON values as data.

Owns:
- induction over values, and the values that occur in a value;
- when two values are the same data: the order of the members of an object does not count;
- the value with the members of each object in the order of their names, which is the same
  data;
- arrays and objects with finite numbers only, in terms of what they hold.

Does not own: the texts of values (see `StaticSite.Proofs.Json.Denotation`).
-/

namespace StaticSite.Json

/-! ## Induction and occurrence -/

/-- What holds of scalars, and of arrays and objects as soon as it holds of all values directly
inside, holds of every value. -/
@[elab_as_elim]
theorem treeInduction {motive : Json → Prop} (null : motive .null)
    (bool : ∀ value, motive (.bool value)) (int : ∀ value, motive (.int value))
    (real : ∀ value, motive (.real value)) (text : ∀ value, motive (.text value))
    (array : ∀ items, (∀ item ∈ items, motive item) → motive (.array items))
    (object : ∀ members : Members,
      (∀ name value, (name, value) ∈ members → motive value) → motive (.object members)) :
    ∀ value, motive value
  | .null => null
  | .bool value => bool value
  | .int value => int value
  | .real value => real value
  | .text value => text value
  | .array items =>
      array items fun item member =>
        have _smaller := List.sizeOf_lt_of_mem member
        treeInduction null bool int real text array object item
  | .object members =>
      object members fun name value member =>
        have _smaller := List.sizeOf_lt_of_mem member
        treeInduction null bool int real text array object value
  termination_by value => value
  decreasing_by
    · simp only [Json.array.sizeOf_spec]
      omega
    · simp only [Json.object.sizeOf_spec, Prod.mk.sizeOf_spec] at _smaller ⊢
      omega

/-- Whether a value is neither an array nor an object. -/
def isScalar : Json → Bool
  | .array _ => false
  | .object _ => false
  | _ => true

/-- Whether a value is part of a value, or the value itself. -/
inductive Occurs (part : Json) : Json → Prop where
  | itself : Occurs part part
  | inItem {items : List Json} {item : Json} (member : item ∈ items)
      (occurs : Occurs part item) : Occurs part (.array items)
  | inMember {members : Members} {name : String} {value : Json} (member : (name, value) ∈ members)
      (occurs : Occurs part value) : Occurs part (.object members)

theorem occurs_array_iff {part : Json} {items : List Json} :
    Occurs part (.array items) ↔ part = .array items ∨ ∃ item ∈ items, Occurs part item := by
  constructor
  · intro occurs
    cases occurs with
    | itself => exact Or.inl rfl
    | inItem member occurs => exact Or.inr ⟨_, member, occurs⟩
  · rintro (rfl | ⟨item, member, occurs⟩)
    · exact .itself
    · exact .inItem member occurs

theorem occurs_object_iff {part : Json} {members : Members} :
    Occurs part (.object members) ↔
      part = .object members ∨ ∃ name value, (name, value) ∈ members ∧ Occurs part value := by
  constructor
  · intro occurs
    cases occurs with
    | itself => exact Or.inl rfl
    | inMember member occurs => exact Or.inr ⟨_, _, member, occurs⟩
  · rintro (rfl | ⟨name, value, member, occurs⟩)
    · exact .itself
    · exact .inMember member occurs

theorem Occurs.trans {part middle whole : Json} (occurs : Occurs part middle)
    (within : Occurs middle whole) : Occurs part whole := by
  induction within with
  | itself => exact occurs
  | inItem member _ inductionHypothesis => exact .inItem member inductionHypothesis
  | inMember member _ inductionHypothesis => exact .inMember member inductionHypothesis

mutual

/-- The double-precision numbers in a value, in order. -/
def reals : Json → List Binary64
  | real number => [number]
  | array items => realsOfItems items
  | object members => realsOfMembers members
  | _ => []

/-- The double-precision numbers in some values, in order. -/
def realsOfItems : List Json → List Binary64
  | [] => []
  | item :: others => item.reals ++ realsOfItems others

/-- The double-precision numbers in the values of some members, in order. -/
def realsOfMembers : Members → List Binary64
  | [] => []
  | (_, value) :: others => value.reals ++ realsOfMembers others

end

theorem mem_realsOfItems_iff {number : Binary64} {items : List Json} :
    number ∈ realsOfItems items ↔ ∃ item ∈ items, number ∈ item.reals := by
  induction items with
  | nil => simp [realsOfItems]
  | cons item others inductionHypothesis => simp [realsOfItems, inductionHypothesis]

theorem mem_realsOfMembers_iff {number : Binary64} {members : Members} :
    number ∈ realsOfMembers members ↔
      ∃ name value, (name, value) ∈ members ∧ number ∈ value.reals := by
  induction members with
  | nil => simp [realsOfMembers]
  | cons member others inductionHypothesis =>
      obtain ⟨first, held⟩ := member
      rw [realsOfMembers, List.mem_append, inductionHypothesis]
      constructor
      · rintro (inFirst | ⟨name, value, member, inValue⟩)
        · exact ⟨first, held, List.mem_cons_self, inFirst⟩
        · exact ⟨name, value, List.mem_cons_of_mem _ member, inValue⟩
      · rintro ⟨name, value, member, inValue⟩
        rcases List.mem_cons.mp member with same | later
        · rw [(Prod.mk.inj same).2] at inValue
          exact Or.inl inValue
        · exact Or.inr ⟨name, value, later, inValue⟩

/-- Whether a text stands in a value, as a value of its own or as the name of a member. -/
def HoldsText (text : String) (value : Json) : Prop :=
  Occurs (.text text) value ∨
    ∃ members, Occurs (.object members) value ∧ text ∈ members.map Prod.fst

theorem holdsText_text_iff {text other : String} : HoldsText text (.text other) ↔ text = other := by
  constructor
  · rintro (occurs | ⟨members, occurs, _⟩)
    · cases occurs
      rfl
    · cases occurs
  · rintro rfl
    exact Or.inl .itself

theorem not_holdsText_of_scalar {value : Json} (noText : value.asText? = none)
    (scalar : value.isScalar = true) (held : String) : ¬ HoldsText held value := by
  rintro (occurs | ⟨members, occurs, _⟩)
  · cases occurs with
    | itself => cases noText
    | inItem _ _ => cases scalar
    | inMember _ _ => cases scalar
  · cases occurs with
    | itself => cases scalar
    | inItem _ _ => cases scalar
    | inMember _ _ => cases scalar

theorem holdsText_array_iff {text : String} {items : List Json} :
    HoldsText text (.array items) ↔ ∃ item ∈ items, HoldsText text item := by
  simp only [HoldsText, occurs_array_iff, reduceCtorEq, false_or]
  constructor
  · rintro (⟨item, member, occurs⟩ | ⟨members, ⟨item, member, occurs⟩, named⟩)
    · exact ⟨item, member, Or.inl occurs⟩
    · exact ⟨item, member, Or.inr ⟨members, occurs, named⟩⟩
  · rintro ⟨item, member, occurs | ⟨members, occurs, named⟩⟩
    · exact Or.inl ⟨item, member, occurs⟩
    · exact Or.inr ⟨members, ⟨item, member, occurs⟩, named⟩

theorem holdsText_object_iff {text : String} {members : Members} :
    HoldsText text (.object members) ↔
      ∃ name value, (name, value) ∈ members ∧ (text = name ∨ HoldsText text value) := by
  simp only [HoldsText, occurs_object_iff, reduceCtorEq, false_or]
  constructor
  · rintro (⟨name, value, member, occurs⟩ | ⟨others, same | ⟨name, value, member, occurs⟩, named⟩)
    · exact ⟨name, value, member, Or.inr (Or.inl occurs)⟩
    · rw [Json.object.inj same] at named
      obtain ⟨⟨name, value⟩, member, isName⟩ := List.mem_map.mp named
      exact ⟨name, value, member, Or.inl isName.symm⟩
    · exact ⟨name, value, member, Or.inr (Or.inr ⟨others, occurs, named⟩)⟩
  · rintro ⟨name, value, member, rfl | occurs | ⟨others, occurs, named⟩⟩
    · exact Or.inr ⟨members, Or.inl rfl, List.mem_map.mpr ⟨(text, value), member, rfl⟩⟩
    · exact Or.inl ⟨name, value, member, occurs⟩
    · exact Or.inr ⟨others, Or.inr ⟨name, value, member, occurs⟩, named⟩

/-! ## The same data -/

mutual

/-- Whether two values are the same data: equal scalars, arrays with the same data in the same
order, or objects with the same names that have the same data under each name. -/
def SameData : Json → Json → Prop
  | array items, other => ∃ others, other = array others ∧ SameItems items others
  | object members, other =>
      ∃ others, other = object others ∧ members.length = others.length ∧
        SameMembers members others
  | value, other => value = other

/-- Whether items are the same data in the same order. -/
def SameItems : List Json → List Json → Prop
  | [], others => others = []
  | item :: rest, others =>
      ∃ other further, others = other :: further ∧ SameData item other ∧ SameItems rest further

/-- Whether the others have the same data under the name of each member. -/
def SameMembers : Members → Members → Prop
  | [], _ => True
  | (name, value) :: rest, others =>
      (∃ other, others.lookup name = some other ∧ SameData value other) ∧ SameMembers rest others

end

theorem sameItems_map {items : List Json} {change : Json → Json}
    (same : ∀ item ∈ items, SameData item (change item)) : SameItems items (items.map change) := by
  induction items with
  | nil => rfl
  | cons item others inductionHypothesis =>
      have sameOthers := inductionHypothesis fun other member =>
        same other (List.mem_cons_of_mem item member)
      exact ⟨change item, others.map change, rfl, same item List.mem_cons_self, sameOthers⟩

theorem sameMembers_iff (members others : Members) :
    SameMembers members others ↔ ∀ name value, (name, value) ∈ members →
      ∃ other, others.lookup name = some other ∧ SameData value other := by
  induction members with
  | nil => simp [SameMembers]
  | cons member rest inductionHypothesis =>
      obtain ⟨first, held⟩ := member
      simp only [SameMembers, inductionHypothesis, List.mem_cons, Prod.mk.injEq]
      constructor
      · rintro ⟨sameFirst, sameRest⟩ name value (⟨rfl, rfl⟩ | later)
        · exact sameFirst
        · exact sameRest name value later
      · intro same
        exact ⟨same first held (Or.inl ⟨rfl, rfl⟩), fun name value later =>
          same name value (Or.inr later)⟩

/-! ## Members in the order of their names -/

def sortByName {Value : Type} (entries : List (String × Value)) : List (String × Value) :=
  entries.mergeSort fun left right => !(right.1 < left.1)

/-- Sorting by name commutes with a change of the values. -/
theorem sortByName_map {Value Other : Type} (change : Value → Other)
    (entries : List (String × Value)) :
    sortByName (entries.map fun entry => (entry.1, change entry.2)) =
      (sortByName entries).map fun entry => (entry.1, change entry.2) := by
  unfold sortByName
  rw [List.map_mergeSort]
  intro left _ right _
  rfl

theorem perm_sortByName {Value : Type} (entries : List (String × Value)) :
    (sortByName entries).Perm entries :=
  List.mergeSort_perm entries _

theorem nodup_names_sortByName {Value : Type} {entries : List (String × Value)}
    (distinct : (entries.map Prod.fst).Nodup) : ((sortByName entries).map Prod.fst).Nodup :=
  ((perm_sortByName entries).map Prod.fst).nodup_iff.mpr distinct

mutual

/-- The value with the members of each object in the order of their names. -/
def sorted : Json → Json
  | array items => array (sortedItems items)
  | object members => object (sortByName (sortedMembers members))
  | value => value

/-- Some values with the members of each object in order. -/
def sortedItems : List Json → List Json
  | [] => []
  | item :: others => item.sorted :: sortedItems others

/-- Some members with those of each object in their values in order. -/
def sortedMembers : Members → Members
  | [] => []
  | (name, value) :: others => (name, value.sorted) :: sortedMembers others

end

theorem sortedItems_eq_map (items : List Json) : sortedItems items = items.map sorted := by
  induction items with
  | nil => rfl
  | cons item others inductionHypothesis =>
      rw [sortedItems, inductionHypothesis, List.map_cons]

theorem sortedMembers_eq_map (members : Members) :
    sortedMembers members = members.map fun entry => (entry.1, entry.2.sorted) := by
  induction members with
  | nil => rfl
  | cons entry others inductionHypothesis =>
      rw [sortedMembers, inductionHypothesis, List.map_cons]

theorem sorted_array (items : List Json) : (array items).sorted = array (items.map sorted) := by
  rw [sorted, sortedItems_eq_map]

theorem sorted_object (members : Members) :
    (object members).sorted =
      object ((sortByName members).map fun entry => (entry.1, entry.2.sorted)) := by
  rw [sorted, sortedMembers_eq_map, sortByName_map]

/-- The sorted value is the same data, as long as no object repeats a name. -/
theorem sameData_sorted {value : Json}
    (distinct : ∀ members, Occurs (.object members) value → (members.map Prod.fst).Nodup) :
    SameData value value.sorted := by
  induction value using treeInduction with
  | null => rfl
  | bool value => rfl
  | int value => rfl
  | real value => rfl
  | text value => rfl
  | array items inductionHypothesis =>
      rw [sorted_array]
      refine ⟨_, rfl, sameItems_map fun item member => ?_⟩
      exact inductionHypothesis item member fun members occurs =>
        distinct members (.inItem member occurs)
  | object members inductionHypothesis =>
      rw [sorted_object]
      refine ⟨_, rfl, ?_, (sameMembers_iff _ _).mpr ?_⟩
      · rw [List.length_map, (perm_sortByName members).length_eq]
      · intro name value member
        have isSame := inductionHypothesis name value member fun others occurs =>
          distinct others (.inMember member occurs)
        refine ⟨value.sorted, ?_, isSame⟩
        rw [Association.lookup_eq_some_iff_of_nodup]
        · have inOrder := (perm_sortByName members).mem_iff.mpr member
          exact List.mem_map.mpr ⟨(name, value), inOrder, rfl⟩
        · rw [List.map_map]
          exact nodup_names_sortByName (distinct members .itself)

/-! ## Depth -/

theorem depthOfItems_le_iff {items : List Json} {limit : Nat} :
    depthOfItems items ≤ limit ↔ ∀ item ∈ items, item.depth ≤ limit := by
  induction items with
  | nil => simp [depthOfItems]
  | cons item others inductionHypothesis =>
      rw [depthOfItems, Nat.max_le, inductionHypothesis, List.forall_mem_cons]

theorem depthOfMembers_le_iff {members : Members} {limit : Nat} :
    depthOfMembers members ≤ limit ↔ ∀ name value, (name, value) ∈ members → value.depth ≤ limit := by
  induction members with
  | nil => simp [depthOfMembers]
  | cons member others inductionHypothesis =>
      obtain ⟨first, held⟩ := member
      simp only [depthOfMembers, Nat.max_le, inductionHypothesis, List.mem_cons, Prod.mk.injEq]
      constructor
      · rintro ⟨firstFits, othersFit⟩ name value (⟨rfl, rfl⟩ | later)
        · exact firstFits
        · exact othersFit name value later
      · intro fits
        exact ⟨fits first held (Or.inl ⟨rfl, rfl⟩), fun name value later =>
          fits name value (Or.inr later)⟩

/-- What occurs in a value is nested no deeper. -/
theorem Occurs.depth_le {part whole : Json} (occurs : Occurs part whole) :
    part.depth ≤ whole.depth := by
  induction occurs with
  | itself => exact Nat.le_refl _
  | @inItem items item member _ inductionHypothesis =>
      have within := depthOfItems_le_iff.mp (Nat.le_refl (depthOfItems items)) item member
      rw [depth]
      omega
  | @inMember members name value member _ inductionHypothesis =>
      have within :=
        depthOfMembers_le_iff.mp (Nat.le_refl (depthOfMembers members)) name value member
      rw [depth]
      omega

theorem depth_sorted_le_iff (value : Json) (limit : Nat) :
    value.sorted.depth ≤ limit ↔ value.depth ≤ limit := by
  induction value using treeInduction generalizing limit with
  | null => exact Iff.rfl
  | bool value => exact Iff.rfl
  | int value => exact Iff.rfl
  | real value => exact Iff.rfl
  | text value => exact Iff.rfl
  | array items inductionHypothesis =>
      rw [sorted_array, depth, depth]
      cases limit with
      | zero => exact iff_of_false (Nat.not_succ_le_zero _) (Nat.not_succ_le_zero _)
      | succ limit =>
          rw [Nat.add_le_add_iff_right, Nat.add_le_add_iff_right, depthOfItems_le_iff,
            depthOfItems_le_iff, List.forall_mem_map]
          exact forall₂_congr fun item member => inductionHypothesis item member limit
  | object members inductionHypothesis =>
      rw [sorted_object, depth, depth]
      cases limit with
      | zero => exact iff_of_false (Nat.not_succ_le_zero _) (Nat.not_succ_le_zero _)
      | succ limit =>
          rw [Nat.add_le_add_iff_right, Nat.add_le_add_iff_right, depthOfMembers_le_iff,
            depthOfMembers_le_iff]
          constructor
          · intro fits name value member
            have inOrder := (perm_sortByName members).mem_iff.mpr member
            exact (inductionHypothesis name value member limit).mp
              (fits name value.sorted (List.mem_map.mpr ⟨(name, value), inOrder, rfl⟩))
          · intro fits name sortedValue member
            obtain ⟨⟨name, value⟩, inOrder, same⟩ := List.mem_map.mp member
            obtain ⟨rfl, rfl⟩ := Prod.mk.inj same
            have held := (perm_sortByName members).mem_iff.mp inOrder
            exact (inductionHypothesis _ value held limit).mpr (fits _ value held)

theorem depth_sorted (value : Json) : value.sorted.depth = value.depth :=
  Nat.le_antisymm ((depth_sorted_le_iff value _).mpr (Nat.le_refl _))
    ((depth_sorted_le_iff value _).mp (Nat.le_refl _))

/-! ## Finite numbers -/

theorem allFiniteItems_iff (items : List Json) :
    allFiniteItems items = true ↔ ∀ item ∈ items, item.allFinite = true := by
  induction items with
  | nil => simp [allFiniteItems]
  | cons item others inductionHypothesis =>
      rw [allFiniteItems, Bool.and_eq_true, inductionHypothesis, List.forall_mem_cons]

theorem allFiniteMembers_iff (members : List (String × Json)) :
    allFiniteMembers members = true ↔ ∀ member ∈ members, member.2.allFinite = true := by
  induction members with
  | nil => simp [allFiniteMembers]
  | cons member others inductionHypothesis =>
      rw [allFiniteMembers, Bool.and_eq_true, inductionHypothesis, List.forall_mem_cons]

theorem allFinite_array_iff (items : List Json) :
    (array items).allFinite = true ↔ ∀ item ∈ items, item.allFinite = true := by
  rw [allFinite, allFiniteItems_iff]

theorem allFinite_object_iff (members : List (String × Json)) :
    (object members).allFinite = true ↔ ∀ member ∈ members, member.2.allFinite = true := by
  rw [allFinite, allFiniteMembers_iff]

@[simp] theorem allFinite_text (value : String) : (text value).allFinite = true := rfl

theorem allFinite_texts (values : List String) : (array (values.map text)).allFinite = true := by
  rw [allFinite_array_iff]
  intro item member
  obtain ⟨value, _, rfl⟩ := List.mem_map.mp member
  rfl

end StaticSite.Json
