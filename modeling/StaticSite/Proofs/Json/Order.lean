import Mathlib.Data.List.Perm.Subperm
import StaticSite.Proofs.Json.Writing
import StaticSite.Proofs.Related

/-!
Contract: values that differ in the order in which objects list their members.

Owns:
- the relation between such values, and what it says about members and items;
- the law that they have the same depth, and the same text where members are sorted.

Does not own: what is made of such values (see `StaticSite.Proofs.Schema.Order`).
-/

namespace StaticSite.Json

/-! ## The relation -/

/-- Whether two values differ at most in the order in which objects list their members.  No object
in them repeats a name. -/
inductive Reorders : Json → Json → Prop where
  | scalar {value : Json} (scalar : value.isScalar = true) : Reorders value value
  | array {items others : List Json} (inside : List.Forall₂ Reorders items others) :
      Reorders (.array items) (.array others)
  | object {members others : Members} (distinct : (members.map Prod.fst).Nodup)
      (otherDistinct : (others.map Prod.fst).Nodup)
      (inside : ∀ name, Option.Rel Reorders (members.lookup name) (others.lookup name)) :
      Reorders (.object members) (.object others)

theorem Reorders.lookup {members others : Members}
    (reorders : Reorders (.object members) (.object others)) (name : String) :
    Option.Rel Reorders (members.lookup name) (others.lookup name) := by
  cases reorders with
  | scalar scalar => cases scalar
  | object _ _ inside => exact inside name

theorem Reorders.member {members others : Members}
    (reorders : Reorders (.object members) (.object others)) (name : String) :
    Reorders ((members.lookup name).getD .null) ((others.lookup name).getD .null) := by
  rcases Related.option_cases (reorders.lookup name) with
    ⟨found, foundOther⟩ | ⟨_, _, found, foundOther, inside⟩
  · rw [found, foundOther]
    exact .scalar rfl
  · rw [found, foundOther]
    exact inside

/-- What holds of scalars, of arrays as soon as it holds of their items, and of objects as soon as it
holds of their values holds of all values that differ in the order of members alone. -/
@[elab_as_elim]
theorem Reorders.pairInduction {motive : Json → Json → Prop}
    (scalar : ∀ value : Json, value.isScalar = true → motive value value)
    (array : ∀ items others, List.Forall₂ motive items others → motive (.array items) (.array others))
    (object : ∀ members others : Members, (members.map Prod.fst).Nodup → (others.map Prod.fst).Nodup →
      (∀ name, Option.Rel motive (members.lookup name) (others.lookup name)) →
        motive (.object members) (.object others))
    {value other : Json} (reorders : Reorders value other) : motive value other := by
  induction value using treeInduction generalizing other with
  | null => cases reorders; exact scalar _ rfl
  | bool value => cases reorders; exact scalar _ rfl
  | int value => cases reorders; exact scalar _ rfl
  | real value => cases reorders; exact scalar _ rfl
  | text value => cases reorders; exact scalar _ rfl
  | array items inductionHypothesis =>
      cases reorders with
      | scalar notScalar => cases notScalar
      | array inside =>
          have pairs := (List.forall₂_and_left _ _).mpr ⟨fun _ member => member, inside⟩
          exact array _ _ (pairs.imp fun item other pair =>
            inductionHypothesis item pair.1 pair.2)
  | object members inductionHypothesis =>
      cases reorders with
      | scalar notScalar => cases notScalar
      | object distinct otherDistinct inside =>
          refine object _ _ distinct otherDistinct fun name => ?_
          rcases Related.option_cases (inside name) with
            ⟨found, foundOther⟩ | ⟨value, other, found, foundOther, same⟩
          · rw [found, foundOther]
            exact .none
          · have member := Association.mem_of_lookup_eq_some found
            rw [found, foundOther]
            exact .some (inductionHypothesis name value member same)

theorem Reorders.eq_of_isScalar {value other : Json} (reorders : Reorders value other)
    (scalar : value.isScalar = true) : value = other := by
  cases reorders with
  | scalar => rfl
  | array => cases scalar
  | object => cases scalar

/-- Objects that bind related values under the same names in the same order are related member by
member. -/
theorem forall₂_of_names_eq {related : Json → Json → Prop} {members others : Members}
    (distinct : (members.map Prod.fst).Nodup)
    (sameNames : members.map Prod.fst = others.map Prod.fst)
    (inside : ∀ name, Option.Rel related (members.lookup name) (others.lookup name)) :
    List.Forall₂ (fun member other => member.1 = other.1 ∧ related member.2 other.2) members
      others := by
  induction members generalizing others with
  | nil =>
      cases others with
      | nil => exact .nil
      | cons => cases sameNames
  | cons member rest inductionHypothesis =>
      cases others with
      | nil => cases sameNames
      | cons other further =>
          obtain ⟨name, value⟩ := member
          obtain ⟨otherName, otherValue⟩ := other
          obtain ⟨sameName, sameRest⟩ := List.cons.inj sameNames
          obtain rfl : name = otherName := sameName
          obtain ⟨notLater, distinctRest⟩ := List.nodup_cons.mp distinct
          have first := inside name
          rw [List.lookup_cons_self, List.lookup_cons_self] at first
          obtain ⟨relatedFirst⟩ := first
          refine .cons ⟨rfl, relatedFirst⟩ (inductionHypothesis distinctRest sameRest fun another => ?_)
          by_cases same : another = name
          · rw [same, Association.lookup_eq_none_of_not_mem notLater,
              Association.lookup_eq_none_of_not_mem (sameRest ▸ notLater)]
            exact .none
          · have later := inside another
            rwa [List.lookup_cons, List.lookup_cons, beq_eq_false_iff_ne.mpr same] at later

/-! ## The same data -/

theorem sameItems_iff {items others : List Json} :
    SameItems items others ↔ List.Forall₂ SameData items others := by
  induction items generalizing others with
  | nil =>
      rw [SameItems, List.forall₂_nil_left_iff]
  | cons item rest inductionHypothesis =>
      rw [SameItems, List.forall₂_cons_left_iff]
      simp only [inductionHypothesis]
      constructor
      · rintro ⟨other, further, isOthers, same, sameRest⟩
        exact ⟨other, further, same, sameRest, isOthers⟩
      · rintro ⟨other, further, same, sameRest, isOthers⟩
        exact ⟨other, further, isOthers, same, sameRest⟩

/-- Objects with the same data have the same names. -/
theorem names_perm_of_sameMembers {members others : Members}
    (distinct : (members.map Prod.fst).Nodup) (sameLength : members.length = others.length)
    (same : SameMembers members others) : (members.map Prod.fst).Perm (others.map Prod.fst) := by
  have subset : members.map Prod.fst ⊆ others.map Prod.fst := by
    intro name isName
    obtain ⟨⟨first, value⟩, member, rfl⟩ := List.mem_map.mp isName
    obtain ⟨other, found, _⟩ := (sameMembers_iff members others).mp same first value member
    exact List.mem_map.mpr ⟨(first, other), Association.mem_of_lookup_eq_some found, rfl⟩
  refine (List.subperm_of_subset distinct subset).perm_of_length_le ?_
  rw [List.length_map, List.length_map, sameLength]

theorem reorders_of_sameData {value other : Json} (regular : value.IsRegular)
    (same : SameData value other) : Reorders value other := by
  induction value using treeInduction generalizing other with
  | null => obtain rfl := same; exact .scalar rfl
  | bool value => obtain rfl := same; exact .scalar rfl
  | int value => obtain rfl := same; exact .scalar rfl
  | real value => obtain rfl := same; exact .scalar rfl
  | text value => obtain rfl := same; exact .scalar rfl
  | array items inductionHypothesis =>
      obtain ⟨others, rfl, sameItems⟩ := same
      have regularItems := isRegular_array_iff.mp regular
      have pairs := (List.forall₂_and_left _ _).mpr ⟨fun _ member => member, sameItems_iff.mp sameItems⟩
      refine .array (pairs.imp fun item other pair => ?_)
      exact inductionHypothesis item pair.1 (regularItems item pair.1) pair.2
  | object members inductionHypothesis =>
      obtain ⟨others, rfl, sameLength, sameMembers⟩ := same
      obtain ⟨distinct, regularMembers⟩ := isRegular_object_iff.mp regular
      have perm := names_perm_of_sameMembers distinct sameLength sameMembers
      refine .object distinct (perm.nodup_iff.mp distinct) fun name => ?_
      cases found : members.lookup name with
      | none =>
          have unbound : name ∉ others.map Prod.fst := by
            rw [← perm.mem_iff, ← Association.isSome_lookup_iff, found]
            exact Bool.false_ne_true
          rw [Association.lookup_eq_none_of_not_mem unbound]
          exact .none
      | some value =>
          have member := Association.mem_of_lookup_eq_some found
          obtain ⟨other, foundOther, sameValue⟩ :=
            (sameMembers_iff members others).mp sameMembers name value member
          rw [foundOther]
          exact .some (inductionHypothesis name value member (regularMembers name value member)
            sameValue)

/-! ## Values with members in order -/

theorem sortByName_eq_of_perm {Value : Type} {entries others : List (String × Value)}
    (distinct : (entries.map Prod.fst).Nodup) (perm : entries.Perm others) :
    sortByName entries = sortByName others := by
  have transitive : ∀ first second third : String × Value, (!decide (second.1 < first.1)) = true →
      (!decide (third.1 < second.1)) = true → (!decide (third.1 < first.1)) = true := by
    intro first second third
    simp only [Bool.not_eq_true', decide_eq_false_iff_not, String.not_lt]
    exact String.le_trans
  have total : ∀ first second : String × Value,
      (!decide (second.1 < first.1) || !decide (first.1 < second.1)) = true := by
    intro first second
    simp only [Bool.or_eq_true, Bool.not_eq_true', decide_eq_false_iff_not, String.not_lt]
    exact String.le_total first.1 second.1
  have inOrder (listed : List (String × Value)) :=
    List.pairwise_mergeSort transitive total listed
  refine List.Perm.eq_of_pairwise ?_ (inOrder entries) (inOrder others)
    ((perm_sortByName entries).trans (perm.trans (perm_sortByName others).symm))
  rintro ⟨name, value⟩ ⟨otherName, other⟩ member otherMember before after
  simp only [Bool.not_eq_true', decide_eq_false_iff_not, String.not_lt] at before after
  obtain rfl := String.le_antisymm before after
  -- Entries of one name are one entry.
  have found := (Association.lookup_eq_some_iff_of_nodup distinct name value).mpr
    ((perm_sortByName entries).mem_iff.mp member)
  have foundOther := (Association.lookup_eq_some_iff_of_nodup distinct name other).mpr
    (perm.mem_iff.mpr ((perm_sortByName others).mem_iff.mp otherMember))
  rw [Option.some.inj (found.symm.trans foundOther)]

/-- Values that differ in the order of members alone are the same once members are sorted. -/
theorem Reorders.sorted_eq {value other : Json} (reorders : Reorders value other) :
    value.sorted = other.sorted := by
  refine Reorders.pairInduction ?scalar ?array ?object reorders
  case scalar => exact fun value _ => rfl
  case array =>
    intro items others inside
    rw [sorted_array, sorted_array, Related.map_eq_map_iff.mpr inside]
  case object =>
    intro members others distinct otherDistinct inside
    have names (listed : Members) :
        (listed.map fun entry => (entry.1, entry.2.sorted)).map Prod.fst = listed.map Prod.fst := by
      rw [List.map_map]
      rfl
    have sameValues : (members.map fun entry => (entry.1, entry.2.sorted)).Perm
        (others.map fun entry => (entry.1, entry.2.sorted)) := by
      refine Association.perm_of_lookup_eq (by rwa [names]) (by rwa [names]) fun name => ?_
      rw [Association.lookup_map_value, Association.lookup_map_value]
      rcases Related.option_cases (inside name) with
        ⟨found, foundOther⟩ | ⟨_, _, found, foundOther, same⟩
      · rw [found, foundOther]
      · rw [found, foundOther, Option.map_some, Option.map_some, same]
    rw [sorted_object, sorted_object, ← sortByName_map, ← sortByName_map,
      sortByName_eq_of_perm (by rwa [names]) sameValues]

theorem Reorders.depth_eq {value other : Json} (reorders : Reorders value other) :
    value.depth = other.depth := by
  rw [← depth_sorted, reorders.sorted_eq, depth_sorted]

/-! ## Texts with members in order -/

theorem writeAt_sorted (value : Json) (level : Nat) :
    writeAt plainLayout level value.sorted = writeAt sortedLayout level value := by
  have sameEnclose : plainLayout.enclose = sortedLayout.enclose := rfl
  induction value using treeInduction generalizing level with
  | null => rfl
  | bool value => rfl
  | int value => rfl
  | real value => rfl
  | text value => rfl
  | array items inductionHypothesis =>
      have sameItems : (items.map sorted).map (writeAt plainLayout (level + 1)) =
          items.map (writeAt sortedLayout (level + 1)) := by
        rw [List.map_map]
        exact List.map_congr_left fun item member => inductionHypothesis item member (level + 1)
      rw [sorted_array, writeAt, writeAt, writeItems_eq_map, writeItems_eq_map, sameItems,
        sameEnclose]
  | object members inductionHypothesis =>
      have sameMembers : ((sortByName members).map fun entry => (entry.1, entry.2.sorted)).map
          (fun entry => (entry.1, writeAt plainLayout (level + 1) entry.2)) =
          (sortByName members).map fun entry =>
            (entry.1, writeAt sortedLayout (level + 1) entry.2) := by
        rw [List.map_map]
        refine List.map_congr_left fun entry inOrder => ?_
        have member := (perm_sortByName members).mem_iff.mp inOrder
        exact congrArg (Prod.mk entry.1)
          (inductionHypothesis entry.1 entry.2 member (level + 1))
      have plainOrder (listed : Members) : plainLayout.inOrder listed = listed := rfl
      have sortedOrder (listed : Members) : sortedLayout.inOrder listed = sortByName listed := rfl
      rw [sorted_object, writeAt, writeAt, writeMembers_eq_map, writeMembers_eq_map, arrange_map,
        arrange_map, plainOrder, sortedOrder, sameMembers, sameEnclose]
      rfl

/-- Values that are the same once members are sorted have the same text with sorted members. -/
theorem write_eq_of_sorted_eq {value other : Json} (same : value.sorted = other.sorted) :
    value.write sortedLayout = other.write sortedLayout := by
  rw [write, write, ← writeAt_sorted, same, writeAt_sorted]

end StaticSite.Json
