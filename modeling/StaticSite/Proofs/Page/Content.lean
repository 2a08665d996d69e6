import StaticSite.Proofs.Json.Depth
import StaticSite.Proofs.Json.Reading
import StaticSite.Proofs.Page.Regions
import StaticSite.Proofs.Text.Letter

/-!
Contract: the components that the content of a page holds.

Owns:
- the law that ids consist of characters that may stand in an id;
- stored text that can be read, and the content that it holds;
- where the props of a component come from: they are part of a value that has been read, or
  there are none.

Does not own: the markup of components (see `StaticSite.Proofs.Emission.Renderer`).
-/

namespace StaticSite.Page

open StaticSite.Component StaticSite.Json

/-! ## Ids -/

/-- Whether all characters of a text may stand in an id. -/
def IsSafeId (id : String) : Prop :=
  ∀ character ∈ id.toList, isIdCharacter character = true

instance (id : String) : Decidable (IsSafeId id) :=
  decidable_of_iff (id.toList.all isIdCharacter = true) List.all_eq_true

theorem isSafeId_append {id other : String} (safe : IsSafeId id) (alsoSafe : IsSafeId other) :
    IsSafeId (id ++ other) := by
  rw [IsSafeId, String.toList_append]
  exact List.forall_mem_append.mpr ⟨safe, alsoSafe⟩

theorem isSafeId_number (number : Nat) : IsSafeId (toString number) := by
  intro character member
  have isText : (toString number).toList = Nat.toDigits 10 number := by
    rw [Nat.toString_eq_repr, Nat.repr_eq_ofList_toDigits, String.toList_ofList]
  rw [isText] at member
  have digit := Nat.isDigit_of_mem_toDigits (by decide) (by decide) member
  simp [isIdCharacter, Char.isAlphanum, digit]

theorem isSafeId_hyphenate (text : String) : IsSafeId (hyphenate text) := by
  intro character member
  rw [hyphenate, String.toList_ofList] at member
  obtain ⟨original, _, rfl⟩ := List.mem_map.mp member
  unfold idCharacter
  split
  · assumption
  · decide

theorem isSafeId_normalizeId (stored : Json) (index : Nat) : IsSafeId (normalizeId stored index) := by
  have letter : IsSafeId "c" := by decide
  have safe : ∀ text : String,
      IsSafeId (if text == "" then "c" ++ toString index else hyphenate text) := by
    intro text
    split
    · exact isSafeId_append letter (isSafeId_number index)
    · exact isSafeId_hyphenate text
  exact safe _

theorem isBlank_of_isIdCharacter {character : Char} (safe : isIdCharacter character = true) :
    Text.isBlank character = false := by
  have codes : 48 ≤ character.toNat ∧ character.toNat ≤ 122 ∨ character.toNat = 45 := by
    rw [isIdCharacter, Bool.or_eq_true, Bool.or_eq_true, beq_iff_eq, beq_iff_eq] at safe
    rcases safe with (alphanumeric | rfl) | rfl
    · exact Or.inl (Text.toNat_of_isAlphanum alphanumeric)
    · exact Or.inl (by decide)
    · exact Or.inr rfl
  by_contra blank
  have blankCodes := Bool.not_eq_false _ ▸ blank
  simp only [Text.isBlank, Bool.or_eq_true, Bool.and_eq_true, decide_eq_true_eq,
    beq_iff_eq] at blankCodes
  omega

theorem strip_of_isSafeId {id : String} (safe : IsSafeId id) : Text.strip id = id :=
  Text.strip_of_notBlank fun character member => isBlank_of_isIdCharacter (safe character member)

theorem hyphenate_of_isSafeId {id : String} (safe : IsSafeId id) : hyphenate id = id := by
  have kept : ∀ character ∈ id.toList, idCharacter character = character :=
    fun character member => if_pos (safe character member)
  rw [hyphenate, List.map_congr_left kept, List.map_id', String.ofList_toList]

/-- A safe id is kept, wherever it is stored. -/
theorem normalizeId_of_isSafeId {id : String} (notEmpty : id ≠ "") (safe : IsSafeId id)
    (index : Nat) : normalizeId (.text id) index = id := by
  have isId : Text.strip (Json.text id).display = id := strip_of_isSafeId safe
  unfold normalizeId
  dsimp only
  rw [isId, if_neg (by simp [notEmpty]), hyphenate_of_isSafeId safe]

theorem isSafeId_suffixed {id : String} (safe : IsSafeId id) (count : Nat) :
    IsSafeId (suffixed id count) := by
  have hyphen : IsSafeId "-" := by decide
  exact isSafeId_append (isSafeId_append safe hyphen) (isSafeId_number count)

theorem isSafeId_uniqueId {wanted : String} (safe : IsSafeId wanted) (used : UsedIds) :
    IsSafeId (uniqueId used wanted).1 := by
  unfold uniqueId
  dsimp only
  split
  · exact safe
  · exact isSafeId_suffixed safe _

theorem isSafeId_of_mem_uniqueIds {used : UsedIds} {wanted : List String}
    (safe : ∀ id ∈ wanted, IsSafeId id) : ∀ id ∈ uniqueIds used wanted, IsSafeId id := by
  induction wanted generalizing used with
  | nil => exact fun _ member => absurd member List.not_mem_nil
  | cons first others inductionHypothesis =>
      obtain ⟨safeFirst, safeOthers⟩ := List.forall_mem_cons.mp safe
      refine List.forall_mem_cons.mpr ⟨isSafeId_uniqueId safeFirst used, ?_⟩
      exact inductionHypothesis safeOthers

/-! ## Stored components -/

theorem strip_ne_empty_of_read {halves : Text.Halves} {source : String} {value : Json}
    (isRead : Json.read source = .ok value) : ¬ (Text.strip source == "") = true := by
  intro blank
  obtain ⟨error, failed⟩ := Json.exists_error_of_strip_eq_empty (beq_iff_eq.mp blank)
  rw [isRead] at failed
  cases failed

/-- Stored text that can be read holds the content of the value that it is read as. -/
theorem readContent_of_read {halves : Text.Halves} {text : String} {value : Json}
    (isRead : Json.read text = .ok value) : readContent (some text) = contentOfJson value := by
  rw [readContent, if_neg (strip_ne_empty_of_read isRead), isRead]

theorem exists_of_mem_storedNodes {items : List Json} {node : Node}
    (member : node ∈ storedNodes items) :
    ∃ members index, Json.object members ∈ items ∧ node = Node.ofMembers members index := by
  obtain ⟨⟨item, index⟩, isItem, isNode⟩ := List.mem_filterMap.mp member
  dsimp only at isNode
  split at isNode
  · rename_i members
    exact ⟨members, index, List.fst_mem_of_mem_zipIdx isItem, (Option.some.inj isNode).symm⟩
  · cases isNode

theorem exists_of_mem_withUniqueIds {nodes : List Node} {node : Node}
    (member : node ∈ withUniqueIds nodes) :
    ∃ stored ∈ nodes, ∃ id ∈ uniqueIds [] (nodes.map (·.id)), node = { stored with id := id } := by
  unfold withUniqueIds at member
  obtain ⟨position, isNode⟩ := List.mem_iff_getElem?.mp member
  rw [List.getElem?_zipWith_eq_some] at isNode
  obtain ⟨stored, id, isStored, isId, same⟩ := isNode
  exact ⟨stored, List.mem_of_getElem? isStored, id, List.mem_of_getElem? isId, same.symm⟩

theorem isSafeId_of_mem_withUniqueIds {items : List Json} {node : Node}
    (member : node ∈ withUniqueIds (storedNodes items)) : IsSafeId node.id := by
  obtain ⟨stored, _, id, isId, rfl⟩ := exists_of_mem_withUniqueIds member
  refine isSafeId_of_mem_uniqueIds (fun wanted isWanted => ?_) id isId
  obtain ⟨other, isOther, rfl⟩ := List.mem_map.mp isWanted
  obtain ⟨members, index, _, rfl⟩ := exists_of_mem_storedNodes isOther
  exact isSafeId_normalizeId _ index

/-- The props of a stored component are an object inside the one that stores it, or there are
none. -/
theorem props_ofMembers (members : Members) (index : Nat) :
    (Node.ofMembers members index).props = [] ∨
      Occurs (.object (Node.ofMembers members index).props) (.object members) := by
  unfold Node.ofMembers
  dsimp only
  split
  · rename_i props isProps
    exact Or.inr (.inMember (Association.mem_of_lookup_eq_some isProps) .itself)
  · exact Or.inl rfl

/-! ## Read content -/

/-- Whether a page has no content or blank one. -/
inductive IsNothing : Option String → Prop where
  | missing : IsNothing none
  | blank {source : String} (allBlank : ∀ character ∈ source.toList, Text.isBlank character = true) :
      IsNothing (some source)

/-- The content that a store keeps: that of the empty page where nothing is stored, or that of an
object that is nested no deeper than content may be and has a list of components, if any. -/
inductive Stores : Option String → Content → Prop where
  | nothing {stored : Option String} (isNothing : IsNothing stored) : Stores stored .empty
  | object {source : String} {members : Members} {items : List Json}
      (isRead : Json.read source = .ok (.object members))
      (fits : (Json.object members).depth ≤ depthLimit)
      (listed : (members.lookup "components").getD (.array []) = .array items) :
      Stores (some source)
        ⟨withUniqueIds (storedNodes items), ogImageOf (members.lookup "ogImage")⟩

theorem contentOfJson_eq_ok_iff {value : Json} {content : Content} :
    contentOfJson value = .ok content ↔
      ∃ members items, value = .object members ∧ (Json.object members).depth ≤ depthLimit ∧
        (members.lookup "components").getD (.array []) = .array items ∧
        content =
          ⟨withUniqueIds (storedNodes items), ogImageOf (members.lookup "ogImage")⟩ := by
  constructor
  · intro isContent
    unfold contentOfJson at isContent
    split at isContent
    · cases isContent
    · rename_i notDeeper
      split at isContent
      · rename_i members
        unfold contentOfMembers at isContent
        split at isContent
        · rename_i items listed
          exact ⟨members, items, rfl, isDeeperThan_eq_false_iff.mp (Bool.not_eq_true _ ▸ notDeeper),
            listed, (Except.ok.inj isContent).symm⟩
        · cases isContent
      · cases isContent
  · rintro ⟨members, items, rfl, fits, listed, rfl⟩
    rw [contentOfJson, isDeeperThan_eq_false_iff.mpr fits, if_neg Bool.false_ne_true]
    rw [contentOfMembers, listed]

/-- What reading gives when it succeeds. -/
theorem readContent_eq_ok_iff {stored : Option String} {content : Content} :
    readContent stored = .ok content ↔ Stores stored content := by
  constructor
  · intro isContent
    unfold readContent at isContent
    split at isContent
    · rw [← Except.ok.inj isContent]
      exact .nothing .missing
    · split at isContent
      · rename_i isBlank
        rw [← Except.ok.inj isContent]
        exact .nothing (.blank (Text.strip_eq_empty_iff.mp (beq_iff_eq.mp isBlank)))
      · split at isContent
        · cases isContent
        · rename_i isRead
          obtain ⟨members, items, rfl, fits, listed, rfl⟩ := contentOfJson_eq_ok_iff.mp isContent
          exact .object isRead fits listed
  · rintro (isNothing | ⟨isRead, fits, listed⟩)
    · cases isNothing with
      | missing => rfl
      | blank allBlank =>
          exact if_pos (beq_iff_eq.mpr (Text.strip_eq_empty_iff.mpr allBlank))
    · rw [readContent_of_read isRead]
      exact contentOfJson_eq_ok_iff.mpr ⟨_, _, rfl, fits, listed, rfl⟩

/-- Content with components has been read from a value that is not nested too deep and has them
in a list. -/
theorem exists_of_mem_components {stored : Option String} {content : Content} {node : Node}
    (isContent : readContent stored = .ok content) (member : node ∈ content.components) :
    ∃ source value items, stored = some source ∧ Json.read source = .ok value ∧
      value.depth ≤ depthLimit ∧ Occurs (.array items) value ∧
      node ∈ withUniqueIds (storedNodes items) := by
  cases readContent_eq_ok_iff.mp isContent with
  | nothing isNothing => cases member
  | @object source members items isRead fits listed =>
      refine ⟨source, _, items, rfl, isRead, fits, ?_, member⟩
      cases found : members.lookup "components" with
      | none =>
          rw [found] at listed
          cases listed
          cases member
      | some value =>
          rw [found, Option.getD_some] at listed
          rw [listed] at found
          exact .inMember (Association.mem_of_lookup_eq_some found) .itself

theorem exists_of_mem_componentsOf {page : Page} {node : Node} (member : node ∈ componentsOf page) :
    ∃ source value items, Json.read source = .ok value ∧ value.depth ≤ depthLimit ∧
      Occurs (.array items) value ∧ node ∈ withUniqueIds (storedNodes items) := by
  unfold componentsOf at member
  split at member
  · rename_i content isContent
    obtain ⟨source, value, items, _, found⟩ := exists_of_mem_components isContent member
    exact ⟨source, value, items, found⟩
  · cases member

theorem isSafeId_of_mem_componentsOf {page : Page} {node : Node}
    (member : node ∈ componentsOf page) : IsSafeId node.id := by
  obtain ⟨_, _, items, _, _, _, isNode⟩ := exists_of_mem_componentsOf member
  exact isSafeId_of_mem_withUniqueIds isNode

/-- The props of a component of a page are regular and not nested too deep. -/
theorem regular_props_of_mem_componentsOf {page : Page} {node : Node}
    (member : node ∈ componentsOf page) :
    (Json.object node.props).IsRegular ∧ (Json.object node.props).depth ≤ depthLimit := by
  obtain ⟨source, value, items, isRead, fits, occurs, isNode⟩ := exists_of_mem_componentsOf member
  obtain ⟨stored, isStored, id, _, rfl⟩ := exists_of_mem_withUniqueIds isNode
  obtain ⟨members, index, isItem, rfl⟩ := exists_of_mem_storedNodes isStored
  have regular := isRegular_of_read isRead
  rcases props_ofMembers members index with noProps | inMembers
  · dsimp only
    rw [noProps]
    exact ⟨isRegular_object_iff.mpr ⟨List.nodup_nil, areRegular_nil⟩, by decide⟩
  · have inValue := (inMembers.trans (.inItem isItem .itself)).trans occurs
    exact ⟨fun part isPart => regular part (isPart.trans inValue),
      Nat.le_trans inValue.depth_le fits⟩

end StaticSite.Page
