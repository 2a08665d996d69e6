import Mathlib.Data.List.Perm.Subperm
import StaticSite.Proofs.Page.Content

/-!
Contract: the ids that the components of a page get.

Owns:
- the search for a free number, which ends, and ends at the first free one;
- what handing out one id does to the ids used so far, and from it what handing out a whole
  list does;
- the law that the components of a page have ids of their own, which later components do not
  change.

Does not own: which characters an id has (see `StaticSite.Proofs.Page.Content`).
-/

namespace StaticSite.Page

open StaticSite.Component

/-! ## The search for a free number -/

theorem suffixed_injective (id : String) : Function.Injective (suffixed id) := by
  intro count other same
  have characters := congrArg String.toList same
  simp only [suffixed, String.toList_append, Nat.toString_eq_repr, Nat.toList_repr] at characters
  have digits : Nat.toDigits 10 count = Nat.toDigits 10 other :=
    List.append_cancel_left characters
  have values := congrArg (fun digits => Nat.ofDigitChars 10 digits 0) digits
  simpa using values

theorem isUsed_iff (used : UsedIds) (id : String) :
    isUsed used id = true ↔ id ∈ used.map Prod.fst := by
  induction used with
  | nil => simp [isUsed]
  | cons entry others inductionHypothesis =>
      obtain ⟨name, count⟩ := entry
      rw [isUsed, List.lookup_cons, List.map_cons, List.mem_cons]
      by_cases same : id = name
      · simp [same]
      · have differs : (id == name) = false := beq_eq_false_iff_ne.mpr same
        rw [differs]
        show isUsed others id = true ↔ _
        rw [inductionHypothesis]
        simp [same]

theorem le_length_of_isUsed {used : UsedIds} {id : String} {count tries : Nat}
    (taken : ∀ earlier < tries, isUsed used (suffixed id (count + earlier)) = true) :
    tries ≤ used.length := by
  have distinct : ((List.range tries).map fun earlier => suffixed id (count + earlier)).Nodup := by
    apply List.Nodup.map
    · intro first second same
      have sameCount := suffixed_injective id same
      omega
    · exact List.nodup_range
  have inside : ((List.range tries).map fun earlier => suffixed id (count + earlier)) ⊆
      used.map Prod.fst := by
    intro candidate member
    obtain ⟨earlier, below, rfl⟩ := List.mem_map.mp member
    exact (isUsed_iff used _).mp (taken earlier (List.mem_range.mp below))
  have bounded := (distinct.subperm inside).length_le
  rw [List.length_map, List.length_map, List.length_range] at bounded
  exact bounded

/-- The search tries number after number, and stops early only at an unused one. -/
theorem exists_freeCount_eq (used : UsedIds) (id : String) (fuel count : Nat) :
    ∃ tries ≤ fuel, freeCount used id fuel count = count + tries ∧
      (∀ earlier < tries, isUsed used (suffixed id (count + earlier)) = true) ∧
      (tries < fuel → isUsed used (suffixed id (count + tries)) = false) := by
  induction fuel generalizing count with
  | zero =>
      refine ⟨0, Nat.le_refl 0, rfl, ?_, ?_⟩
      · intro earlier below
        omega
      · intro below
        omega
  | succ fuel inductionHypothesis =>
      rw [freeCount]
      by_cases taken : isUsed used (suffixed id count) = true
      · obtain ⟨tries, within, isCount, before, stops⟩ := inductionHypothesis (count + 1)
        rw [if_pos taken]
        refine ⟨tries + 1, by omega, by omega, ?_, ?_⟩
        · intro earlier below
          cases earlier with
          | zero => exact taken
          | succ earlier =>
              have later := before earlier (by omega)
              rw [Nat.add_right_comm, Nat.add_assoc] at later
              exact later
        · intro below
          have free := stops (by omega)
          rw [Nat.add_right_comm, Nat.add_assoc] at free
          exact free
      · rw [if_neg taken]
        refine ⟨0, by omega, rfl, ?_, ?_⟩
        · intro earlier below
          omega
        · intro _
          exact Bool.eq_false_iff.mpr taken

/-- The search from a number on ends, after at most as many tries as ids are used, and it ends
at the first number that makes an unused id. -/
theorem exists_free_number (used : UsedIds) (id : String) (count : Nat) :
    ∃ tries ≤ used.length, freeCount used id used.length count = count + tries ∧
      isUsed used (suffixed id (count + tries)) = false ∧
      ∀ earlier < tries, isUsed used (suffixed id (count + earlier)) = true := by
  obtain ⟨tries, within, isCount, before, stops⟩ := exists_freeCount_eq used id used.length count
  refine ⟨tries, within, isCount, ?_, before⟩
  by_cases early : tries < used.length
  · exact stops early
  · -- All fuel is spent, so that one more used candidate would be one too many.
    apply Bool.eq_false_iff.mpr
    intro taken
    have allTaken : ∀ earlier < tries + 1, isUsed used (suffixed id (count + earlier)) = true := by
      intro earlier below
      by_cases isLast : earlier = tries
      · rw [isLast]
        exact taken
      · exact before earlier (by omega)
    have tooMany := le_length_of_isUsed allTaken
    omega

/-! ## Handing out one id -/

/-- Every id that is counted has been asked for. -/
def Counts (used : UsedIds) : Prop :=
  ∀ entry ∈ used, 0 < entry.2

theorem counts_bind {used : UsedIds} (counts : Counts used) (id : String) {count : Nat}
    (positive : 0 < count) : Counts (Association.bind id count used) := by
  intro entry member
  rcases Association.mem_of_mem_bind member with isNew | old
  · rw [isNew]
    exact positive
  · exact counts entry old

/-- What becomes of the used ids when one more is handed out. -/
structure HandsOut (used : UsedIds) (id : String) (usedNow : UsedIds) : Prop where
  fresh : id ∉ used.map Prod.fst
  recorded : id ∈ usedNow.map Prod.fst
  grows : ∀ other ∈ used.map Prod.fst, other ∈ usedNow.map Prod.fst
  counts : Counts usedNow

theorem uniqueId_of_not_mem {used : UsedIds} {wanted : String}
    (unused : wanted ∉ used.map Prod.fst) :
    uniqueId used wanted = (wanted, Association.bind wanted 1 used) := by
  have noCount : used.lookup wanted = none := by
    rw [← isUsed_iff, isUsed, Option.isSome_iff_ne_none, not_not] at unused
    exact unused
  simp only [uniqueId, noCount, Option.getD_none, Nat.zero_add, if_true]

/-- An id that is wanted again is handed out with the first free number. -/
theorem exists_uniqueId_eq_of_mem {used : UsedIds} (counts : Counts used) {wanted : String}
    (again : wanted ∈ used.map Prod.fst) :
    ∃ count number counted, 0 < count ∧ counted = Association.bind wanted count used ∧
      suffixed wanted number ∉ counted.map Prod.fst ∧
      uniqueId used wanted =
        (suffixed wanted number, Association.bind (suffixed wanted number) 1 counted) := by
  rw [← isUsed_iff, isUsed, Option.isSome_iff_exists] at again
  obtain ⟨before, found⟩ := again
  have positive := counts _ (Association.mem_of_lookup_eq_some found)
  have isRepeated : ¬ before + 1 = 1 := by
    simp only at positive
    omega
  obtain ⟨tries, _, isCount, free, _⟩ := exists_free_number
    (Association.bind wanted (before + 1) used) wanted (before + 1)
  refine ⟨before + 1, before + 1 + tries, _, Nat.succ_pos before, rfl, ?_, ?_⟩
  · rw [← isUsed_iff]
    exact Bool.eq_false_iff.mp free
  · simp only [uniqueId, found, Option.getD_some, if_neg isRepeated, isCount]

/-- An id that is handed out has not been used before, and counts as used from then on. -/
theorem handsOut_uniqueId {used : UsedIds} (counts : Counts used) (wanted : String) :
    HandsOut used (uniqueId used wanted).1 (uniqueId used wanted).2 := by
  by_cases again : wanted ∈ used.map Prod.fst
  · obtain ⟨count, number, counted, positive, rfl, free, isId⟩ :=
      exists_uniqueId_eq_of_mem counts again
    rw [isId]
    constructor
    case fresh =>
      intro member
      apply free
      rw [Association.mem_names_bind]
      exact Or.inr member
    case recorded =>
      rw [Association.mem_names_bind]
      exact Or.inl rfl
    case grows =>
      intro other member
      rw [Association.mem_names_bind, Association.mem_names_bind]
      exact Or.inr (Or.inr member)
    case counts => exact counts_bind (counts_bind counts wanted positive) _ Nat.one_pos
  · rw [uniqueId_of_not_mem again]
    constructor
    case fresh => exact again
    case recorded =>
      rw [Association.mem_names_bind]
      exact Or.inl rfl
    case grows =>
      intro other member
      rw [Association.mem_names_bind]
      exact Or.inr member
    case counts => exact counts_bind counts wanted Nat.one_pos

/-! ## Handing out the ids of a page -/

theorem uniqueIds_cons (used : UsedIds) (wanted : String) (others : List String) :
    uniqueIds used (wanted :: others) =
      (uniqueId used wanted).1 :: uniqueIds (uniqueId used wanted).2 others :=
  rfl

/-- Ids handed out in a row are different, and none of them has been used before. -/
theorem nodup_uniqueIds {used : UsedIds} (counts : Counts used) (wanted : List String) :
    (uniqueIds used wanted).Nodup ∧
      ∀ id ∈ uniqueIds used wanted, id ∉ used.map Prod.fst := by
  induction wanted generalizing used with
  | nil => exact ⟨List.nodup_nil, fun _ member => absurd member List.not_mem_nil⟩
  | cons first others inductionHypothesis =>
      have handsOut := handsOut_uniqueId counts first
      obtain ⟨distinct, unused⟩ := inductionHypothesis handsOut.counts
      rw [uniqueIds_cons]
      constructor
      · apply List.nodup_cons.mpr
        constructor
        · intro again
          exact unused _ again handsOut.recorded
        · exact distinct
      · -- Ids once used stay used, so that what is new later is new now.
        intro id member
        rcases List.mem_cons.mp member with isFirst | later
        · rw [isFirst]
          exact handsOut.fresh
        · intro before
          exact unused id later (handsOut.grows id before)

theorem length_uniqueIds (used : UsedIds) (wanted : List String) :
    (uniqueIds used wanted).length = wanted.length := by
  induction wanted generalizing used with
  | nil => rfl
  | cons first others inductionHypothesis =>
      rw [uniqueIds_cons, List.length_cons, List.length_cons, inductionHypothesis]

theorem uniqueIds_of_nodup {used : UsedIds} {wanted : List String} (distinct : wanted.Nodup)
    (unused : ∀ id ∈ wanted, id ∉ used.map Prod.fst) : uniqueIds used wanted = wanted := by
  induction wanted generalizing used with
  | nil => rfl
  | cons first others inductionHypothesis =>
      obtain ⟨notLater, othersDistinct⟩ := List.nodup_cons.mp distinct
      rw [uniqueIds_cons, uniqueId_of_not_mem (unused first List.mem_cons_self)]
      congr 1
      apply inductionHypothesis othersDistinct
      intro id member usedNow
      rw [Association.mem_names_bind] at usedNow
      rcases usedNow with isFirst | before
      · rw [isFirst] at member
        exact notLater member
      · exact unused id (List.mem_cons_of_mem first member) before

theorem uniqueIds_prefix (used : UsedIds) (wanted later : List String) :
    uniqueIds used wanted <+: uniqueIds used (wanted ++ later) := by
  induction wanted generalizing used with
  | nil => exact List.nil_prefix
  | cons first others inductionHypothesis =>
      rw [List.cons_append, uniqueIds_cons, uniqueIds_cons, List.prefix_cons_inj]
      exact inductionHypothesis _

/-! ## Components with their ids -/

def withId (node : Node) (id : String) : Node :=
  { node with id := id }

theorem withUniqueIds_eq (nodes : List Node) :
    withUniqueIds nodes = List.zipWith withId nodes (uniqueIds [] (nodes.map (·.id))) :=
  rfl

theorem zipWith_withId {nodes : List Node} {ids : List String}
    (sameLength : ids.length = nodes.length) :
    (List.zipWith withId nodes ids).map (·.id) = ids ∧
      List.Forall₂ (fun stored node => node = withId stored node.id) nodes
        (List.zipWith withId nodes ids) := by
  induction nodes generalizing ids with
  | nil =>
      rw [List.length_eq_zero_iff.mp sameLength]
      exact ⟨rfl, .nil⟩
  | cons node others inductionHypothesis =>
      cases ids with
      | nil => simp at sameLength
      | cons id rest =>
          obtain ⟨areIds, areStored⟩ := inductionHypothesis (Nat.succ.inj sameLength)
          rw [List.zipWith_cons_cons, List.map_cons, areIds]
          exact ⟨rfl, .cons rfl areStored⟩

theorem length_uniqueIds_map (nodes : List Node) :
    (uniqueIds [] (nodes.map (·.id))).length = nodes.length := by
  rw [length_uniqueIds, List.length_map]

theorem map_id_withUniqueIds (nodes : List Node) :
    (withUniqueIds nodes).map (·.id) = uniqueIds [] (nodes.map (·.id)) :=
  (zipWith_withId (length_uniqueIds_map nodes)).1

/-- Components keep ids that are different already. -/
theorem withUniqueIds_of_nodup {nodes : List Node} (distinct : (nodes.map (·.id)).Nodup) :
    withUniqueIds nodes = nodes := by
  have kept : uniqueIds [] (nodes.map (·.id)) = nodes.map (·.id) :=
    uniqueIds_of_nodup distinct fun _ _ => List.not_mem_nil
  rw [withUniqueIds_eq, kept, List.zipWith_map_right, List.zipWith_self]
  exact List.map_id nodes

theorem withUniqueIds_prefix (nodes later : List Node) :
    withUniqueIds nodes <+: withUniqueIds (nodes ++ later) := by
  obtain ⟨rest, isIds⟩ := uniqueIds_prefix [] (nodes.map (·.id)) (later.map (·.id))
  rw [withUniqueIds_eq (nodes ++ later), List.map_append, ← isIds,
    List.zipWith_append (length_uniqueIds_map nodes).symm]
  exact List.prefix_append _ _

theorem storedNodes_prefix (entries later : List Json) :
    storedNodes entries <+: storedNodes (entries ++ later) := by
  unfold storedNodes
  rw [List.zipIdx_append, List.filterMap_append]
  exact List.prefix_append _ _

theorem withUniqueIds_storedNodes_prefix (entries later : List Json) :
    withUniqueIds (storedNodes entries) <+: withUniqueIds (storedNodes (entries ++ later)) := by
  obtain ⟨rest, isNodes⟩ := storedNodes_prefix entries later
  rw [← isNodes]
  exact withUniqueIds_prefix _ rest

/-! ## Ids that are not empty -/

theorem normalizeId_ne_empty (stored : Json) (index : Nat) : normalizeId stored index ≠ "" := by
  have someId : ∀ text : String,
      (if text == "" then "c" ++ toString index else hyphenate text) ≠ "" := by
    intro text
    split
    · intro isEmpty
      have characters := congrArg String.toList isEmpty
      rw [String.toList_append] at characters
      cases characters
    · rename_i notBlank
      intro isEmpty
      have characters := congrArg String.toList isEmpty
      rw [hyphenate, String.toList_ofList, String.toList_empty, List.map_eq_nil_iff,
        String.toList_eq_nil_iff] at characters
      exact notBlank (beq_iff_eq.mpr characters)
  exact someId _

theorem suffixed_ne_empty (id : String) (count : Nat) : suffixed id count ≠ "" := by
  intro isEmpty
  have characters := congrArg String.toList isEmpty
  simp [suffixed] at characters

theorem uniqueId_ne_empty {wanted : String} (notEmpty : wanted ≠ "") (used : UsedIds) :
    (uniqueId used wanted).1 ≠ "" := by
  unfold uniqueId
  dsimp only
  split
  · exact notEmpty
  · exact suffixed_ne_empty _ _

theorem ne_empty_of_mem_uniqueIds {used : UsedIds} {wanted : List String}
    (notEmpty : ∀ id ∈ wanted, id ≠ "") : ∀ id ∈ uniqueIds used wanted, id ≠ "" := by
  induction wanted generalizing used with
  | nil => exact fun _ member => absurd member List.not_mem_nil
  | cons first others inductionHypothesis =>
      obtain ⟨someFirst, someOthers⟩ := List.forall_mem_cons.mp notEmpty
      intro id member
      rcases List.mem_cons.mp member with isFirst | later
      · rw [isFirst]
        exact uniqueId_ne_empty someFirst used
      · exact inductionHypothesis someOthers id later

theorem id_ne_empty_of_mem_withUniqueIds {entries : List Json} {node : Node}
    (member : node ∈ withUniqueIds (storedNodes entries)) : node.id ≠ "" := by
  have isId : node.id ∈ uniqueIds [] ((storedNodes entries).map (·.id)) := by
    rw [← map_id_withUniqueIds]
    exact List.mem_map.mpr ⟨node, member, rfl⟩
  refine ne_empty_of_mem_uniqueIds ?_ node.id isId
  intro id wanted
  obtain ⟨stored, isStored, rfl⟩ := List.mem_map.mp wanted
  obtain ⟨members, index, _, rfl⟩ := exists_of_mem_storedNodes isStored
  exact normalizeId_ne_empty _ index

/-! ## The ids of a page -/

/-- The entries that a value lists as components. -/
def listedEntries (value : Json) : List Json :=
  match value.member? "components" with
  | some (.array entries) => entries
  | _ => []

/-- The entries that stored content lists as components; blank content lists none. -/
def entriesOf (stored : Option String) : List Json :=
  match stored with
  | none => []
  | some source =>
      if Text.strip source == "" then
        []
      else
        match Json.read source with
        | .ok value => listedEntries value
        | .error _ => []

theorem listedEntries_object {members : Json.Members} {items : List Json}
    (listed : (members.lookup "components").getD (.array []) = .array items) :
    listedEntries (.object members) = items := by
  cases found : members.lookup "components" with
  | none =>
      rw [found] at listed
      simp only [listedEntries, Json.member?, found]
      exact Json.array.inj listed
  | some value =>
      rw [found, Option.getD_some] at listed
      simp only [listedEntries, Json.member?, found, listed]

theorem entriesOf_of_read {source : String} {value : Json} (isRead : Json.read source = .ok value) :
    entriesOf (some source) = listedEntries value := by
  rw [entriesOf, if_neg (strip_ne_empty_of_read isRead), isRead]

theorem components_of_readContent {stored : Option String} {content : Content}
    (isContent : readContent stored = .ok content) :
    content.components = withUniqueIds (storedNodes (entriesOf stored)) := by
  cases readContent_eq_ok_iff.mp isContent with
  | nothing isNothing =>
      cases isNothing with
      | missing => rfl
      | blank allBlank =>
          rw [entriesOf, if_pos (beq_iff_eq.mpr (Text.strip_eq_empty_iff.mpr allBlank))]
          rfl
  | object isRead fits listed =>
      rw [entriesOf_of_read isRead, listedEntries_object listed]

/-- How the components of a page get their ids from the entries that store them. -/
structure IdsFollow (entries : List Json) (components : List Node) : Prop where
  /-- No two components share an id. -/
  distinct : (components.map (·.id)).Nodup
  /-- Every id can stand in markup, in selectors and as a key. -/
  safe : ∀ node ∈ components, node.id ≠ "" ∧ IsSafeId node.id
  /-- Nothing but the ids is changed. -/
  stored : List.Forall₂ (fun stored node => node = withId stored node.id) (storedNodes entries)
    components
  /-- Normalized ids that are different already are kept. -/
  kept : ((storedNodes entries).map (·.id)).Nodup → components = storedNodes entries
  /-- The components of the first entries depend on these alone. -/
  stable : ∀ count, withUniqueIds (storedNodes (entries.take count)) <+: components

theorem idsFollow_withUniqueIds (entries : List Json) :
    IdsFollow entries (withUniqueIds (storedNodes entries)) := by
  constructor
  case distinct =>
    rw [map_id_withUniqueIds]
    exact (nodup_uniqueIds (fun _ member => absurd member List.not_mem_nil) _).1
  case safe =>
    intro node member
    exact ⟨id_ne_empty_of_mem_withUniqueIds member, isSafeId_of_mem_withUniqueIds member⟩
  case stored => exact (zipWith_withId (length_uniqueIds_map (storedNodes entries))).2
  case kept => exact withUniqueIds_of_nodup
  case stable =>
    intro count
    have isPrefix := withUniqueIds_storedNodes_prefix (entries.take count) (entries.drop count)
    rw [List.take_append_drop] at isPrefix
    exact isPrefix

/-- The components of usable content have ids of their own, whatever their entries store as ids;
ids that are different already are kept, and later entries change none. The search for a free
number ends whatever ids are used, at the first number that makes an unused id. -/
theorem component_ids_follow {stored : Option String} {content : Content}
    (isContent : readContent stored = .ok content) :
    IdsFollow (entriesOf stored) content.components ∧
      ∀ (used : UsedIds) (id : String) (count : Nat),
        ∃ tries ≤ used.length, freeCount used id used.length count = count + tries ∧
          isUsed used (suffixed id (count + tries)) = false ∧
          ∀ earlier < tries, isUsed used (suffixed id (count + earlier)) = true := by
  constructor
  · rw [components_of_readContent isContent]
    exact idsFollow_withUniqueIds (entriesOf stored)
  · exact exists_free_number

/-- Content whose entries ask for the same ids in many ways: again, with a number that is also
handed out, at a position that is also an id, and with characters that no id has. -/
def crowdedContent : String :=
  "\x7b\"components\": [\x7b\"id\": \"x\"\x7d, \x7b\"id\": \"x\"\x7d, \x7b\"id\": \"x-2\"\x7d, " ++
    "\x7b\"id\": \"c4\"\x7d, \x7b\x7d, null, \x7b\"id\": \"a b\"\x7d, \x7b\"id\": \"a-b\"\x7d]\x7d"

/-- The ids of components that ask for the same ids in many ways. -/
theorem component_ids_follow_crowded :
    ∃ content, readContent (some crowdedContent) = .ok content ∧
      content.components.map (·.id) =
        ["x", "x-2", "x-2-2", "c4", "c4-2", "a-b", "a-b-2"] ∧
      IdsFollow (entriesOf (some crowdedContent)) content.components := by
  have ids : (readContent (some crowdedContent)).toOption.map
      (fun content => content.components.map (·.id)) =
        some ["x", "x-2", "x-2-2", "c4", "c4-2", "a-b", "a-b-2"] := by
    decide +kernel
  cases isContent : readContent (some crowdedContent) with
  | ok content =>
      rw [isContent] at ids
      exact ⟨content, rfl, Option.some.inj ids, (component_ids_follow isContent).1⟩
  | error error =>
      rw [isContent] at ids
      cases ids

end StaticSite.Page
