import StaticSite.Json.Depth
import StaticSite.Proofs.Json.Reading

/-!
Contract: how deep values are.

Owns:
- what the test for nesting beyond a limit finds among values still to visit, in terms of their
  depths;
- the room that open containers leave for the values inside, as a law of every step of reading;
- the law that a value that is read is no deeper than the limit on open containers.

Does not own: the depth itself (see `StaticSite.Json.Basic`).
-/

namespace StaticSite.Json

variable {halves : Text.Halves}

/-! ## The test for nesting -/

theorem depth_of_children?_none {value : Json} (isScalar : value.children? = none) :
    value.depth = 0 := by
  cases value with
  | array items => cases isScalar
  | object members => cases isScalar
  | _ => rfl

theorem depthOfMembers_eq (members : Members) :
    depthOfMembers members = depthOfItems (members.map Prod.snd) := by
  induction members with
  | nil => rfl
  | cons member others inductionHypothesis =>
      rw [depthOfMembers, List.map_cons, depthOfItems, inductionHypothesis]

theorem depth_of_children?_some {value : Json} {inside : List Json}
    (isContainer : value.children? = some inside) : value.depth = depthOfItems inside + 1 := by
  cases value with
  | array items =>
      cases isContainer
      rfl
  | object members =>
      cases isContainer
      rw [depth, depthOfMembers_eq]
  | _ => cases isContainer

theorem lt_depthOfItems_iff {items : List Json} {limit : Nat} :
    limit < depthOfItems items ↔ ∃ item ∈ items, limit < item.depth := by
  rw [← Nat.not_le, depthOfItems_le_iff]
  simp only [not_forall, Nat.not_le, exists_prop]

theorem exceeds_scalar {value : Json} (isScalar : value.children? = none) (limit level : Nat)
    (pending : List (Json × Nat)) :
    exceeds limit ((value, level) :: pending) = exceeds limit pending := by
  rw [exceeds]
  split
  · rfl
  · rename_i isContainer
    rw [isScalar] at isContainer
    cases isContainer

theorem exceeds_container {value : Json} {inside : List Json}
    (isContainer : value.children? = some inside) (limit level : Nat)
    (pending : List (Json × Nat)) :
    exceeds limit ((value, level) :: pending) =
      if limit < level then true
      else exceeds limit ((inside.map fun item => (item, level + 1)) ++ pending) := by
  rw [exceeds]
  split
  · rename_i isScalar
    rw [isContainer] at isScalar
    cases isScalar
  · rename_i others isOther
    rw [isContainer] at isOther
    rw [Option.some.inj isOther]

/-- Within the limit, a container reaches beyond it exactly if one of the values inside does. -/
theorem exists_inside_iff {value : Json} {inside : List Json}
    (isContainer : value.children? = some inside) {limit level : Nat} (within : level ≤ limit) :
    (∃ entry ∈ inside.map fun item => (item, level + 1),
        entry.1.depth ≠ 0 ∧ limit + 1 < entry.2 + entry.1.depth) ↔
      value.depth ≠ 0 ∧ limit + 1 < level + value.depth := by
  have isDepth := depth_of_children?_some isContainer
  have deepest : limit - level < depthOfItems inside ↔ ∃ item ∈ inside, limit - level < item.depth :=
    lt_depthOfItems_iff
  constructor
  · rintro ⟨entry, member, _, beyond⟩
    obtain ⟨item, inInside, rfl⟩ := List.mem_map.mp member
    dsimp only at beyond
    have reaches : limit - level < item.depth := by omega
    have deeper := deepest.mpr ⟨item, inInside, reaches⟩
    omega
  · rintro ⟨_, beyond⟩
    have deeper : limit - level < depthOfItems inside := by omega
    obtain ⟨item, inInside, reaches⟩ := deepest.mp deeper
    refine ⟨_, List.mem_map.mpr ⟨item, inInside, rfl⟩, ?_, ?_⟩
    · exact Nat.ne_of_gt (Nat.zero_lt_of_lt reaches)
    · dsimp only
      omega

/-- The test finds out whether a value to visit reaches beyond the limit, counted from the level
that it is paired with. -/
theorem exceeds_iff (limit : Nat) (pending : List (Json × Nat)) :
    exceeds limit pending = true ↔
      ∃ entry ∈ pending, entry.1.depth ≠ 0 ∧ limit + 1 < entry.2 + entry.1.depth := by
  -- The induction follows the visit; only the last case puts values on the worklist.
  induction pending using exceeds.induct limit with
  | case1 =>
      rw [exceeds]
      simp
  | case2 value level pending isScalar inductionHypothesis =>
      have flat := depth_of_children?_none isScalar
      rw [exceeds_scalar isScalar, inductionHypothesis]
      simp [flat]
  | case3 value level pending inside isContainer beyond =>
      have isDepth := depth_of_children?_some isContainer
      rw [exceeds_container isContainer, if_pos beyond]
      refine iff_of_true rfl ⟨(value, level), List.mem_cons_self, ?_, ?_⟩
      · rw [isDepth]
        exact Nat.succ_ne_zero _
      · dsimp only
        omega
  | case4 value level pending inside isContainer within inductionHypothesis =>
      rw [exceeds_container isContainer, if_neg within, inductionHypothesis]
      simp only [List.mem_append, List.mem_cons, or_and_right, exists_or, exists_eq_left]
      rw [exists_inside_iff isContainer (Nat.not_lt.mp within)]

theorem isDeeperThan_eq_false_iff {limit : Nat} {value : Json} :
    value.isDeeperThan limit = false ↔ value.depth ≤ limit := by
  rw [isDeeperThan, ← Bool.not_eq_true, exceeds_iff]
  constructor
  · intro notDeeper
    by_contra beyond
    have reaches : limit + 1 < 1 + value.depth := by omega
    have some : value.depth ≠ 0 := by omega
    exact notDeeper ⟨(value, 1), List.mem_singleton_self _, some, reaches⟩
  · rintro within ⟨entry, member, _, beyond⟩
    rw [List.mem_singleton.mp member] at beyond
    dsimp only at beyond
    omega

/-! ## Values that are read -/

/-- The values that an open container holds so far. -/
def Frame.values : Frame → List Json
  | .array items => items
  | .object members _ => members.map Prod.snd

/-- Whether some values leave room for as many containers around them. -/
def FitWithin (around : Nat) (values : List Json) : Prop :=
  ∀ value ∈ values, value.depth + around ≤ openContainerLimit

/-- Whether open containers are within their limit, with what they hold. -/
def FramesFit : List Frame → Prop
  | [] => True
  | frame :: outer =>
      outer.length < openContainerLimit ∧ FitWithin (outer.length + 1) frame.values ∧
        FramesFit outer

/-- Whether there is room for what may come next inside as many open containers. -/
def Expectation.Fits (around : Nat) : Expectation → Prop
  | .value => around ≤ openContainerLimit
  | .firstItem => around < openContainerLimit
  | .firstName => around < openContainerLimit
  | .name members =>
      around < openContainerLimit ∧ FitWithin (around + 1) (members.map Prod.snd)
  | .colon members _ =>
      around < openContainerLimit ∧ FitWithin (around + 1) (members.map Prod.snd)
  | .continuation held => held.depth + around ≤ openContainerLimit

/-- Whether a reading stays within the limit on open containers. -/
def Reading.Fits : Reading → Prop
  | .open expectation frames => expectation.Fits frames.length ∧ FramesFit frames
  | .complete value => value.depth ≤ openContainerLimit

theorem fitWithin_nil (around : Nat) : FitWithin around [] :=
  fun _ member => absurd member List.not_mem_nil

theorem FramesFit.length_le {frames : List Frame} (fit : FramesFit frames) :
    frames.length ≤ openContainerLimit := by
  cases frames with
  | nil => exact Nat.zero_le _
  | cons frame outer => exact fit.1

theorem depth_of_isReadScalar {value : Json} (isScalar : IsReadScalar value) : value.depth = 0 := by
  cases isScalar <;> rfl

theorem depth_array_le {around : Nat} {items : List Json} (fits : FitWithin (around + 1) items)
    (within : around < openContainerLimit) :
    (Json.array items).depth + around ≤ openContainerLimit := by
  have deepest : depthOfItems items ≤ openContainerLimit - (around + 1) :=
    depthOfItems_le_iff.mpr fun item member => Nat.le_sub_of_add_le (fits item member)
  rw [depth]
  omega

/-- An object needs room for one container more than its values. -/
theorem depth_object_le {around : Nat} {members : Members}
    (fits : FitWithin (around + 1) (members.map Prod.snd)) (within : around < openContainerLimit) :
    (Json.object members).depth + around ≤ openContainerLimit := by
  have deepest : depthOfMembers members ≤ openContainerLimit - (around + 1) := by
    refine depthOfMembers_le_iff.mpr fun name value member => ?_
    exact Nat.le_sub_of_add_le (fits value (List.mem_map.mpr ⟨(name, value), member, rfl⟩))
  rw [depth]
  omega

section Step

variable {placed : PlacedToken} {frames : List Frame} {next : Reading} (fit : FramesFit frames)
include fit

theorem fits_beginValue (ofScalar : placed.token.HoldsReadScalar)
    (isStep : beginValue placed frames = .ok next) : next.Fits := by
  have within := fit.length_le
  unfold beginValue at isStep
  split at isStep
  · rename_i text _
    cases isStep
    have flat : (Json.text text).depth = 0 := rfl
    refine ⟨?_, fit⟩
    rw [Expectation.Fits, flat, Nat.zero_add]
    exact within
  · rename_i value isToken
    cases isStep
    rw [isToken] at ofScalar
    refine ⟨?_, fit⟩
    rw [Expectation.Fits, depth_of_isReadScalar ofScalar, Nat.zero_add]
    exact within
  · split at isStep
    · rename_i room
      cases isStep
      exact ⟨room, fit⟩
    · cases isStep
  · split at isStep
    · rename_i room
      cases isStep
      exact ⟨room, fit⟩
    · cases isStep
  · cases isStep
  · cases isStep
  · cases isStep

theorem fits_beginMember {members : Members} (room : frames.length < openContainerLimit)
    (fits : FitWithin (frames.length + 1) (members.map Prod.snd))
    (isStep : beginMember placed members frames = .ok next) : next.Fits := by
  unfold beginMember at isStep
  split at isStep
  · cases isStep
    exact ⟨⟨room, fits⟩, fit⟩
  · cases isStep
  · cases isStep

theorem fits_continueAfter {value : Json}
    (fits : value.depth + frames.length ≤ openContainerLimit)
    (isStep : continueAfter value placed frames = .ok next) : next.Fits := by
  unfold continueAfter at isStep
  split at isStep
  · split at isStep
    · cases isStep
      exact fits
    · cases isStep
  · rename_i items outer
    obtain ⟨room, fitItems, fitOuter⟩ := fit
    have fitAll : FitWithin (outer.length + 1) (value :: items) :=
      List.forall_mem_cons.mpr ⟨fits, fitItems⟩
    split at isStep
    · cases isStep
      exact ⟨room, room, fitAll, fitOuter⟩
    · cases isStep
      refine ⟨depth_array_le (fun item member => ?_) room, fitOuter⟩
      exact fitAll item (List.mem_reverse.mp member)
    · cases isStep
  · rename_i members name outer
    obtain ⟨room, fitMembers, fitOuter⟩ := fit
    have fitAll : FitWithin (outer.length + 1) (((name, value) :: members).map Prod.snd) :=
      List.forall_mem_cons.mpr ⟨fits, fitMembers⟩
    split at isStep
    · cases isStep
      exact ⟨⟨room, fitAll⟩, fitOuter⟩
    · cases isStep
      refine ⟨depth_object_le (fun held member => ?_) room, fitOuter⟩
      obtain ⟨entry, isBound, rfl⟩ := List.mem_map.mp member
      have isMember := List.mem_reverse.mp (Association.mem_of_mem_ofBindings isBound)
      exact fitAll entry.2 (List.mem_map_of_mem isMember)
    · cases isStep

end Step

/-- A step stays within the limit on open containers. -/
theorem fits_step {placed : PlacedToken} {reading next : Reading}
    (ofScalar : placed.token.HoldsReadScalar) (fits : reading.Fits)
    (isStep : reading.step placed = .ok next) : next.Fits := by
  cases reading with
  | complete value => cases isStep
  | «open» expectation frames =>
      obtain ⟨fitsHere, fit⟩ := fits
      cases expectation with
      | value => exact fits_beginValue fit ofScalar isStep
      | firstItem =>
          simp only [Reading.step] at isStep
          split at isStep
          · cases isStep
            exact ⟨depth_array_le (fitWithin_nil _) fitsHere, fit⟩
          · have fitInside : FramesFit (.array [] :: frames) := ⟨fitsHere, fitWithin_nil _, fit⟩
            exact fits_beginValue fitInside ofScalar isStep
      | firstName =>
          simp only [Reading.step] at isStep
          split at isStep
          · cases isStep
            exact ⟨depth_object_le (fitWithin_nil _) fitsHere, fit⟩
          · exact fits_beginMember fit fitsHere (fitWithin_nil _) isStep
      | name members => exact fits_beginMember fit fitsHere.1 fitsHere.2 isStep
      | colon members name =>
          simp only [Reading.step] at isStep
          split at isStep
          · cases isStep
            exact ⟨fitsHere.1, fitsHere.1, fitsHere.2, fit⟩
          · cases isStep
      | continuation value => exact fits_continueAfter fit fitsHere isStep

/-- Every value that is read from a text is within the limit on open containers. -/
theorem depth_le_of_read {source : String} {value : Json} (isRead : read source = .ok value) :
    value.depth ≤ openContainerLimit :=
  holds_of_read Reading.Fits (fun _ ofScalar _ _ fits isStep => fits_step ofScalar fits isStep)
    ⟨Nat.zero_le _, trivial⟩ isRead

end StaticSite.Json
