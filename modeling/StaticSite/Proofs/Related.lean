import Mathlib.Data.List.Forall2

/-!
Contract: lists whose items are related one by one.

Owns:
- when items are related one by one;
- related lists after their items are numbered, changed or dropped in the same way, and lists that
  are related through a third one.

Does not own: relations between particular values, such as those that differ in the order of members
(see `StaticSite.Proofs.Json.Order`).
-/

namespace StaticSite.Related

variable {First Second : Type} {related : First → Second → Prop}

/-- Related outcomes are both nothing or both something. -/
theorem option_cases {first : Option First} {second : Option Second}
    (same : Option.Rel related first second) :
    (first = none ∧ second = none) ∨
      ∃ value other, first = some value ∧ second = some other ∧ related value other := by
  cases same with
  | none => exact Or.inl ⟨rfl, rfl⟩
  | some same => exact Or.inr ⟨_, _, rfl, rfl, same⟩

variable {items : List First} {others : List Second}

/-! ## When items are related -/

/-- In lists of one length, items are related one by one if any two are. -/
theorem of_forall_mem (sameLength : items.length = others.length)
    (all : ∀ item ∈ items, ∀ other ∈ others, related item other) :
    List.Forall₂ related items others := by
  induction items generalizing others with
  | nil =>
      rw [List.length_eq_zero_iff.mp sameLength.symm]
      exact .nil
  | cons item items inductionHypothesis =>
      cases others with
      | nil => cases sameLength
      | cons other others =>
          refine .cons (all item List.mem_cons_self other List.mem_cons_self)
            (inductionHypothesis (Nat.succ.inj sameLength)
              fun inner member innerOther otherMember => ?_)
          exact all inner (List.mem_cons_of_mem item member) innerOther
            (List.mem_cons_of_mem other otherMember)

/-- A weaker relation is enough if it is implied for what the lists hold. -/
theorem imp_of_mem {implied : First → Second → Prop} (given : List.Forall₂ related items others)
    (implies : ∀ item ∈ items, ∀ other ∈ others, related item other → implied item other) :
    List.Forall₂ implied items others := by
  induction given with
  | nil => exact .nil
  | @cons item other items others first _ inductionHypothesis =>
      refine .cons (implies item List.mem_cons_self other List.mem_cons_self first)
        (inductionHypothesis fun inner member innerOther otherMember => ?_)
      exact implies inner (List.mem_cons_of_mem item member) innerOther
        (List.mem_cons_of_mem other otherMember)

/-- What the second of two related lists holds is related to something in the first. -/
theorem exists_of_mem (given : List.Forall₂ related items others) {other : Second}
    (member : other ∈ others) : ∃ item ∈ items, related item other := by
  induction given with
  | nil => cases member
  | @cons item first items others isRelated _ inductionHypothesis =>
      rcases List.mem_cons.mp member with rfl | later
      · exact ⟨item, List.mem_cons_self, isRelated⟩
      · obtain ⟨inner, innerMember, innerRelated⟩ := inductionHypothesis later
        exact ⟨inner, List.mem_cons_of_mem item innerMember, innerRelated⟩

/-- Lists that are related to a third one are related to each other. -/
theorem trans {Third : Type} {relatedOn : Second → Third → Prop} {further : List Third}
    (given : List.Forall₂ related items others) (givenOn : List.Forall₂ relatedOn others further) :
    List.Forall₂ (fun item last => ∃ other, related item other ∧ relatedOn other last) items
      further := by
  induction given generalizing further with
  | nil =>
      cases givenOn
      exact .nil
  | cons first _ inductionHypothesis =>
      cases givenOn with
      | cons firstOn laterOn => exact .cons ⟨_, first, firstOn⟩ (inductionHypothesis laterOn)

/-! ## Changes of related lists -/

theorem zipIdx (given : List.Forall₂ related items others) (start : Nat) :
    List.Forall₂ (fun entry other => entry.2 = other.2 ∧ related entry.1 other.1)
      (items.zipIdx start) (others.zipIdx start) := by
  induction given generalizing start with
  | nil => exact .nil
  | cons first _ inductionHypothesis =>
      rw [List.zipIdx_cons, List.zipIdx_cons]
      exact .cons ⟨rfl, first⟩ (inductionHypothesis (start + 1))

/-- Changes that keep items related keep lists related, also where they depend on a third list. -/
theorem zipWith {Third : Type} {change : First → Third → First}
    {changeOther : Second → Third → Second}
    (keeps : ∀ item other third, related item other →
      related (change item third) (changeOther other third))
    (given : List.Forall₂ related items others) (thirds : List Third) :
    List.Forall₂ related (items.zipWith change thirds) (others.zipWith changeOther thirds) := by
  induction given generalizing thirds with
  | nil => exact .nil
  | cons first _ inductionHypothesis =>
      cases thirds with
      | nil => exact .nil
      | cons third thirds => exact .cons (keeps _ _ third first) (inductionHypothesis thirds)

variable {Result : Type}

/-- Changes of two lists have equal results if and only if they have so one by one. -/
theorem map_eq_map_iff {change : First → Result} {changeOther : Second → Result} :
    items.map change = others.map changeOther ↔
      List.Forall₂ (fun item other => change item = changeOther other) items others := by
  rw [← List.forall₂_map_right_iff, ← List.forall₂_map_left_iff, List.forall₂_eq_eq_eq]

theorem filterMap_eq_filterMap {choose : First → Option Result}
    {chooseOther : Second → Option Result}
    (same : List.Forall₂ (fun item other => choose item = chooseOther other) items others) :
    items.filterMap choose = others.filterMap chooseOther := by
  induction same with
  | nil => rfl
  | cons first _ inductionHypothesis =>
      rw [List.filterMap_cons, List.filterMap_cons, first, inductionHypothesis]

theorem mapM_eq_mapM {Error : Type} {change : First → Except Error Result}
    {changeOther : Second → Except Error Result}
    (same : List.Forall₂ (fun item other => change item = changeOther other) items others) :
    items.mapM change = others.mapM changeOther := by
  induction same with
  | nil => rfl
  | cons first _ inductionHypothesis =>
      rw [List.mapM_cons, List.mapM_cons, first, inductionHypothesis]

end StaticSite.Related
