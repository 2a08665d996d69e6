import Mathlib.Logic.Relation
import StaticSite.Proofs.Json.Depth

/-!
Contract: visits of all values of a value, whatever their order.

Owns:
- visits that take the values still to visit in any order, and put those inside a container back in
  any order;
- the law that every visit comes to an end, never gets stuck, and gives the answer that the depth
  of the value prescribes.

Does not own: the visit that takes the first value each time (see `StaticSite.Json.Depth`).
-/

namespace StaticSite.Json

/-! ## Visits in any order -/

/-- A step of a visit: any value still to visit is taken. A scalar is done with; a container within
the limit leaves the values inside, one level further, among the others in any order. -/
inductive VisitStep (limit : Nat) : List (Json × Nat) → List (Json × Nat) → Prop where
  | scalar {pending rest next : List (Json × Nat)} {value : Json} {level : Nat}
      (taken : pending.Perm ((value, level) :: rest)) (isScalar : value.children? = none)
      (left : next.Perm rest) : VisitStep limit pending next
  | container {pending rest next : List (Json × Nat)} {value : Json} {inside : List Json}
      {level : Nat} (taken : pending.Perm ((value, level) :: rest))
      (isContainer : value.children? = some inside) (within : level ≤ limit)
      (left : next.Perm ((inside.map fun item => (item, level + 1)) ++ rest)) :
      VisitStep limit pending next

/-- The ends of a visit: nothing is left, or any container beyond the limit is taken. -/
inductive VisitEnds (limit : Nat) : List (Json × Nat) → Bool → Prop where
  | exhausted : VisitEnds limit [] false
  | beyond {pending : List (Json × Nat)} {value : Json} {inside : List Json} {level : Nat}
      (member : (value, level) ∈ pending) (isContainer : value.children? = some inside)
      (deep : limit < level) : VisitEnds limit pending true

/-- Any number of steps of a visit. -/
def Visits (limit : Nat) : List (Json × Nat) → List (Json × Nat) → Prop :=
  Relation.ReflTransGen (VisitStep limit)

/-! ## Visits end -/

theorem pendingSize_cons (value : Json) (level : Nat) (pending : List (Json × Nat)) :
    pendingSize ((value, level) :: pending) = value.size + pendingSize pending :=
  rfl

/-- The number of values in all values still to visit does not depend on their order. -/
theorem pendingSize_eq_of_perm {pending other : List (Json × Nat)} (same : pending.Perm other) :
    pendingSize pending = pendingSize other := by
  induction same with
  | nil => rfl
  | cons _ _ inductionHypothesis =>
      rw [pendingSize_cons, pendingSize_cons, inductionHypothesis]
  | swap _ _ _ =>
      rw [pendingSize_cons, pendingSize_cons, pendingSize_cons, pendingSize_cons]
      omega
  | trans _ _ first second => exact first.trans second

/-- Every step leaves fewer values in what is still to visit. -/
theorem VisitStep.pendingSize_lt {limit : Nat} {pending next : List (Json × Nat)}
    (step : VisitStep limit pending next) : pendingSize next < pendingSize pending := by
  cases step with
  | @scalar rest _ value level taken isScalar left =>
      have positive := value.size_pos
      rw [pendingSize_eq_of_perm taken, pendingSize_eq_of_perm left, pendingSize_cons]
      omega
  | @container rest _ value inside level taken isContainer within left =>
      have isSize := size_of_children? isContainer
      rw [pendingSize_eq_of_perm taken, pendingSize_eq_of_perm left, pendingSize_append,
        pendingSize_map, pendingSize_cons]
      omega

/-- No visit goes on for ever. -/
theorem wellFounded_visitStep (limit : Nat) :
    WellFounded fun next pending => VisitStep limit pending next :=
  Subrelation.wf VisitStep.pendingSize_lt (measure pendingSize).wf

/-- A visit can always go on or end. -/
theorem exists_visitEnds_or_visitStep (limit : Nat) (pending : List (Json × Nat)) :
    (∃ answer, VisitEnds limit pending answer) ∨ ∃ next, VisitStep limit pending next := by
  cases pending with
  | nil => exact Or.inl ⟨false, .exhausted⟩
  | cons entry rest =>
      obtain ⟨value, level⟩ := entry
      cases isContainer : value.children? with
      | none => exact Or.inr ⟨rest, .scalar (.refl _) isContainer (.refl _)⟩
      | some inside =>
          rcases Nat.lt_or_ge limit level with deep | within
          · exact Or.inl ⟨true, .beyond List.mem_cons_self isContainer deep⟩
          · exact Or.inr ⟨_, .container (.refl _) isContainer within (.refl _)⟩

/-! ## The answer of a visit -/

/-- Whether some value still to visit reaches beyond the limit, counted from its level. -/
def ReachesBeyond (limit : Nat) (pending : List (Json × Nat)) : Prop :=
  ∃ entry ∈ pending, entry.1.depth ≠ 0 ∧ limit + 1 < entry.2 + entry.1.depth

theorem reachesBeyond_iff_of_perm {limit : Nat} {pending other : List (Json × Nat)}
    (same : pending.Perm other) : ReachesBeyond limit pending ↔ ReachesBeyond limit other := by
  simp only [ReachesBeyond, same.mem_iff]

theorem reachesBeyond_cons_iff {limit level : Nat} {value : Json} {pending : List (Json × Nat)} :
    ReachesBeyond limit ((value, level) :: pending) ↔
      (value.depth ≠ 0 ∧ limit + 1 < level + value.depth) ∨ ReachesBeyond limit pending := by
  simp only [ReachesBeyond, List.mem_cons, or_and_right, exists_or, exists_eq_left]

/-- What a step leaves reaches beyond the limit exactly if what it began with does. -/
theorem VisitStep.reachesBeyond_iff {limit : Nat} {pending next : List (Json × Nat)}
    (step : VisitStep limit pending next) :
    ReachesBeyond limit pending ↔ ReachesBeyond limit next := by
  cases step with
  | @scalar rest _ value level taken isScalar left =>
      have flat := depth_of_children?_none isScalar
      rw [reachesBeyond_iff_of_perm taken, reachesBeyond_iff_of_perm left, reachesBeyond_cons_iff,
        flat]
      simp
  | @container rest _ value inside level taken isContainer within left =>
      rw [reachesBeyond_iff_of_perm taken, reachesBeyond_iff_of_perm left, reachesBeyond_cons_iff,
        ← exists_inside_iff isContainer within]
      simp only [ReachesBeyond, List.mem_append, or_and_right, exists_or]

theorem Visits.reachesBeyond_iff {limit : Nat} {pending next : List (Json × Nat)}
    (visits : Visits limit pending next) :
    ReachesBeyond limit pending ↔ ReachesBeyond limit next := by
  induction visits with
  | refl => exact Iff.rfl
  | tail _ step inductionHypothesis => exact inductionHypothesis.trans step.reachesBeyond_iff

theorem VisitEnds.answer_iff {limit : Nat} {pending : List (Json × Nat)} {answer : Bool}
    (ends : VisitEnds limit pending answer) : answer = true ↔ ReachesBeyond limit pending := by
  cases ends with
  | exhausted => simp [ReachesBeyond]
  | @beyond _ value inside level member isContainer deep =>
      have isDepth := depth_of_children?_some isContainer
      refine iff_of_true rfl ⟨(value, level), member, ?_, ?_⟩
      · rw [isDepth]
        exact Nat.succ_ne_zero _
      · dsimp only
        omega

theorem Visits.answer_eq {limit : Nat} {pending last : List (Json × Nat)} {answer : Bool}
    (visits : Visits limit pending last) (ends : VisitEnds limit last answer) :
    answer = exceeds limit pending := by
  rw [Bool.eq_iff_iff, ends.answer_iff, ← visits.reachesBeyond_iff]
  exact (exceeds_iff limit pending).symm

/-- Taking the first value each time is one way to visit. -/
theorem exists_visits_exceeds (limit : Nat) (pending : List (Json × Nat)) :
    ∃ last, Visits limit pending last ∧ VisitEnds limit last (exceeds limit pending) := by
  induction pending using exceeds.induct limit with
  | case1 =>
      rw [exceeds]
      exact ⟨[], .refl, .exhausted⟩
  | case2 value level pending isScalar inductionHypothesis =>
      obtain ⟨last, visits, ends⟩ := inductionHypothesis
      rw [exceeds_scalar isScalar]
      exact ⟨last, .head (.scalar (.refl _) isScalar (.refl _)) visits, ends⟩
  | case3 value level pending inside isContainer beyond =>
      rw [exceeds_container isContainer, if_pos beyond]
      exact ⟨_, .refl, .beyond List.mem_cons_self isContainer beyond⟩
  | case4 value level pending inside isContainer within inductionHypothesis =>
      obtain ⟨last, visits, ends⟩ := inductionHypothesis
      rw [exceeds_container isContainer, if_neg within]
      exact ⟨last, .head (.container (.refl _) isContainer (Nat.not_lt.mp within) (.refl _)) visits,
        ends⟩

/-- The test for nesting finds out whether the depth of a value exceeds the limit, and so does every
other visit of its values, in whatever order it takes them and puts back those inside containers:
none of them goes on for ever, each of them can go on until it ends, and all end with the same
answer, that of the test. -/
theorem isDeeperThan_in_any_order (limit : Nat) (value : Json) :
    (value.isDeeperThan limit = true ↔ limit < value.depth) ∧
      (WellFounded fun next pending => VisitStep limit pending next) ∧
      (∀ pending, Visits limit [(value, 1)] pending →
        (∃ answer, VisitEnds limit pending answer) ∨ ∃ next, VisitStep limit pending next) ∧
      (∀ pending answer, Visits limit [(value, 1)] pending → VisitEnds limit pending answer →
        answer = value.isDeeperThan limit) ∧
      ∃ pending, Visits limit [(value, 1)] pending ∧
        VisitEnds limit pending (value.isDeeperThan limit) := by
  have isDepth : value.isDeeperThan limit = true ↔ limit < value.depth := by
    rw [← Bool.not_eq_false, isDeeperThan_eq_false_iff, Nat.not_le]
  exact ⟨isDepth, wellFounded_visitStep limit,
    fun pending _ => exists_visitEnds_or_visitStep limit pending,
    fun _ _ visits ends => visits.answer_eq ends, exists_visits_exceeds limit _⟩

/-- A list in an object in a list is three levels deep. -/
example : (array [.int 1, .object [("a", .array []), ("b", .null)]]).isDeeperThan 2 = true ∧
    (array [.int 1, .object [("a", .array []), ("b", .null)]]).isDeeperThan 3 = false := by
  constructor <;> cbv

end StaticSite.Json
