import StaticSite.Json.Basic

/-!
Contract: limits on nesting.

Owns:
- the test whether a value is nested deeper than a limit, with a list of values
  still to visit instead of recursion.

Does not own: the depth itself (see `StaticSite.Json.Basic`).
-/

namespace StaticSite.Json

mutual

/-- The number of values in a value, itself included. -/
def size : Json → Nat
  | array items => sizeOfItems items + 1
  | object members => sizeOfMembers members + 1
  | _ => 1

def sizeOfItems : List Json → Nat
  | [] => 0
  | item :: others => item.size + sizeOfItems others

def sizeOfMembers : List (String × Json) → Nat
  | [] => 0
  | (_, value) :: others => value.size + sizeOfMembers others

end

/-- The values directly inside a container; a scalar is no container. -/
def children? : Json → Option (List Json)
  | array items => some items
  | object members => some (members.map Prod.snd)
  | _ => none

/-- The number of values in all values still to visit. -/
def pendingSize (pending : List (Json × Nat)) : Nat :=
  sizeOfItems (pending.map Prod.fst)

theorem sizeOfMembers_eq (members : List (String × Json)) :
    sizeOfMembers members = sizeOfItems (members.map Prod.snd) := by
  induction members with
  | nil => rfl
  | cons entry others inductionHypothesis =>
      simp [sizeOfMembers, sizeOfItems, inductionHypothesis]

theorem size_of_children? {value : Json} {inside : List Json}
    (isContainer : value.children? = some inside) :
    value.size = sizeOfItems inside + 1 := by
  cases value <;> simp [children?] at isContainer
  · subst isContainer
    rfl
  · subst isContainer
    simp [size, sizeOfMembers_eq]

theorem sizeOfItems_append (first second : List Json) :
    sizeOfItems (first ++ second) = sizeOfItems first + sizeOfItems second := by
  induction first with
  | nil => simp [sizeOfItems]
  | cons item others inductionHypothesis =>
      simp only [List.cons_append, sizeOfItems, inductionHypothesis]
      omega

theorem pendingSize_append (first second : List (Json × Nat)) :
    pendingSize (first ++ second) = pendingSize first + pendingSize second := by
  simp [pendingSize, sizeOfItems_append]

theorem pendingSize_map (level : Nat) (items : List Json) :
    pendingSize (items.map fun item => (item, level)) = sizeOfItems items := by
  simp [pendingSize, Function.comp_def]

theorem size_pos (value : Json) : 0 < value.size := by
  cases value <;> simp [size]

/-- Whether a container lies at a level beyond the limit among the values still to
visit, each paired with its level. -/
def exceeds (limit : Nat) : List (Json × Nat) → Bool
  | [] => false
  | (value, level) :: pending =>
      match _isContainer : value.children? with
      | none => exceeds limit pending
      | some inside =>
          if limit < level then
            true
          else
            exceeds limit ((inside.map fun item => (item, level + 1)) ++ pending)
  termination_by pending => pendingSize pending
  decreasing_by
    · have positive := value.size_pos
      simp only [pendingSize, List.map_cons, sizeOfItems]
      omega
    · rw [pendingSize_append, pendingSize_map]
      have sizeEq := size_of_children? (by assumption)
      simp only [pendingSize, List.map_cons, sizeOfItems]
      omega

def isDeeperThan (limit : Nat) (value : Json) : Bool :=
  exceeds limit [(value, 1)]

end StaticSite.Json
