/-!
Contract: values by name, in the order in which the names were first bound.

Owns:
- binding a name, which keeps the place of a name that is bound already;
- what a sequence of bindings leaves;
- the laws of look-up after binding.

Does not own: look-up itself, which is `List.lookup`.
-/

namespace StaticSite.Association

variable {Value : Type}

/-- The entries with `name` bound to `value`: in its old place if the name occurs,
otherwise at the end. -/
def bind (name : String) (value : Value) : List (String × Value) → List (String × Value)
  | [] => [(name, value)]
  | (existing, old) :: others =>
      if existing == name then
        (name, value) :: others
      else
        (existing, old) :: bind name value others

/-- What a sequence of bindings leaves: of equal names the last value counts, at the
place of the first. -/
def ofBindings (bindings : List (String × Value)) : List (String × Value) :=
  bindings.foldl (fun entries binding => bind binding.1 binding.2 entries) []

theorem lookup_bind_self (name : String) (value : Value) (entries : List (String × Value)) :
    (bind name value entries).lookup name = some value := by
  induction entries with
  | nil => simp [bind]
  | cons entry others inductionHypothesis =>
      obtain ⟨existing, old⟩ := entry
      by_cases same : existing = name
      · simp [bind, same]
      · have differs : (name == existing) = false :=
          beq_eq_false_iff_ne.mpr fun equal => same equal.symm
        simp [bind, same, List.lookup_cons, differs, inductionHypothesis]

theorem lookup_bind_of_ne {name other : String} (differs : other ≠ name) (value : Value)
    (entries : List (String × Value)) :
    (bind name value entries).lookup other = entries.lookup other := by
  have differsTest : (other == name) = false := beq_eq_false_iff_ne.mpr differs
  induction entries with
  | nil => simp [bind, List.lookup_cons, differsTest]
  | cons entry others inductionHypothesis =>
      obtain ⟨existing, old⟩ := entry
      by_cases same : existing = name
      · simp [bind, same, List.lookup_cons, differsTest]
      · simp only [bind, beq_iff_eq, same, if_false, List.lookup_cons]
        rw [inductionHypothesis]

/-- The names after a binding: the new one comes last unless it was there. -/
theorem names_bind (name : String) (value : Value) (entries : List (String × Value)) :
    (bind name value entries).map Prod.fst =
      if name ∈ entries.map Prod.fst then entries.map Prod.fst
      else entries.map Prod.fst ++ [name] := by
  induction entries with
  | nil => simp [bind]
  | cons entry others inductionHypothesis =>
      obtain ⟨existing, old⟩ := entry
      by_cases same : existing = name
      · subst same
        simp [bind]
      · have differs : name ≠ existing := fun equal => same equal.symm
        simp only [bind, beq_iff_eq, same, if_false, List.map_cons, inductionHypothesis,
          List.mem_cons, differs, false_or]
        split <;> rfl

end StaticSite.Association
